import EnvInject.Proofs.Placeholder.Rescan

/-!
# Filling as splicing

`Splices` says what it is to put values in the place of tokens, without an offset that runs along:
at each token the whole falls into what stands before the token, what the token spans and what
follows. The first stays, the second gives way to the value, if there is one, and the last is
spliced likewise. Bytes and text are spliced by the same rules, text being measured in bytes.

Whatever tokens in order are filled, `fill` gives the one splicing of the contents (`fill_exact`).
The step is `fillFrom_splices`. A token without a value leaves the offset up to which `fillFrom` has
copied behind, so the stretch that is still to be copied is a part of the statement.
-/

namespace EnvInject

/-- `Splices size value offset whole found result`: if `whole` begins at `offset`, putting the value
of each token of `found` in the place of what the token spans makes `result` of it. A token without
a value keeps what it spans. -/
inductive Splices {α : Type} [Append α] (size : α → Nat) (value : Token → Option α) :
    Nat → α → List Token → α → Prop
  | rest {offset : Nat} (whole : α) : Splices size value offset whole [] whole
  | token {offset : Nat} {kept spanned behind result : α} {token : Token} {found : List Token}
    (start : token.span.start = offset + size kept)
    (stop : token.span.stop = token.span.start + size spanned)
    (later : Splices size value token.span.stop behind found result) :
    Splices size value offset (kept ++ (spanned ++ behind)) (token :: found)
      (kept ++ ((value token).getD spanned ++ result))

/-- Bytes are spliced with the UTF-8 form of values. -/
def SplicesBytes (values : String → Option String) : Nat → Bytes → List Token → Bytes → Prop :=
  Splices List.length fun token => (values token.name).map Utf8.encode

/-- By how many bytes the tokens that end at an offset or before it move what stands there. -/
def shiftAt (values : String → Option String) (found : List Token) (offset : Nat) : Int :=
  ((found.filter fun token => token.span.stop ≤ offset).map (growth values)).sum

/-! ## There is one splicing -/

/-- Where equal wholes with parts of one size in front have equal parts, there is at most one
splicing. -/
theorem Splices.unique {α : Type} [Append α] {size : α → Nat} {value : Token → Option α}
    (cancel : ∀ a b c d : α, a ++ b = c ++ d → size a = size c → a = c ∧ b = d)
    {offset : Nat} {whole result other : α} {found : List Token}
    (first : Splices size value offset whole found result)
    (second : Splices size value offset whole found other) : result = other := by
  induction first generalizing other with
  | rest whole =>
    cases second
    rfl
  | @token offset kept spanned behind result token found start stop later ih =>
    generalize same : kept ++ (spanned ++ behind) = whole at second
    cases second with
    | @token _ kept' spanned' behind' result' _ _ start' stop' later' =>
      obtain ⟨rfl, sameRest⟩ := cancel _ _ _ _ same (by omega)
      obtain ⟨rfl, rfl⟩ := cancel _ _ _ _ sameRest (by omega)
      rw [ih later']

theorem SplicesBytes.unique {values : String → Option String} {offset : Nat}
    {whole result other : Bytes} {found : List Token}
    (first : SplicesBytes values offset whole found result)
    (second : SplicesBytes values offset whole found other) : result = other :=
  Splices.unique (fun _ _ _ _ => List.append_inj) first second

/-! ## Filling is splicing -/

variable {values : String → Option String} {contents : Bytes} {found : List Token}

theorem drop_eq_append_drop (bytes : Bytes) {start stop : Nat} (le : start ≤ stop) :
    bytes.drop start = (bytes.take stop).drop start ++ bytes.drop stop := by
  have rejoined : stop = start + (stop - start) := (Nat.add_sub_cancel' le).symm
  calc bytes.drop start
      = (bytes.drop start).take (stop - start) ++ (bytes.drop start).drop (stop - start) :=
        (List.take_append_drop _ _).symm
    _ = (bytes.take stop).drop start ++ bytes.drop stop := by
        rw [List.drop_take, List.drop_drop, ← rejoined]

theorem length_stretch {start stop : Nat} (within : stop ≤ contents.length) :
    ((contents.take stop).drop start).length = stop - start := by
  rw [List.length_drop, List.length_take, Nat.min_eq_left within]

/-- Filling copies the stretch from `done` to `position` and splices what follows. -/
theorem fillFrom_splices (values : String → Option String) {done position : Nat}
    (le : done ≤ position) (ordered : InOrder contents.length position found) :
    ∃ result, fillFrom values contents done found =
        some ((contents.take position).drop done ++ result) ∧
      SplicesBytes values position (contents.drop position) found result := by
  induction found generalizing done position with
  | nil =>
    have within : position ≤ contents.length := ordered
    refine ⟨contents.drop position, ?_, .rest _⟩
    rw [fillFrom, slice?_eq_some (Nat.le_trans le within) (Nat.le_refl _), List.take_length,
      drop_eq_append_drop contents le]
  | cons token rest ih =>
    obtain ⟨before, forward, later⟩ := ordered
    have within : token.span.stop ≤ contents.length := later.le_stop
    have startWithin : token.span.start ≤ contents.length := Nat.le_trans forward within
    let kept := (contents.take token.span.start).drop position
    let spanned := (contents.take token.span.stop).drop token.span.start
    have whole : contents.drop position =
        kept ++ (spanned ++ contents.drop token.span.stop) := by
      rw [drop_eq_append_drop contents before, drop_eq_append_drop contents forward]
    have starts : token.span.start = position + kept.length := by
      rw [length_stretch startWithin]
      omega
    have stops : token.span.stop = token.span.start + spanned.length := by
      rw [length_stretch within]
      omega
    have copied : (contents.take token.span.start).drop done =
        (contents.take position).drop done ++ kept := by
      rw [drop_eq_append_drop (contents.take token.span.start) le, List.take_take,
        Nat.min_eq_left before]
    cases set : values token.name with
    | none =>
      -- The token is passed over: what it spans joins the stretch that is still to be copied.
      obtain ⟨result, filled, splices⟩ :=
        ih (Nat.le_trans le (Nat.le_trans before forward)) later
      have passed : (contents.take token.span.stop).drop done =
          (contents.take token.span.start).drop done ++ spanned := by
        rw [drop_eq_append_drop (contents.take token.span.stop) (Nat.le_trans le before),
          List.take_take, Nat.min_eq_left forward]
      have spliced := Splices.token starts stops splices
      rw [set, ← whole] at spliced
      refine ⟨kept ++ (spanned ++ result), ?_, spliced⟩
      rw [fillFrom, set]
      dsimp only
      rw [filled, passed, copied, List.append_assoc, List.append_assoc]
    | some value =>
      obtain ⟨result, filled, splices⟩ := ih (Nat.le_refl token.span.stop) later
      have nothingCopied : (contents.take token.span.stop).drop token.span.stop = [] :=
        List.drop_eq_nil_of_le (by rw [List.length_take]; omega)
      have spliced := Splices.token starts stops splices
      rw [set, ← whole] at spliced
      refine ⟨kept ++ (Utf8.encode value ++ result), ?_, spliced⟩
      rw [nothingCopied, List.nil_append] at filled
      rw [fillFrom, set]
      simp [slice?_eq_some (Nat.le_trans le before) startWithin, filled, copied]

/-- Tokens in order can be spliced, and filling does it. -/
theorem fill_splices (values : String → Option String)
    (ordered : InOrder contents.length 0 found) :
    ∃ result, fill values contents found = some result ∧
      SplicesBytes values 0 contents found result := by
  obtain ⟨result, filled, splices⟩ := fillFrom_splices values (Nat.le_refl 0) ordered
  exact ⟨result, filled, splices⟩

/-! ## Where bytes go -/

/-- A splicing goes on behind its offset. -/
theorem SplicesBytes.le_stop {offset : Nat} {whole result : Bytes}
    (splices : SplicesBytes values offset whole found result) :
    ∀ token ∈ found, offset ≤ token.span.start ∧ token.span.start ≤ token.span.stop := by
  induction splices with
  | rest whole => simp
  | @token offset kept spanned behind result token found start stop later ih =>
    intro other member
    rcases List.mem_cons.1 member with rfl | member
    · omega
    · have := ih other member
      omega

theorem shiftAt_cons (token : Token) (found : List Token) (offset : Nat) :
    shiftAt values (token :: found) offset =
      (if token.span.stop ≤ offset then growth values token else 0) +
        shiftAt values found offset := by
  by_cases before : token.span.stop ≤ offset
  · simp [shiftAt, before]
  · simp [shiftAt, before]

theorem SplicesBytes.shiftAt_eq_zero {offset position : Nat} {whole result : Bytes}
    (splices : SplicesBytes values offset whole found result) (before : position < offset) :
    shiftAt values found position = 0 := by
  have none : found.filter (fun token => token.span.stop ≤ position) = [] := by
    rw [List.filter_eq_nil_iff]
    intro token member
    have := splices.le_stop token member
    simp only [decide_eq_true_eq]
    omega
  rw [shiftAt, none]
  rfl

/-- The bytes that a token spans are as many more after filling as its growth says. -/
theorem length_getD_eq {token : Token} {spanned : Bytes}
    (stop : token.span.stop = token.span.start + spanned.length) :
    ((((values token.name).map Utf8.encode).getD spanned).length : Int) =
      spanned.length + growth values token := by
  rw [growth]
  cases values token.name with
  | none => simp
  | some value =>
    rw [Option.map_some, Option.getD_some]
    dsimp only
    omega

theorem SplicesBytes.length_eq {offset : Nat} {whole result : Bytes}
    (splices : SplicesBytes values offset whole found result) :
    (result.length : Int) = whole.length + (found.map (growth values)).sum := by
  induction splices with
  | rest whole => simp
  | @token offset kept spanned behind result token found start stop later ih =>
    have longer := @length_getD_eq values token spanned stop
    simp only [List.length_append, List.map_cons, List.sum_cons, Nat.cast_add]
    omega

/-- A byte that no token with a value covers is moved by the growth of the tokens before it. -/
theorem SplicesBytes.getElem?_of_kept {offset position : Nat} {whole result : Bytes}
    (splices : SplicesBytes values offset whole found result) (within : position < whole.length)
    (uncovered : ∀ token ∈ found, isReplacedBy values (offset + position) token = false) :
    ∃ moved : Nat, (moved : Int) = position + shiftAt values found (offset + position) ∧
      result[moved]? = whole[position]? := by
  induction splices generalizing position with
  | rest whole => exact ⟨position, by simp [shiftAt], rfl⟩
  | @token offset kept spanned behind result token found start stop later ih =>
    by_cases inside : offset + position < token.span.stop
    · -- Nothing ends before the byte, so it stays where it is.
      have unmoved : shiftAt values (token :: found) (offset + position) = 0 := by
        rw [shiftAt_cons, if_neg (by omega), SplicesBytes.shiftAt_eq_zero later inside, add_zero]
      refine ⟨position, by rw [unmoved, add_zero], ?_⟩
      by_cases isKept : position < kept.length
      · rw [List.getElem?_append_left isKept, List.getElem?_append_left isKept]
      · have covers : token.span.start ≤ offset + position ∧ offset + position < token.span.stop :=
          ⟨by omega, inside⟩
        have unset : values token.name = none := by
          have notReplaced := uncovered token List.mem_cons_self
          simpa [isReplacedBy, covers] using notReplaced
        have isSpanned : position < (kept ++ spanned).length := by
          rw [List.length_append]
          omega
        rw [unset, Option.map_none, Option.getD_none, ← List.append_assoc, ← List.append_assoc,
          List.getElem?_append_left isSpanned, List.getElem?_append_left isSpanned]
    · obtain ⟨rest, same⟩ : ∃ rest, offset + position = token.span.stop + rest :=
        Nat.exists_eq_add_of_le (by omega)
      have position_eq : position = kept.length + (spanned.length + rest) := by omega
      have restWithin : rest < behind.length := by
        simp only [List.length_append] at within
        omega
      obtain ⟨moved, moved_eq, found_eq⟩ := ih restWithin fun other member => by
        rw [← same]
        exact uncovered other (List.mem_cons_of_mem _ member)
      have longer := @length_getD_eq values token spanned stop
      refine ⟨kept.length + (((values token.name).map Utf8.encode).getD spanned).length + moved,
        ?_, ?_⟩
      · rw [shiftAt_cons, if_pos (by omega), same]
        omega
      · rw [position_eq, ← Nat.add_assoc, ← List.append_assoc, ← List.append_assoc,
          ← List.length_append, ← List.length_append, List.getElem?_append_right
          (Nat.le_add_right _ _), List.getElem?_append_right (Nat.le_add_right _ _),
          Nat.add_sub_cancel_left, Nat.add_sub_cancel_left]
        exact found_eq

/-- Tokens in order are filled, wherever they come from, by the one splicing of the contents. Bytes
outside of the tokens that have a value move by what these tokens add before them, and the length
changes by what all of them add. -/
theorem fill_exact (checklist : Checklist) (ordered : InOrder contents.length 0 found) :
    ∃ result, fill checklist.value contents found = some result ∧
      (∀ other, SplicesBytes checklist.value 0 contents found other ↔ other = result) ∧
      (∀ offset byte, contents[offset]? = some byte →
        (∀ token ∈ found, isReplacedBy checklist.value offset token = false) →
        ∃ moved : Nat, (moved : Int) = offset + shiftAt checklist.value found offset ∧
          result[moved]? = some byte) ∧
      (result.length : Int) = contents.length + (found.map (growth checklist.value)).sum := by
  obtain ⟨result, filled, splices⟩ := fill_splices checklist.value ordered
  refine ⟨result, filled, fun other => ⟨fun spliced => spliced.unique splices, ?_⟩, ?_,
    splices.length_eq⟩
  · rintro rfl
    exact splices
  · intro offset byte here uncovered
    obtain ⟨within, -⟩ := List.getElem?_eq_some_iff.1 here
    rw [← Nat.zero_add offset] at uncovered
    obtain ⟨moved, moved_eq, kept⟩ := splices.getElem?_of_kept within uncovered
    rw [Nat.zero_add] at moved_eq
    exact ⟨moved, moved_eq, kept.trans here⟩

/-- A value longer than what it replaces, a name on the checklist that is unset, an empty span and
an empty value. -/
theorem fill_exact_mixed :
    let contents : Bytes := [0x30, 0x31, 0x32, 0x33, 0x34, 0x35, 0x36, 0x37, 0x38, 0x39]
    let found : List Token := [⟨⟨1, 3⟩, "A"⟩, ⟨⟨4, 6⟩, "B"⟩, ⟨⟨7, 7⟩, "A"⟩, ⟨⟨8, 9⟩, "C"⟩]
    let checklist :=
      ((Checklist.empty.enter "A" (some "xyz")).enter "B" none).enter "C" (some "")
    InOrder contents.length 0 found ∧
      ∃ result, fill checklist.value contents found = some result ∧
        result = [0x30, 0x78, 0x79, 0x7A, 0x33, 0x34, 0x35, 0x36, 0x78, 0x79, 0x7A, 0x37, 0x39] ∧
        SplicesBytes checklist.value 0 contents found result ∧
        shiftAt checklist.value found 9 = 3 ∧
        (∃ moved : Nat, (moved : Int) = 9 + 3 ∧ result[moved]? = some 0x39) ∧
        (result.length : Int) = 10 + 3 := by
  intro contents found checklist
  have ordered : InOrder contents.length 0 found := by simp [InOrder, found, contents]
  obtain ⟨result, filled, splices_iff, kept, length⟩ := fill_exact checklist ordered
  have shift : shiftAt checklist.value found 9 = 3 := by decide
  have total : (found.map (growth checklist.value)).sum = 3 := by decide
  have moved := kept 9 0x39 rfl (by decide)
  rw [shift] at moved
  rw [total] at length
  exact ⟨ordered, result, filled, Option.some.inj (filled.symm.trans (by decide)),
    (splices_iff result).2 rfl, shift, moved, length⟩

end EnvInject
