import EnvInject.Placeholder.Filling
import EnvInject.Proofs.Placeholder.Parts

/-!
# What filling does at each offset

`filled` says offset by offset what becomes of a file whose tokens are filled: each byte stays, but
for those inside a token that has a value, and that value stands where the token starts. For tokens
in order, wherever they come from, `fill` succeeds and gives exactly this (`fill_eq_filled`).

The tokens of a file are in order, so a file can always be filled with its own tokens
(`fill_tokens`), and each of its parts is filled by itself (`Reads.filled_eq`).
-/

namespace EnvInject

open Placeholder

variable {values : String → Option String} {contents : Bytes}

/-- The bytes that a token is replaced by; none if it has no value. -/
def valueBytes (values : String → Option String) (token : Token) : Bytes :=
  ((values token.name).map Utf8.encode).getD []

/-- Whether the byte at an offset belongs to a token that has a value. -/
def isReplacedBy (values : String → Option String) (offset : Nat) (token : Token) : Bool :=
  (values token.name).isSome && decide (token.span.start ≤ offset ∧ offset < token.span.stop)

/-- What stands for an offset after filling: the values of the tokens that start there, and the byte
there unless it belongs to a token that has a value. -/
def filledAt (values : String → Option String) (contents : Bytes) (found : List Token)
    (offset : Nat) : Bytes :=
  (found.filter (·.span.start == offset)).flatMap (valueBytes values)
    ++ if found.any (isReplacedBy values offset) then [] else contents[offset]?.toList

/-- The contents with the value of each token that has one in place of the bytes of the token. The
offset after the last byte is one at which a token without bytes may stand. -/
def filled (values : String → Option String) (contents : Bytes) (found : List Token) : Bytes :=
  (List.range (contents.length + 1)).flatMap (filledAt values contents found)

/-! ## One token more -/

theorem filledAt_cons_of_none {token : Token} {rest : List Token}
    (unset : values token.name = none) :
    filledAt values contents (token :: rest) = filledAt values contents rest := by
  funext offset
  have noValue : valueBytes values token = [] := by simp [valueBytes, unset]
  have replacesNothing : isReplacedBy values offset token = false := by
    simp [isReplacedBy, unset]
  rw [filledAt, filledAt, List.any_cons, replacesNothing, Bool.false_or, List.filter_cons]
  split
  · rw [List.flatMap_cons, noValue, List.nil_append]
  · rfl

theorem InOrder.filter_start_eq_nil {stop start offset : Nat} {found : List Token}
    (ordered : InOrder stop start found) (before : offset < start) :
    found.filter (·.span.start == offset) = [] := by
  rw [List.filter_eq_nil_iff]
  intro token member
  have := ordered.le_start token member
  simp only [beq_iff_eq]
  omega

theorem InOrder.filledAt_eq {stop start offset : Nat} {found : List Token}
    (ordered : InOrder stop start found) (before : offset < start) :
    filledAt values contents found offset = contents[offset]?.toList := by
  have untouched : found.any (isReplacedBy values offset) = false := by
    rw [List.any_eq_false]
    intro token member
    have := ordered.le_start token member
    simp only [isReplacedBy, Bool.and_eq_true, decide_eq_true_eq]
    omega
  rw [filledAt, ordered.filter_start_eq_nil before, untouched]
  rfl

/-- A token with a value adds the value where it starts and leaves nothing of its bytes. -/
theorem filledAt_cons_of_some {stop offset : Nat} {token : Token} {rest : List Token}
    {value : String}
    (set : values token.name = some value) (ordered : InOrder stop token.span.stop rest) :
    filledAt values contents (token :: rest) offset =
      (if token.span.start = offset then Utf8.encode value else [])
        ++ if token.span.start ≤ offset ∧ offset < token.span.stop then []
          else filledAt values contents rest offset := by
  have replaces : isReplacedBy values offset token =
      decide (token.span.start ≤ offset ∧ offset < token.span.stop) := by
    simp [isReplacedBy, set]
  have starts : ((token :: rest).filter (·.span.start == offset)).flatMap (valueBytes values) =
      (if token.span.start = offset then Utf8.encode value else [])
        ++ (rest.filter (·.span.start == offset)).flatMap (valueBytes values) := by
    by_cases here : token.span.start = offset
    · simp [here, valueBytes, set]
    · simp [here]
  rw [filledAt, starts, List.any_cons, replaces, List.append_assoc]
  congr 1
  by_cases inside : token.span.start ≤ offset ∧ offset < token.span.stop
  · rw [ordered.filter_start_eq_nil inside.2, if_pos inside]
    simp [inside]
  · rw [if_neg inside, filledAt]
    simp [inside]

/-! ## Stretches of offsets -/

theorem range'_split {start middle stop : Nat} (le : start ≤ middle) (le' : middle ≤ stop) :
    List.range' start (stop - start) =
      List.range' start (middle - start) ++ List.range' middle (stop - middle) := by
  have joined := List.range'_append_1 (s := start) (m := middle - start) (n := stop - middle)
  rw [Nat.add_sub_cancel' le] at joined
  rw [joined]
  congr 1
  omega

theorem flatMap_range'_eq_nil {texts : Nat → Bytes} {start stop : Nat}
    (empty : ∀ offset, start ≤ offset → offset < stop → texts offset = []) :
    (List.range' start (stop - start)).flatMap texts = [] := by
  rw [List.flatMap_eq_nil_iff]
  intro offset member
  have := List.mem_range'_1.1 member
  exact empty offset (by omega) (by omega)

/-- The bytes of a stretch without tokens stay. -/
theorem flatMap_range'_kept (texts : Nat → Bytes) {start stop : Nat} (le : start ≤ stop)
    (within : stop ≤ contents.length)
    (kept : ∀ offset, start ≤ offset → offset < stop → texts offset = contents[offset]?.toList) :
    (List.range' start (stop - start)).flatMap texts = (contents.take stop).drop start := by
  induction stop, le using Nat.le_induction with
  | base => simp
  | succ stop le ih =>
    have before := ih (by omega) (fun offset low high => kept offset low (by omega))
    have last : texts stop = [contents[stop]] := by
      rw [kept stop le (by omega), List.getElem?_eq_getElem (by omega)]
      rfl
    rw [range'_split le (Nat.le_succ stop), List.flatMap_append, before,
      Nat.succ_sub (Nat.le_refl stop), Nat.sub_self,
      List.take_succ_eq_append_getElem (by omega), List.drop_append_of_le_length (by simp; omega)]
    simp [last]

/-! ## `fill` is `filled` -/

theorem slice?_eq_some {start stop : Nat} (le : start ≤ stop) (within : stop ≤ contents.length) :
    slice? contents start stop = some ((contents.take stop).drop start) := by
  rw [slice?, if_pos ⟨le, within⟩]

/-- From the start of a token with a value on there is the value, then what follows the token. -/
theorem flatMap_filledAt_cons_of_some {token : Token} {rest : List Token} {value : String}
    (set : values token.name = some value) (forward : token.span.start ≤ token.span.stop)
    (later : InOrder contents.length token.span.stop rest) :
    (List.range' token.span.start (contents.length + 1 - token.span.start)).flatMap
        (filledAt values contents (token :: rest)) =
      Utf8.encode value ++
        (List.range' token.span.stop (contents.length + 1 - token.span.stop)).flatMap
          (filledAt values contents rest) := by
  have within := later.le_stop
  let after (offset : Nat) : Bytes :=
    if token.span.start ≤ offset ∧ offset < token.span.stop then []
      else filledAt values contents rest offset
  have first : filledAt values contents (token :: rest) token.span.start =
      Utf8.encode value ++ after token.span.start := by
    rw [filledAt_cons_of_some set later, if_pos rfl]
  have others : ∀ offset, offset ≠ token.span.start →
      filledAt values contents (token :: rest) offset = after offset := by
    intro offset other
    rw [filledAt_cons_of_some set later, if_neg (Ne.symm other)]
    rfl
  have head : List.range' token.span.start (contents.length + 1 - token.span.start) =
      token.span.start ::
        List.range' (token.span.start + 1) (contents.length - token.span.start) := by
    rw [Nat.succ_sub (Nat.le_trans forward within), List.range'_succ]
  have tail : (List.range' (token.span.start + 1) (contents.length - token.span.start)).flatMap
        (filledAt values contents (token :: rest)) =
      (List.range' (token.span.start + 1) (contents.length - token.span.start)).flatMap after := by
    apply List.flatMap_congr
    intro offset member
    have := List.mem_range'_1.1 member
    exact others offset (by omega)
  have inside :
      (List.range' token.span.start (token.span.stop - token.span.start)).flatMap after = [] :=
    flatMap_range'_eq_nil fun offset low high => if_pos ⟨low, high⟩
  have outside :
      (List.range' token.span.stop (contents.length + 1 - token.span.stop)).flatMap after =
      (List.range' token.span.stop (contents.length + 1 - token.span.stop)).flatMap
        (filledAt values contents rest) := by
    apply List.flatMap_congr
    intro offset member
    have := List.mem_range'_1.1 member
    exact if_neg (by omega)
  calc (List.range' token.span.start (contents.length + 1 - token.span.start)).flatMap
        (filledAt values contents (token :: rest))
      = Utf8.encode value ++ (List.range' token.span.start
          (contents.length + 1 - token.span.start)).flatMap after := by
        rw [head, List.flatMap_cons, List.flatMap_cons, first, tail, List.append_assoc]
    _ = _ := by
        rw [range'_split forward (Nat.le_succ_of_le within), List.flatMap_append, inside, outside,
          List.nil_append]

/-- Filling puts together what `filledAt` says of each offset from `done` on. The induction is on
the tokens: one without a value leaves all to the rest, and one with a value splits the offsets at
its span. -/
theorem fillFrom_eq {found : List Token} {done : Nat}
    (ordered : InOrder contents.length done found) :
    fillFrom values contents done found =
      some ((List.range' done (contents.length + 1 - done)).flatMap
        (filledAt values contents found)) := by
  induction found generalizing done with
  | nil =>
    have le : done ≤ contents.length := ordered
    have kept := flatMap_range'_kept (filledAt values contents []) le (Nat.le_refl _)
      (fun offset _ _ => rfl)
    have atEnd : filledAt values contents [] contents.length = [] := by simp [filledAt]
    rw [fillFrom, slice?_eq_some le (Nat.le_refl _), range'_split le (Nat.le_succ _),
      List.flatMap_append, kept, Nat.succ_sub (Nat.le_refl _), Nat.sub_self]
    simp [atEnd]
  | cons token rest ih =>
    rcases ordered with ⟨le, forward, later⟩
    cases set : values token.name with
    | none =>
      rw [filledAt_cons_of_none set, fillFrom, set]
      exact ih (later.weaken (Nat.le_trans le forward))
    | some value =>
      have within : token.span.start ≤ contents.length := Nat.le_trans forward later.le_stop
      have here : InOrder contents.length token.span.start (token :: rest) :=
        ⟨Nat.le_refl _, forward, later⟩
      have kept := flatMap_range'_kept (filledAt values contents (token :: rest)) le within
        (fun offset _ before => here.filledAt_eq before)
      rw [fillFrom, set, range'_split le (Nat.le_succ_of_le within), List.flatMap_append, kept,
        flatMap_filledAt_cons_of_some set forward later]
      simp [slice?_eq_some le within, ih later]

/-- Tokens in order can be filled, wherever they come from. -/
theorem fill_eq_filled {found : List Token} (ordered : InOrder contents.length 0 found) :
    fill values contents found = some (filled values contents found) := by
  rw [fill, fillFrom_eq ordered, filled, List.range_eq_range', Nat.sub_zero]

theorem filled_nil (values : String → Option String) (contents : Bytes) :
    filled values contents [] = contents := by
  have isFilled := @fill_eq_filled values contents [] (Nat.zero_le _)
  rw [fill, fillFrom, slice?_eq_some (Nat.zero_le _) (Nat.le_refl _), List.take_length,
    List.drop_zero] at isFilled
  exact (Option.some.inj isFilled).symm

theorem fillFrom_congr {first second : String → Option String} {found : List Token}
    (agree : ∀ token ∈ found, first token.name = second token.name) (contents : Bytes)
    (done : Nat) : fillFrom first contents done found = fillFrom second contents done found := by
  induction found generalizing done with
  | nil => rfl
  | cons token rest ih =>
    have later := ih fun next member => agree next (List.mem_cons_of_mem _ member)
    rw [fillFrom, fillFrom, agree token List.mem_cons_self]
    simp only [later]

/-! ## Filling the tokens of a file -/

theorem tokens_inOrder (contents : Bytes) : InOrder contents.length 0 (tokens contents) := by
  obtain ⟨parts, reads⟩ := exists_reads contents
  have ordered := tokensOf_inOrder 0 parts
  rw [reads.spell_eq, Nat.zero_add] at ordered
  rw [reads.tokens_eq]
  exact ordered

theorem fill_tokens (values : String → Option String) (contents : Bytes) :
    fill values contents (tokens contents) = some (filled values contents (tokens contents)) :=
  fill_eq_filled (tokens_inOrder contents)

/-! ## Filling part by part -/

/-- What becomes of a part. -/
def fillPart (values : String → Option String) : Part → List Part
  | .plain byte => [.plain byte]
  | .placeholder name =>
    match values (nameText name) with
    | none => [.placeholder name]
    | some value => (Utf8.encode value).map .plain

/-- What becomes of parts in order. -/
def fillParts (values : String → Option String) (parts : List Part) : List Part :=
  parts.flatMap (fillPart values)

theorem fillParts_cons (part : Part) (rest : List Part) :
    fillParts values (part :: rest) = fillPart values part ++ fillParts values rest :=
  List.flatMap_cons

/-- The tokens of parts fill the parts: what was kept since the last value comes first. -/
theorem fillFrom_tokensOf (values : String → Option String) {parts : List Part}
    {done position : Nat} (le : done ≤ position)
    (within : position ≤ contents.length) (here : contents.drop position = spell parts) :
    fillFrom values contents done (tokensOf position parts) =
      some ((contents.take position).drop done ++ spell (fillParts values parts)) := by
  induction parts generalizing done position with
  | nil =>
    have atEnd : position = contents.length :=
      Nat.le_antisymm within (List.drop_eq_nil_iff.1 here)
    rw [tokensOf, fillFrom, slice?_eq_some (by omega) (Nat.le_refl _), atEnd]
    simp [fillParts]
  | cons part rest ih =>
    rw [spell_cons] at here
    have next : contents.drop (position + part.bytes.length) = spell rest := by
      rw [← List.drop_drop, here, List.drop_left]
    have grown : contents.take (position + part.bytes.length) =
        contents.take position ++ part.bytes := by
      rw [List.take_add, here, List.take_left]
    have keptLonger : (contents.take (position + part.bytes.length)).drop done =
        (contents.take position).drop done ++ part.bytes := by
      rw [grown, List.drop_append_of_le_length (by rw [List.length_take]; omega)]
    have room : position + part.bytes.length ≤ contents.length := by
      have length := congrArg List.length here
      rw [List.length_drop, List.length_append] at length
      omega
    rw [fillParts_cons, spell_append]
    cases part with
    | plain byte =>
      rw [tokensOf, ih (Nat.le_succ_of_le le) room next]
      exact congrArg some (by rw [← List.append_assoc]; exact congrArg (· ++ _) keptLonger)
    | placeholder name =>
      have length : (Part.placeholder name).bytes.length = marker.length + name.length :=
        List.length_append
      rw [length] at next keptLonger room
      cases set : values (nameText name) with
      | none =>
        have unfilled : fillPart values (.placeholder name) = [.placeholder name] := by
          rw [fillPart, set]
        rw [tokensOf, fillFrom, set, unfilled]
        simp only
        rw [ih (Nat.le_trans le (Nat.le_add_right _ _)) room next, keptLonger]
        simp
      | some value =>
        have refilled : fillPart values (.placeholder name) = (Utf8.encode value).map .plain := by
          rw [fillPart, set]
        rw [tokensOf, fillFrom, set, refilled, spell_bytes]
        simp only
        rw [slice?_eq_some le within, ih (Nat.le_refl _) room next]
        simp

/-- A file filled with its own tokens is filled part by part. -/
theorem Placeholder.Reads.filled_eq {parts : List Part} (reads : Reads contents parts) :
    filled values contents (tokens contents) = spell (fillParts values parts) := by
  have byParts := fillFrom_tokensOf values (Nat.le_refl 0) (Nat.zero_le _)
    (reads.spell_eq.symm : contents.drop 0 = spell parts)
  have byOffsets := fill_tokens values contents
  rw [fill, reads.tokens_eq, byParts] at byOffsets
  rw [reads.tokens_eq, ← Option.some.inj byOffsets]
  simp

end EnvInject
