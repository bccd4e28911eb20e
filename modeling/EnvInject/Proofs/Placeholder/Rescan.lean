import EnvInject.Checklist
import EnvInject.Proofs.Placeholder.Filling
import Mathlib.Algebra.Ring.Int.Defs

/-!
# Reading a filled file again

A value may hold a placeholder, or complete one together with the text around it. `Inert` values are
those that do neither behind any part of the marker: filling with them leaves exactly the tokens
without a value, and moves each by what the values before it add (`Reads.fillParts`,
`tokensOf_fillParts`). No weaker condition would do, as a value that is not inert makes a
placeholder in some file (`exists_rescan_of_not_inert`).

The reason why inert values are safe is local. The bytes after a token do not go on with its name,
so a new placeholder can leave a value only with the point of its marker (`starts_of_completed`);
and what starts before a value would be a placeholder of the old file if it did not reach the value
(`Reads.nameAt?_filled_eq_none`).
-/

namespace EnvInject

open Placeholder

variable {values : String → Option String}

namespace Placeholder

/-- The marker without the point at its end. -/
def stem : Bytes :=
  [0x5F, 0x5F, 0x72, 0x65, 0x61, 0x63, 0x74, 0x65, 0x6E, 0x76]

theorem marker_eq : marker = stem ++ [0x2E] := rfl

theorem isNamePart_of_mem_stem : ∀ byte ∈ stem, isNamePart byte = true :=
  List.all_eq_true.1 (by decide)

/-- A value that holds no placeholder and completes none: behind at most ten bytes of the marker,
and before a point and a name, it makes no token. -/
def Inert (value : Bytes) : Prop :=
  ∀ count ≤ 10, tokens (marker.take count ++ value ++ [0x2E, 0x41]) = []

instance (value : Bytes) : Decidable (Inert value) :=
  inferInstanceAs (Decidable (∀ count ≤ 10, _))

theorem Inert.nameAt?_eq_none {value start rest : Bytes} (inert : Inert value)
    (split : stem = start ++ rest) : nameAt? (start ++ value ++ [0x2E, 0x41]) = none := by
  have isTake : start = marker.take start.length := by
    rw [marker_eq, split, List.append_assoc, List.take_left]
  have short : start.length ≤ 10 := by
    have length := congrArg List.length split
    rw [List.length_append] at length
    exact Nat.le_trans (Nat.le_add_right _ _) (Nat.le_of_eq length.symm)
  have none := (tokens_eq_nil_iff _).1 (inert start.length short)
  rw [← isTake] at none
  exact none _ (List.suffix_refl _)

/-! ## Where a new placeholder would start -/

/-- A value that completes the marker behind a start of it does so before a point as well. Only the
point can lie outside of the value, since the bytes after it do not go on with a name. -/
theorem starts_of_completed {start rest value after more : Bytes} {first : UInt8}
    (split : stem = start ++ rest) (ends : EndsName after) (isStart : isNameStart first = true)
    (completed : start ++ value ++ after = marker ++ first :: more) :
    (nameAt? (start ++ value ++ [0x2E, 0x41])).isSome = true := by
  have whole : value ++ after = (rest ++ [0x2E, first]) ++ more := by
    rw [marker_eq, split] at completed
    simpa using completed
  have startsWith (tail : Bytes) (inside : value = rest ++ [0x2E, first] ++ tail) :
      (nameAt? (start ++ value ++ [0x2E, 0x41])).isSome = true := by
    rw [isSome_nameAt?_iff]
    refine ⟨first, tail ++ [0x2E, 0x41], ?_, isStart⟩
    rw [inside, marker_eq, split]
    simp
  have pointOutside (inside : value = rest) :
      (nameAt? (start ++ value ++ [0x2E, 0x41])).isSome = true := by
    rw [isSome_nameAt?_iff]
    refine ⟨0x41, [], ?_, by decide⟩
    rw [inside, marker_eq, split]
    simp
  have restIsPart : ∀ byte ∈ rest, isNamePart byte = true := fun byte member =>
    isNamePart_of_mem_stem byte (by rw [split]; exact List.mem_append_right _ member)
  rcases List.append_eq_append_iff.1 whole with ⟨past, within, behind⟩ | ⟨tail, inside, -⟩
  · cases past with
    | nil => exact startsWith [] (by simpa using within.symm)
    | cons next past =>
      have notPart : isNamePart next = false := ends next (by rw [behind]; rfl)
      rcases List.append_eq_append_iff.1 within with ⟨gap, inside, outside⟩ | ⟨gap, inside, outside⟩
      · match gap, outside with
        | [], _ => exact pointOutside (by simpa using inside)
        | [_], outside =>
          simp only [List.cons_append, List.nil_append, List.cons.injEq] at outside
          rw [← outside.2.1, isNamePart_of_isNameStart isStart] at notPart
          cases notPart
        | _ :: _ :: _, outside => simp at outside
      · cases gap with
        | nil => exact pointOutside (by simpa using inside.symm)
        | cons _ gap =>
          obtain ⟨rfl, -⟩ := List.cons.inj outside
          rw [restIsPart _ (by rw [inside]; simp)] at notPart
          cases notPart
  · exact startsWith tail inside

/-- Filled parts go on with no name that the parts did not go on with. -/
theorem Reads.endsName_fillParts (values : String → Option String) {bytes : Bytes}
    {parts : List Part} (reads : Reads bytes parts) (ends : EndsName bytes) :
    EndsName (spell (fillParts values parts)) := by
  cases reads with
  | nil => exact .nil
  | plain absent reads => exact ends
  | placeholder isName _ reads =>
    have isPart := ends 0x5F rfl
    cases isPart

/-- Either nothing is filled, or there is a first value: the bytes before it stay, and those after
it do not go on with a name. -/
theorem Reads.fillParts_cases (values : String → Option String) {bytes : Bytes} {parts : List Part}
    (reads : Reads bytes parts) :
    spell (fillParts values parts) = bytes ∨
      ∃ kept name value rest after, bytes = kept ++ (marker ++ name ++ rest) ∧
        spell (fillParts values parts) = kept ++ Utf8.encode value ++ after ∧
        .placeholder name ∈ parts ∧ values (nameText name) = some value ∧ EndsName after := by
  induction reads with
  | nil => exact .inl rfl
  | @plain first rest parts _ _ ih =>
    rw [fillParts_cons, spell_append]
    rcases ih with same | ⟨kept, name, value, tail, after, split, filled, member, set, ends⟩
    · exact .inl (by rw [same]; rfl)
    · refine .inr ⟨first :: kept, name, value, tail, after, by rw [split]; rfl, ?_,
        List.mem_cons_of_mem _ member, set, ends⟩
      rw [filled]
      simp [fillPart, Part.bytes]
  | @placeholder name rest parts isName ends reads ih =>
    rw [fillParts_cons, spell_append]
    cases set : values (nameText name) with
    | some value =>
      refine .inr ⟨[], name, value, rest, spell (fillParts values parts), rfl, ?_, by simp, set,
        reads.endsName_fillParts values ends⟩
      simp [fillPart, set]
    | none =>
      have unfilled : spell (fillPart values (.placeholder name)) = marker ++ name := by
        simp [fillPart, set, Part.bytes]
      rw [unfilled]
      rcases ih with same | ⟨kept, other, value, tail, after, split, filled, member, set, ends⟩
      · exact .inl (by rw [same])
      · refine .inr ⟨marker ++ name ++ kept, other, value, tail, after, by rw [split]; simp, ?_,
          List.mem_cons_of_mem _ member, set, ends⟩
        rw [filled]
        simp

/-- Before a value nothing starts that did not start in the old file. -/
theorem Reads.nameAt?_filled_eq_none {first : UInt8} {rest : Bytes} {parts : List Part}
    (absent : nameAt? (first :: rest) = none) (reads : Reads rest parts)
    (inert : ∀ name value, .placeholder name ∈ parts → values (nameText name) = some value →
      Inert (Utf8.encode value)) :
    nameAt? (first :: spell (fillParts values parts)) = none := by
  rcases reads.fillParts_cases values with
    same | ⟨kept, name, value, tail, after, split, filled, member, set, ends⟩
  · rw [same]
    exact absent
  · rw [filled, nameAt?_eq_none_iff]
    intro next more starts
    cases isStart : isNameStart next with
    | false => rfl
    | true =>
      have whole :
          (first :: kept) ++ (Utf8.encode value ++ after) = stem ++ 0x2E :: next :: more := by
        simpa [marker_eq] using starts
      have oldStarts (byte : UInt8) (old : Bytes) (isStart : isNameStart byte = true)
          (same : first :: kept ++ (marker ++ name ++ tail) = marker ++ byte :: old) : False := by
        have isSome : (nameAt? (first :: rest)).isSome = true :=
          isSome_nameAt?_iff.2 ⟨byte, old, by rw [split, ← same]; rfl, isStart⟩
        rw [absent] at isSome
        cases isSome
      have completes (past : Bytes) (inStem : stem = first :: kept ++ past) : False := by
        have isSome := starts_of_completed inStem ends isStart (by simpa using starts)
        rw [(inert name value member set).nameAt?_eq_none inStem] at isSome
        cases isSome
      rcases List.append_eq_append_iff.1 whole with ⟨past, inStem, -⟩ | ⟨past, beyond, point⟩
      · exact (completes past inStem).elim
      · -- The bytes before the value reach beyond the stem: the old file had a placeholder there.
        match past, beyond, point with
        | [], beyond, _ => exact (completes [] (by simpa using beyond.symm)).elim
        | [_], beyond, point =>
          obtain ⟨rfl, -⟩ := List.cons.inj point
          refine (oldStarts 0x5F (marker.tail ++ name ++ tail) (by decide) ?_).elim
          rw [beyond, marker_eq]
          rfl
        | _ :: _ :: past, beyond, point =>
          obtain ⟨rfl, later⟩ := List.cons.inj point
          obtain ⟨rfl, -⟩ := List.cons.inj later
          refine (oldStarts next (past ++ (marker ++ name ++ tail)) isStart ?_).elim
          rw [beyond, marker_eq]
          simp

/-- Nothing starts within an inert value. -/
theorem Inert.reads {value after : Bytes} {parts : List Part} (inert : Inert value)
    (ends : EndsName after) (reads : Reads after parts) :
    Reads (value ++ after) (value.map .plain ++ parts) := by
  have absent : ∀ rest, rest <:+ value ++ [0x2E, 0x41] → nameAt? rest = none := by
    have none := inert 0 (Nat.zero_le _)
    rw [List.take_zero, List.nil_append] at none
    exact (tokens_eq_nil_iff _).1 none
  clear inert
  induction value with
  | nil => exact reads
  | cons first more ih =>
    refine .plain ?_ (ih fun rest suffix => absent rest (suffix.trans (List.suffix_cons _ _)))
    rw [nameAt?_eq_none_iff]
    intro next rest starts
    cases isStart : isNameStart next with
    | false => rfl
    | true =>
      have split : stem = [] ++ stem := rfl
      have completed : [] ++ (first :: more) ++ after = marker ++ next :: rest := starts
      have isSome := starts_of_completed split ends isStart completed
      rw [List.nil_append, absent _ (List.suffix_refl _)] at isSome
      cases isSome

/-- Filling with inert values makes a file whose parts are the filled parts. -/
theorem Reads.fillParts {bytes : Bytes} {parts : List Part} (reads : Reads bytes parts)
    (inert : ∀ name value, .placeholder name ∈ parts → values (nameText name) = some value →
      Inert (Utf8.encode value)) :
    Reads (spell (EnvInject.fillParts values parts)) (EnvInject.fillParts values parts) := by
  induction reads with
  | nil => exact .nil
  | @plain first rest parts absent reads ih =>
    have later : ∀ name value, .placeholder name ∈ parts → values (nameText name) = some value →
        Inert (Utf8.encode value) :=
      fun name value member => inert name value (List.mem_cons_of_mem _ member)
    rw [fillParts_cons, spell_append]
    exact .plain (reads.nameAt?_filled_eq_none absent later) (ih later)
  | @placeholder name rest parts isName ends reads ih =>
    have filled := ih fun name value member => inert name value (List.mem_cons_of_mem _ member)
    have filledEnds := reads.endsName_fillParts values ends
    rw [fillParts_cons, spell_append]
    cases set : values (nameText name) with
    | none =>
      have unfilled : fillPart values (.placeholder name) = [.placeholder name] := by
        rw [fillPart, set]
      rw [unfilled, spell_cons, spell_nil, List.append_nil]
      exact .placeholder isName filledEnds filled
    | some value =>
      have refilled : fillPart values (.placeholder name) = (Utf8.encode value).map .plain := by
        rw [fillPart, set]
      rw [refilled, spell_bytes]
      exact (inert name value (by simp) set).reads filledEnds filled

end Placeholder

/-! ## The tokens that are left -/

/-- By how many bytes filling a token lengthens a file. -/
def growth (values : String → Option String) (token : Token) : Int :=
  match values token.name with
  | none => 0
  | some value => (Utf8.encode value).length - ((token.span.stop : Int) - token.span.start)

/-- The tokens without a value, each with its name and the offsets from and up to which it stands
when all tokens before it, those of `before` included, are filled. -/
def survivors (values : String → Option String) (before : List Token) :
    List Token → List (String × Int × Int)
  | [] => []
  | token :: rest =>
    let shift := (before.map (growth values)).sum
    (match values token.name with
      | none => [(token.name, token.span.start + shift, token.span.stop + shift)]
      | some _ => []) ++ survivors values (before ++ [token]) rest

/-- A token as its name and its two offsets. -/
def Token.placed (token : Token) : String × Int × Int :=
  (token.name, token.span.start, token.span.stop)

theorem tokensOf_plain (position : Nat) (bytes : Bytes) (parts : List Part) :
    tokensOf position (bytes.map .plain ++ parts) = tokensOf (position + bytes.length) parts := by
  induction bytes generalizing position with
  | nil => rfl
  | cons first rest ih =>
    rw [List.map_cons, List.cons_append, tokensOf, ih, List.length_cons]
    congr 1
    omega

theorem sum_growth_concat (values : String → Option String) (before : List Token) (token : Token) :
    ((before ++ [token]).map (growth values)).sum =
      (before.map (growth values)).sum + growth values token := by
  simp

/-- The tokens of filled parts are the tokens without a value, moved by the growth before them. -/
theorem tokensOf_fillParts {parts : List Part} {before : List Token} {position moved : Nat}
    (shift : (moved : Int) = position + (before.map (growth values)).sum) :
    (tokensOf moved (fillParts values parts)).map Token.placed =
      survivors values before (tokensOf position parts) := by
  induction parts generalizing before position moved with
  | nil => rfl
  | cons part rest ih =>
    rw [fillParts_cons]
    cases part with
    | plain byte =>
      exact ih (by omega)
    | placeholder name =>
      let token : Token :=
        ⟨⟨position, position + (marker.length + name.length)⟩, nameText name⟩
      have sum := sum_growth_concat values before token
      cases set : values (nameText name) with
      | none =>
        have unfilled : fillPart values (.placeholder name) = [.placeholder name] := by
          rw [fillPart, set]
        have unmoved : growth values token = 0 := by
          rw [growth, set]
        have later :
            (tokensOf (moved + (marker.length + name.length)) (fillParts values rest)).map
                Token.placed =
              survivors values (before ++ [token])
                (tokensOf (position + (marker.length + name.length)) rest) :=
          ih (by omega)
        have here : Token.placed ⟨⟨moved, moved + (marker.length + name.length)⟩, nameText name⟩ =
            (token.name, token.span.start + (before.map (growth values)).sum,
              token.span.stop + (before.map (growth values)).sum) := by
          simp only [Token.placed, token, Prod.mk.injEq, true_and]
          omega
        rw [unfilled, List.cons_append, List.nil_append, tokensOf, tokensOf, survivors,
          List.map_cons, here, later, set]
        rfl
      | some value =>
        have refilled : fillPart values (.placeholder name) = (Utf8.encode value).map .plain := by
          rw [fillPart, set]
        have longer : growth values token =
            (Utf8.encode value).length - ((marker.length + name.length : Nat) : Int) := by
          rw [growth, set]
          simp only [token]
          omega
        have later :
            (tokensOf (moved + (Utf8.encode value).length) (fillParts values rest)).map
                Token.placed =
              survivors values (before ++ [token])
                (tokensOf (position + (marker.length + name.length)) rest) :=
          ih (by omega)
        rw [refilled, tokensOf_plain, tokensOf, survivors, later, set]
        rfl

theorem mem_tokensOf {name : Bytes} {parts : List Part} (member : .placeholder name ∈ parts)
    (position : Nat) : ∃ token ∈ tokensOf position parts, token.name = nameText name := by
  induction parts generalizing position with
  | nil => cases member
  | cons part rest ih =>
    rcases List.mem_cons.1 member with rfl | later
    · exact ⟨_, List.mem_cons_self, rfl⟩
    · cases part with
      | plain byte => exact ih later _
      | placeholder other =>
        obtain ⟨token, member, same⟩ := ih later (position + (marker.length + other.length))
        exact ⟨token, List.mem_cons_of_mem _ member, same⟩

theorem survivors_eq_nil {before found : List Token}
    (set : ∀ token ∈ found, (values token.name).isSome = true) :
    survivors values before found = [] := by
  induction found generalizing before with
  | nil => rfl
  | cons token rest ih =>
    obtain ⟨value, same⟩ := Option.isSome_iff_exists.1 (set token List.mem_cons_self)
    rw [survivors, same, ih fun other member => set other (List.mem_cons_of_mem _ member)]
    rfl

/-- A file filled with inert values has exactly the tokens without a value, where filling moved
them. -/
theorem tokens_filled {contents : Bytes}
    (inert : ∀ token ∈ tokens contents, ∀ value, values token.name = some value →
      Inert (Utf8.encode value)) :
    (tokens (filled values contents (tokens contents))).map Token.placed =
      survivors values [] (tokens contents) := by
  obtain ⟨parts, reads⟩ := exists_reads contents
  have inertParts : ∀ name value, .placeholder name ∈ parts → values (nameText name) = some value →
      Inert (Utf8.encode value) := by
    intro name value member set
    obtain ⟨token, member, same⟩ := mem_tokensOf member 0
    exact inert token (by rw [reads.tokens_eq]; exact member) value (by rw [same]; exact set)
  rw [reads.filled_eq, (reads.fillParts inertParts).tokens_eq, reads.tokens_eq]
  exact tokensOf_fillParts (by simp)

/-- Filled with inert values throughout, a file has no token left. -/
theorem tokens_filled_eq_nil {contents : Bytes}
    (inert : ∀ token ∈ tokens contents, ∃ value, values token.name = some value ∧
      Inert (Utf8.encode value)) :
    tokens (filled values contents (tokens contents)) = [] := by
  have inertIfSet : ∀ token ∈ tokens contents, ∀ value, values token.name = some value →
      Inert (Utf8.encode value) := by
    intro token member value set
    obtain ⟨given, same, inertGiven⟩ := inert token member
    rw [same] at set
    exact Option.some.inj set ▸ inertGiven
  have placed := tokens_filled inertIfSet
  rw [survivors_eq_nil fun token member => ?_] at placed
  · exact List.map_eq_nil_iff.1 placed
  · obtain ⟨value, same, -⟩ := inert token member
    rw [same]
    rfl

/-! ## No weaker condition -/

/-- A file with one placeholder, behind a part of the marker and before a point and a name. -/
def probe (count : Nat) : Bytes :=
  marker.take count ++ (marker ++ [0x41]) ++ [0x2E, 0x41]

theorem tokens_probe : ∀ count ≤ 10, tokens (probe count) = [⟨⟨count, count + 12⟩, "A"⟩] := by
  decide

/-- Filled, a probe is the value between the part of the marker and the point, with nothing else
near it. -/
theorem fill_probe {count : Nat} (le : count ≤ 10) {value : String}
    (set : values "A" = some value) :
    fill values (probe count) (tokens (probe count)) =
      some (marker.take count ++ Utf8.encode value ++ [0x2E, 0x41]) := by
  have start : (marker.take count).length = count := by
    rw [List.length_take, Nat.min_eq_left (Nat.le_trans le (by decide))]
  have whole : (probe count).length = count + 14 := by
    rw [probe, List.length_append, List.length_append, start]
    rfl
  have kept : (probe count).take count = marker.take count := by
    rw [probe, List.append_assoc]
    exact List.take_left' start
  have behind : (probe count).drop (count + 12) = [0x2E, 0x41] := by
    refine List.drop_left' ?_
    rw [List.length_append, start]
    rfl
  rw [tokens_probe count le, fill, fillFrom, set]
  simp only
  rw [fillFrom, slice?_eq_some (Nat.zero_le _) (by omega),
    slice?_eq_some (by omega) (Nat.le_refl _), List.drop_zero, kept, List.take_length, behind]
  rfl

/-- A value that is not inert makes a token in some file whose tokens are filled with it. -/
theorem exists_rescan_of_not_inert {value : String} (notInert : ¬ Inert (Utf8.encode value)) :
    ∃ contents, tokens contents ≠ [] ∧ (∀ token ∈ tokens contents, token.name = "A") ∧
      ∀ values : String → Option String, values "A" = some value →
        ∃ output, fill values contents (tokens contents) = some output ∧ tokens output ≠ [] := by
  simp only [Inert, not_forall] at notInert
  rcases notInert with ⟨count, le, made⟩
  refine ⟨probe count, ?_, ?_, fun values set => ⟨_, fill_probe le set, made⟩⟩
  · rw [tokens_probe count le]
    simp
  · rw [tokens_probe count le]
    simp

/-- Files filled with inert values, or left unfilled, have exactly the tokens that have no value,
each moved by what the values before it add. The condition on values cannot be weakened. -/
theorem rescan_exact :
    (∀ (contents : Bytes) (checklist : Checklist),
      (∀ token ∈ tokens contents, ∀ value, checklist.value token.name = some value →
        Inert (Utf8.encode value)) →
      ∃ output, fill checklist.value contents (tokens contents) = some output ∧
        (tokens output).map Token.placed = survivors checklist.value [] (tokens contents) ∧
        ((∀ token ∈ tokens contents, (checklist.value token.name).isSome = true) →
          tokens output = [])) ∧
    ∀ value : String, ¬ Inert (Utf8.encode value) →
      ∃ (contents : Bytes) (checklist : Checklist), tokens contents ≠ [] ∧
        (∀ token ∈ tokens contents, checklist.value token.name = some value) ∧
        ∃ output, fill checklist.value contents (tokens contents) = some output ∧
          tokens output ≠ [] := by
  refine ⟨fun contents checklist inert => ?_, fun value notInert => ?_⟩
  · have placed := tokens_filled inert
    refine ⟨_, fill_tokens _ _, placed, fun set => ?_⟩
    rw [survivors_eq_nil set] at placed
    exact List.map_eq_nil_iff.1 placed
  · obtain ⟨contents, nonempty, named, rescanned⟩ := exists_rescan_of_not_inert notInert
    have set : (Checklist.empty.enter "A" (some value)).value "A" = some value := by
      simp [Checklist.enter, Checklist.empty, Checklist.enterEntry, Checklist.value]
    refine ⟨contents, Checklist.empty.enter "A" (some value), nonempty, fun token member => ?_,
      rescanned _ set⟩
    rw [named token member]
    exact set

/-- A file with a variable that is set to an inert value and one that is unset, and a value that
holds a placeholder. -/
theorem rescan_exact_mixed :
    let contents := marker ++ [0x41, 0x3B] ++ marker ++ [0x42]
    let checklist := (Checklist.empty.enter "A" (some "x")).enter "B" none
    (∃ output, fill checklist.value contents (tokens contents) = some output ∧
      (tokens output).map Token.placed = [("B", 2, 14)]) ∧
    ¬ Inert (Utf8.encode "__reactenv.A") ∧
    ∃ (contents : Bytes) (checklist : Checklist), tokens contents ≠ [] ∧
      (∀ token ∈ tokens contents, checklist.value token.name = some "__reactenv.A") ∧
      ∃ output, fill checklist.value contents (tokens contents) = some output ∧
        tokens output ≠ [] := by
  intro contents checklist
  have found : tokens contents = [⟨⟨0, 12⟩, "A"⟩, ⟨⟨13, 25⟩, "B"⟩] := by decide
  have inert : ∀ token ∈ tokens contents, ∀ value, checklist.value token.name = some value →
      Inert (Utf8.encode value) := by
    rw [found]
    intro token member value set
    rcases List.mem_cons.1 member with rfl | member
    · have same : checklist.value "A" = some "x" := by decide
      rw [same] at set
      exact Option.some.inj set ▸ (by decide)
    · rw [List.mem_singleton.1 member] at set
      have unset : checklist.value "B" = none := by decide
      rw [unset] at set
      cases set
  have notInert : ¬ Inert (Utf8.encode "__reactenv.A") := by decide
  obtain ⟨output, filled, placed, -⟩ := rescan_exact.1 contents checklist inert
  have left : survivors checklist.value [] (tokens contents) = [("B", 2, 14)] := by decide
  exact ⟨⟨output, filled, placed.trans left⟩, notInert, rescan_exact.2 _ notInert⟩

end EnvInject
