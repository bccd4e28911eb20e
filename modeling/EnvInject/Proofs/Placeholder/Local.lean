import EnvInject.Checklist
import EnvInject.Proofs.Placeholder.Leftmost

/-!
# Both sides of a separator

A byte that is neither the point nor a byte of a name stands in no placeholder. So it cuts a file in
two: no placeholder begins before it and reaches it, and none that ends before it grows longer
without it. The parts of a file are therefore those before the separator, the separator, and those
after it (`Reads.append_separator`), which makes listing tokens and filling them local
(`filling_is_local`).
-/

namespace EnvInject

namespace Placeholder

variable {separator : UInt8} {before after : Bytes}

/-- A byte that stands in no placeholder: no byte of a name and not the point of the marker. -/
def Separates (separator : UInt8) : Prop :=
  separator ∉ partClass ++ Utf8.encode "."

instance (separator : UInt8) : Decidable (Separates separator) :=
  inferInstanceAs (Decidable (separator ∉ _))

theorem Separates.isNamePart_eq (separates : Separates separator) :
    isNamePart separator = false := by
  rw [← Bool.not_eq_true, isNamePart_iff_mem]
  exact fun member => separates (List.mem_append_left _ member)

theorem Separates.not_mem_marker (separates : Separates separator) : separator ∉ marker := by
  have inside : ∀ byte ∈ marker, byte ∈ partClass ++ Utf8.encode "." := by decide +kernel
  exact fun member => separates (inside separator member)

/-- A separator ends every name that stands before it. -/
theorem Separates.endsName_append (separates : Separates separator) (ends : EndsName before) :
    EndsName (before ++ separator :: after) := by
  cases before with
  | nil =>
    intro byte head
    obtain rfl : separator = byte := by simpa using head
    exact separates.isNamePart_eq
  | cons first rest => exact ends

/-- No placeholder begins before a separator because of what stands behind it. -/
theorem Separates.nameAt?_append_eq_none (separates : Separates separator)
    (absent : nameAt? before = none) : nameAt? (before ++ separator :: after) = none := by
  rw [nameAt?_eq_none_iff] at absent ⊢
  intro first rest starts
  have whole : before ++ separator :: after = (marker ++ [first]) ++ rest := by simpa using starts
  rcases List.append_eq_append_iff.1 whole with ⟨gap, inside, behind⟩ | ⟨gap, inside, -⟩
  · -- The marker and the byte after it would reach the separator.
    cases gap with
    | nil => exact absent first [] (by simpa using inside.symm)
    | cons byte gap =>
      obtain ⟨rfl, -⟩ := List.cons.inj behind
      have member : separator ∈ marker ++ [first] := by simp [inside]
      rcases List.mem_append.1 member with inMarker | isFirst
      · exact absurd inMarker separates.not_mem_marker
      · rw [← List.mem_singleton.1 isFirst, ← Bool.not_eq_true]
        intro isStart
        have isPart := isNamePart_of_isNameStart isStart
        rw [separates.isNamePart_eq] at isPart
        cases isPart
  · exact absent first gap (by simpa using inside)

/-- The parts before a separator, the separator and the parts after it are those of the whole. -/
theorem Reads.append_separator (separates : Separates separator) {parts later : List Part}
    (reads : Reads before parts) (readsAfter : Reads after later) :
    Reads (before ++ separator :: after) (parts ++ .plain separator :: later) := by
  induction reads with
  | nil =>
    have absent : nameAt? [] = none := rfl
    exact .plain (separates.nameAt?_append_eq_none absent) readsAfter
  | plain absent _ ih => exact .plain (separates.nameAt?_append_eq_none absent) ih
  | placeholder isName ends _ ih =>
    rw [List.append_assoc]
    exact .placeholder isName (separates.endsName_append ends) ih

theorem tokensOf_append (position : Nat) (parts later : List Part) :
    tokensOf position (parts ++ later) =
      tokensOf position parts ++ tokensOf (position + (spell parts).length) later := by
  induction parts generalizing position with
  | nil => rfl
  | cons part rest ih =>
    rw [List.cons_append, spell_cons, List.length_append, ← Nat.add_assoc]
    cases part with
    | plain byte => exact ih _
    | placeholder name =>
      rw [Part.bytes, List.length_append, tokensOf, tokensOf, ih, List.cons_append]

end Placeholder

open Placeholder

/-- A token that stands `count` bytes further on. -/
def Token.movedBy (count : Nat) (token : Token) : Token :=
  ⟨⟨token.span.start + count, token.span.stop + count⟩, token.name⟩

theorem tokensOf_add (position count : Nat) (parts : List Part) :
    tokensOf (position + count) parts = (tokensOf position parts).map (Token.movedBy count) := by
  induction parts generalizing position with
  | nil => rfl
  | cons part rest ih =>
    cases part with
    | plain byte =>
      rw [tokensOf, tokensOf, ← ih, Nat.add_right_comm]
    | placeholder name =>
      rw [tokensOf, tokensOf, List.map_cons, ← ih, Nat.add_right_comm, Token.movedBy]

/-- What stands on one side of a separator has no say in the tokens of the other side, nor in what
they are filled with. -/
theorem filling_is_local {separator : UInt8} (separates : Separates separator)
    (before after : Bytes) :
    tokens (before ++ [separator] ++ after) =
        tokens before ++ (tokens after).map (Token.movedBy (before.length + 1)) ∧
      ∀ checklist : Checklist, ∃ filledBefore filledAfter,
        fill checklist.value before (tokens before) = some filledBefore ∧
        fill checklist.value after (tokens after) = some filledAfter ∧
        fill checklist.value (before ++ [separator] ++ after)
            (tokens (before ++ [separator] ++ after)) =
          some (filledBefore ++ [separator] ++ filledAfter) := by
  obtain ⟨parts, reads⟩ := exists_reads before
  obtain ⟨later, readsAfter⟩ := exists_reads after
  have readsWhole := reads.append_separator separates readsAfter
  rw [List.append_assoc, List.singleton_append]
  constructor
  · have position : 0 + (spell parts).length + 1 = 0 + (before.length + 1) := by
      rw [reads.spell_eq]
      omega
    rw [readsWhole.tokens_eq, reads.tokens_eq, readsAfter.tokens_eq, tokensOf_append, tokensOf,
      position, tokensOf_add]
  · intro checklist
    refine ⟨_, _, fill_tokens _ _, fill_tokens _ _, ?_⟩
    rw [fill_tokens, readsWhole.filled_eq, reads.filled_eq, readsAfter.filled_eq, fillParts,
      List.flatMap_append, spell_append, List.append_assoc]
    rfl

/-- A placeholder on each side of a blank, and between them one that the blank cuts in two. -/
theorem filling_is_local_halves :
    let before := Utf8.encode "__reactenv.A __react"
    let after := Utf8.encode "env.B __reactenv.C"
    let checklist := (Checklist.empty.enter "A" (some "xy")).enter "C" (some "")
    Separates 0x20 ∧
      tokens (before ++ [0x20] ++ after) = [⟨⟨0, 12⟩, "A"⟩, ⟨⟨27, 39⟩, "C"⟩] ∧
      tokens (before ++ [0x20] ++ after) =
        tokens before ++ (tokens after).map (Token.movedBy 21) ∧
      fill checklist.value (before ++ [0x20] ++ after) (tokens (before ++ [0x20] ++ after)) =
        some (Utf8.encode "xy __react" ++ [0x20] ++ Utf8.encode "env.B ") := by
  intro before after checklist
  have separates : Separates 0x20 := by decide +kernel
  obtain ⟨listed, filling⟩ := filling_is_local separates before after
  obtain ⟨filledBefore, filledAfter, filledBefore_eq, filledAfter_eq, filled⟩ := filling checklist
  have isBefore :
      fill checklist.value before (tokens before) = some (Utf8.encode "xy __react") := by
    decide +kernel
  have isAfter : fill checklist.value after (tokens after) = some (Utf8.encode "env.B ") := by
    decide +kernel
  rw [isBefore, Option.some.injEq] at filledBefore_eq
  rw [isAfter, Option.some.injEq] at filledAfter_eq
  rw [← filledBefore_eq, ← filledAfter_eq] at filled
  exact ⟨separates, by decide +kernel, listed, filled⟩

end EnvInject
