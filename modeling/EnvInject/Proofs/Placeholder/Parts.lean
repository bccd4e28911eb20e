import EnvInject.Proofs.Placeholder.Grammar

/-!
# The parts of a file

Reading a file from left to right cuts it into parts: placeholders, and single bytes between them.
`Reads bytes parts` says that `parts` are the parts of `bytes`. A byte is a part of its own only if
no placeholder starts at it, and a placeholder is followed by a byte that cannot go on with its
name, so both rules look at all the bytes that follow.

Every file has parts (`exists_reads`), they spell the file (`Reads.spell_eq`), and its tokens are
its placeholder parts at the offsets where they stand (`Reads.tokens_eq`). What holds of tokens is
proved by induction on `Reads`.
-/

namespace EnvInject

namespace Placeholder

/-- A piece of a file. -/
inductive Part where
  /-- A byte at which no placeholder starts. -/
  | plain (byte : UInt8)
  /-- A placeholder, with its name. -/
  | placeholder (name : Bytes)

/-- The bytes of a part. -/
def Part.bytes : Part → Bytes
  | .plain byte => [byte]
  | .placeholder name => marker ++ name

/-- The bytes of parts in order. -/
def spell (parts : List Part) : Bytes :=
  parts.flatMap Part.bytes

/-- `Reads bytes parts`: read from left to right, `bytes` consist of `parts`. -/
inductive Reads : Bytes → List Part → Prop
  | nil : Reads [] []
  | plain {first : UInt8} {rest : Bytes} {parts : List Part} :
    nameAt? (first :: rest) = none → Reads rest parts →
    Reads (first :: rest) (.plain first :: parts)
  | placeholder {name rest : Bytes} {parts : List Part} :
    IsName name → EndsName rest → Reads rest parts →
    Reads (marker ++ name ++ rest) (.placeholder name :: parts)

/-- The tokens of parts, the first of which stands at offset `position`. -/
def tokensOf (position : Nat) : List Part → List Token
  | [] => []
  | .plain _ :: rest => tokensOf (position + 1) rest
  | .placeholder name :: rest =>
    let stop := position + (marker.length + name.length)
    ⟨⟨position, stop⟩, nameText name⟩ :: tokensOf stop rest

@[simp] theorem spell_nil : spell [] = [] := rfl

@[simp] theorem spell_cons (part : Part) (rest : List Part) :
    spell (part :: rest) = part.bytes ++ spell rest := by
  simp [spell]

@[simp] theorem spell_append (parts rest : List Part) :
    spell (parts ++ rest) = spell parts ++ spell rest := by
  simp [spell]

@[simp] theorem spell_bytes (bytes : Bytes) : spell (bytes.map .plain) = bytes := by
  induction bytes with
  | nil => rfl
  | cons first rest ih => rw [List.map_cons, spell_cons, ih]; rfl

/-! ## Every file has parts -/

/-- Every file can be read as parts. The induction is on the length, since a placeholder takes
several bytes at once. -/
theorem exists_reads (bytes : Bytes) : ∃ parts, Reads bytes parts := by
  induction length : bytes.length using Nat.strong_induction_on generalizing bytes with
  | _ n ih =>
    cases bytes with
    | nil => exact ⟨[], .nil⟩
    | cons first rest =>
      cases found : nameAt? (first :: rest) with
      | none =>
        obtain ⟨parts, reads⟩ := ih rest.length (by simp [← length]) rest rfl
        exact ⟨_, .plain found reads⟩
      | some name =>
        obtain ⟨more, same, isName, ends⟩ := nameAt?_eq_some_iff.1 found
        have shorter : more.length < n := by
          rw [← length, same]
          simp [marker]
          omega
        obtain ⟨parts, reads⟩ := ih more.length shorter more rfl
        rw [same]
        exact ⟨_, .placeholder isName ends reads⟩

theorem Reads.spell_eq {bytes : Bytes} {parts : List Part} (reads : Reads bytes parts) :
    spell parts = bytes := by
  induction reads with
  | nil => rfl
  | plain _ _ ih => rw [spell_cons, ih]; rfl
  | placeholder _ _ _ ih => rw [spell_cons, ih]; rfl

/-! ## Tokens are placeholder parts -/

theorem tokensFrom_zero_cons_of_none {position : Nat} {first : UInt8} {rest : Bytes}
    (absent : nameAt? (first :: rest) = none) :
    tokensFrom position 0 (first :: rest) = tokensFrom (position + 1) 0 rest := by
  rw [tokensFrom, absent]

/-- The bytes of a placeholder that was listed are passed over. -/
theorem tokensFrom_append (position : Nat) (passed rest : Bytes) :
    tokensFrom position passed.length (passed ++ rest) =
      tokensFrom (position + passed.length) 0 rest := by
  induction passed generalizing position with
  | nil => rfl
  | cons first more ih =>
    rw [List.length_cons, List.cons_append, tokensFrom, ih]
    congr 1
    omega

/-- A placeholder at the front is listed first, and the search goes on behind it. -/
theorem tokensFrom_placeholder {position : Nat} {name rest : Bytes} (isName : IsName name)
    (ends : EndsName rest) :
    tokensFrom position 0 (marker ++ name ++ rest) =
      ⟨⟨position, position + (marker.length + name.length)⟩, nameText name⟩ ::
        tokensFrom (position + (marker.length + name.length)) 0 rest := by
  have found : nameAt? (marker ++ name ++ rest) = some name :=
    nameAt?_eq_some_iff.2 ⟨rest, rfl, isName, ends⟩
  obtain ⟨first, more, split⟩ : ∃ first more, marker ++ name = first :: more :=
    ⟨0x5F, marker.tail ++ name, rfl⟩
  have length : marker.length + name.length = more.length + 1 := by
    rw [← List.length_append, split, List.length_cons]
  rw [split, List.cons_append] at found ⊢
  rw [tokensFrom, found]
  simp only [length, Nat.add_sub_cancel]
  rw [tokensFrom_append, Nat.add_right_comm, Nat.add_assoc]

theorem Reads.tokensFrom_eq {bytes : Bytes} {parts : List Part} (reads : Reads bytes parts)
    (position : Nat) : tokensFrom position 0 bytes = tokensOf position parts := by
  induction reads generalizing position with
  | nil => rfl
  | plain absent _ ih => rw [tokensFrom_zero_cons_of_none absent, ih]; rfl
  | placeholder isName ends _ ih => rw [tokensFrom_placeholder isName ends, ih]; rfl

theorem Reads.tokens_eq {bytes : Bytes} {parts : List Part} (reads : Reads bytes parts) :
    tokens bytes = tokensOf 0 parts :=
  reads.tokensFrom_eq 0

/-! ## Where no placeholder is -/

/-- There are no tokens exactly if no placeholder starts anywhere. Until one is found the search
passes over no byte. -/
theorem tokensFrom_eq_nil_iff (position : Nat) (bytes : Bytes) :
    tokensFrom position 0 bytes = [] ↔ ∀ rest, rest <:+ bytes → nameAt? rest = none := by
  induction bytes generalizing position with
  | nil =>
    refine ⟨fun _ rest suffix => ?_, fun _ => rfl⟩
    rw [List.suffix_nil.1 suffix]
    rfl
  | cons first more ih =>
    cases found : nameAt? (first :: more) with
    | none =>
      rw [tokensFrom_zero_cons_of_none found, ih]
      refine ⟨fun absent rest suffix => ?_, fun absent rest suffix => ?_⟩
      · rcases List.suffix_cons_iff.1 suffix with rfl | later
        · exact found
        · exact absent rest later
      · exact absent rest (suffix.trans (List.suffix_cons first more))
    | some name =>
      refine ⟨fun empty => ?_, fun absent => ?_⟩
      · rw [tokensFrom, found] at empty
        cases empty
      · rw [absent _ (List.suffix_refl _)] at found
        cases found

/-- A file has no token exactly if no placeholder starts at any of its offsets. -/
theorem tokens_eq_nil_iff (bytes : Bytes) :
    tokens bytes = [] ↔ ∀ rest, rest <:+ bytes → nameAt? rest = none :=
  tokensFrom_eq_nil_iff 0 bytes

end Placeholder

/-! ## Where tokens stand -/

open Placeholder

/-- The tokens lie within the offsets from `start` to `stop`, in ascending order and without
overlap. -/
def InOrder (stop : Nat) : (start : Nat) → List Token → Prop
  | start, [] => start ≤ stop
  | start, token :: rest =>
    start ≤ token.span.start ∧ token.span.start ≤ token.span.stop ∧
      InOrder stop token.span.stop rest

theorem InOrder.weaken {stop start later : Nat} {found : List Token}
    (ordered : InOrder stop later found) (le : start ≤ later) : InOrder stop start found := by
  cases found with
  | nil => exact Nat.le_trans le ordered
  | cons token rest => exact ⟨Nat.le_trans le ordered.1, ordered.2⟩

theorem InOrder.le_stop {stop start : Nat} {found : List Token}
    (ordered : InOrder stop start found) : start ≤ stop := by
  induction found generalizing start with
  | nil => exact ordered
  | cons token rest ih => exact Nat.le_trans (Nat.le_trans ordered.1 ordered.2.1) (ih ordered.2.2)

theorem InOrder.le_start {stop start : Nat} {found : List Token}
    (ordered : InOrder stop start found) : ∀ token ∈ found, start ≤ token.span.start := by
  induction found generalizing start with
  | nil => simp
  | cons token rest ih =>
    rcases ordered with ⟨le, forward, later⟩
    intro other member
    rcases List.mem_cons.1 member with rfl | member
    · exact le
    · exact Nat.le_trans (Nat.le_trans le forward) (ih later other member)

/-- Tokens in order stay in order within any bound that none of them passes. -/
theorem InOrder.within {stop limit start : Nat} {found : List Token}
    (ordered : InOrder stop start found) (le : start ≤ limit)
    (inside : ∀ token ∈ found, token.span.stop ≤ limit) : InOrder limit start found := by
  induction found generalizing start with
  | nil => exact le
  | cons token rest ih =>
    rcases ordered with ⟨low, forward, later⟩
    have headInside := inside token List.mem_cons_self
    exact ⟨low, forward, ih later headInside fun other member =>
      inside other (List.mem_cons_of_mem _ member)⟩

theorem tokensOf_inOrder (position : Nat) (parts : List Part) :
    InOrder (position + (spell parts).length) position (tokensOf position parts) := by
  induction parts generalizing position with
  | nil => exact Nat.le_refl _
  | cons part rest ih =>
    rw [spell_cons, List.length_append, ← Nat.add_assoc]
    cases part with
    | plain byte => exact (ih (position + 1)).weaken (Nat.le_succ _)
    | placeholder name =>
      refine ⟨Nat.le_refl _, Nat.le_add_right _ _, ?_⟩
      rw [Part.bytes, List.length_append]
      exact ih _

end EnvInject
