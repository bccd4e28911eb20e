import EnvInject.Placeholder.Tokens
import Mathlib.Data.List.Basic
import Mathlib.Data.List.TakeWhile

/-!
# The grammar of a placeholder

`nameAt?` reads the marker, one byte that may start a name, and as many bytes of the name as follow.
`nameAt?_eq_some_iff` says this as a grammar: bytes start with a placeholder of a given name exactly
if they are the marker, the name and a rest that does not go on with a byte of the name. Only the
first twelve bytes decide whether there is a placeholder at all, which is `isSome_nameAt?_iff`.
-/

namespace EnvInject

namespace Placeholder

/-- A byte that may start a name, and bytes that may go on with it. -/
def IsName : Bytes → Prop
  | [] => False
  | first :: rest => isNameStart first = true ∧ ∀ byte ∈ rest, isNamePart byte = true

/-- Bytes that do not go on with a name: there are none, or the first is no part of one. -/
def EndsName (bytes : Bytes) : Prop :=
  ∀ byte ∈ bytes.head?, isNamePart byte = false

theorem EndsName.nil : EndsName [] := by
  simp [EndsName]

theorem isNamePart_of_isNameStart {byte : UInt8} (start : isNameStart byte = true) :
    isNamePart byte = true := by
  simp [isNamePart, start]

theorem IsName.isNamePart {name : Bytes} (isName : IsName name) :
    ∀ byte ∈ name, Placeholder.isNamePart byte = true := by
  cases name with
  | nil => exact isName.elim
  | cons first rest =>
    intro byte member
    rcases List.mem_cons.1 member with rfl | later
    · exact isNamePart_of_isNameStart isName.1
    · exact isName.2 byte later

/-! ## Where a placeholder starts -/

theorem nameAt?_marker_append (bytes : Bytes) :
    nameAt? (marker ++ bytes) =
      match bytes with
      | [] => none
      | first :: rest =>
        if isNameStart first then some (first :: rest.takeWhile isNamePart) else none := by
  have starts : marker.isPrefixOf (marker ++ bytes) = true := by
    rw [List.isPrefixOf_iff_prefix]
    exact List.prefix_append _ _
  rw [nameAt?, if_pos starts, List.drop_left]
  rfl

theorem marker_prefix_of_nameAt? {bytes name : Bytes} (found : nameAt? bytes = some name) :
    ∃ rest, bytes = marker ++ rest := by
  unfold nameAt? at found
  split at found
  · rename_i starts
    obtain ⟨rest, same⟩ := List.isPrefixOf_iff_prefix.1 starts
    exact ⟨rest, same.symm⟩
  · cases found

theorem takeWhile_eq_of_endsName {name rest : Bytes}
    (isPart : ∀ byte ∈ name, isNamePart byte = true) (ends : EndsName rest) :
    (name ++ rest).takeWhile isNamePart = name := by
  rw [List.takeWhile_append_of_pos isPart]
  cases rest with
  | nil => simp
  | cons first more => simp [ends first rfl]

theorem endsName_dropWhile (bytes : Bytes) : EndsName (bytes.dropWhile isNamePart) := by
  intro byte head
  have notPart := List.head?_dropWhile_not isNamePart bytes
  rw [Option.mem_def.1 head] at notPart
  exact notPart

/-- Bytes start with the placeholder of a name exactly if they are the marker, the name and a rest
that does not go on with it. -/
theorem nameAt?_eq_some_iff {bytes name : Bytes} :
    nameAt? bytes = some name ↔
      ∃ rest, bytes = marker ++ name ++ rest ∧ IsName name ∧ EndsName rest := by
  constructor
  · intro found
    obtain ⟨rest, rfl⟩ := marker_prefix_of_nameAt? found
    rw [nameAt?_marker_append] at found
    cases rest with
    | nil => cases found
    | cons first more =>
      simp only [Option.ite_none_right_eq_some, Option.some.injEq] at found
      rcases found with ⟨start, rfl⟩
      refine ⟨more.dropWhile isNamePart, ?_, ⟨start, ?_⟩, endsName_dropWhile more⟩
      · rw [List.append_assoc, List.cons_append, List.takeWhile_append_dropWhile]
      · intro byte member
        exact List.mem_takeWhile_imp member
  · rintro ⟨rest, rfl, isName, ends⟩
    cases name with
    | nil => exact isName.elim
    | cons first more =>
      rw [List.append_assoc, nameAt?_marker_append]
      simp only [List.cons_append, isName.1, if_true]
      rw [takeWhile_eq_of_endsName isName.2 ends]

/-- Whether a placeholder starts depends on the marker and the byte after it. -/
theorem isSome_nameAt?_iff {bytes : Bytes} :
    (nameAt? bytes).isSome = true ↔
      ∃ first rest, bytes = marker ++ first :: rest ∧ isNameStart first = true := by
  constructor
  · intro found
    obtain ⟨name, same⟩ := Option.isSome_iff_exists.1 found
    obtain ⟨rest, rfl, isName, -⟩ := nameAt?_eq_some_iff.1 same
    cases name with
    | nil => exact isName.elim
    | cons first more => exact ⟨first, more ++ rest, by simp, isName.1⟩
  · rintro ⟨first, rest, rfl, start⟩
    rw [nameAt?_marker_append]
    simp [start]

theorem nameAt?_eq_none_iff {bytes : Bytes} :
    nameAt? bytes = none ↔
      ∀ first rest, bytes = marker ++ first :: rest → isNameStart first = false := by
  rw [← Option.not_isSome_iff_eq_none, isSome_nameAt?_iff]
  constructor
  · intro absent first rest same
    by_contra start
    exact absent ⟨first, rest, same, by simpa using start⟩
  · rintro absent ⟨first, rest, same, start⟩
    rw [absent first rest same] at start
    cases start

/-! ## The text of a name -/

theorem isNamePart_lt {byte : UInt8} (part : isNamePart byte = true) : byte < 0x80 := by
  simp only [isNamePart, isNameStart, Bool.or_eq_true, Bool.and_eq_true, decide_eq_true_eq,
    beq_iff_eq] at part
  grind

/-- An ASCII character is written as the byte that it was read from. -/
theorem utf8EncodeChar_ofUInt8 {byte : UInt8} (ascii : byte < 0x80) :
    String.utf8EncodeChar (Char.ofUInt8 byte) = [byte] := by
  have small : byte.toNat < 0x80 := ascii
  have code : (Char.ofUInt8 byte).val.toNat = byte.toNat := byte.toNat_toUInt32
  unfold String.utf8EncodeChar
  rw [code, if_pos (by omega)]
  simp

theorem encode_nameText {name : Bytes} (isName : IsName name) :
    Utf8.encode (nameText name) = name := by
  have ascii : ∀ byte ∈ name, String.utf8EncodeChar (Char.ofUInt8 byte) = [byte] :=
    fun byte member => utf8EncodeChar_ofUInt8 (isNamePart_lt (isName.isNamePart byte member))
  rw [Utf8.encode, nameText, String.toList_ofList, List.flatMap_map]
  calc name.flatMap (fun byte => String.utf8EncodeChar (Char.ofUInt8 byte))
      = name.flatMap (fun byte => [byte]) := List.flatMap_congr ascii
    _ = name := by simp

end Placeholder

end EnvInject
