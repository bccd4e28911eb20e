/-!
# UTF-8

Files, paths, arguments and the values of a process environment are bytes, and need not be text.
`Utf8.encode` writes a text as bytes. `Utf8.units` reads bytes as a list of characters and
ill-formed runs; from it come the strict reading `Utf8.decode?`, which refuses every ill-formed
run, and the reading for display `Utf8.lossy`, which puts U+FFFD in place of each.

An ill-formed run is a maximal one: the longest start of a well-formed character that breaks off,
or a single byte that can start none.
-/

namespace EnvInject

/-- The contents of a file, a path, an argument or a variable: any bytes at all. -/
abbrev Bytes := List UInt8

namespace Utf8

/-- The UTF-8 form of a text. -/
def encode (text : String) : Bytes :=
  text.toList.flatMap String.utf8EncodeChar

/-- Texts with the same bytes are the same. -/
theorem encode_injective {a b : String} (same : encode a = encode b) : a = b := by
  have bytes (text : String) : text.toByteArray = (encode text).toByteArray := by
    conv => lhs; rw [← String.ofList_toList (s := text)]
    rfl
  exact String.toByteArray_inj.1 (by rw [bytes, bytes, same])

/-- What the first byte of a character says about the rest of it. -/
structure Lead where
  /-- How many bytes follow. -/
  tails : Nat
  /-- The least value of the byte right after the first. -/
  low : UInt8
  /-- The greatest value of the byte right after the first. -/
  high : UInt8
  /-- The bits of the code point that the first byte holds. -/
  bits : UInt8
  deriving DecidableEq, Repr

/-- Reads a first byte. Overlong forms, surrogates and code points above U+10FFFF are excluded by
the bounds of the byte after it. -/
def lead? (first : UInt8) : Option Lead :=
  if first < 0x80 then some ⟨0, 0x80, 0xBF, first⟩
  else if first < 0xC2 then none
  else if first < 0xE0 then some ⟨1, 0x80, 0xBF, first - 0xC0⟩
  else if first = 0xE0 then some ⟨2, 0xA0, 0xBF, 0⟩
  else if first = 0xED then some ⟨2, 0x80, 0x9F, 0xD⟩
  else if first < 0xF0 then some ⟨2, 0x80, 0xBF, first - 0xE0⟩
  else if first = 0xF0 then some ⟨3, 0x90, 0xBF, 0⟩
  else if first < 0xF4 then some ⟨3, 0x80, 0xBF, first - 0xF0⟩
  else if first = 0xF4 then some ⟨3, 0x80, 0x8F, 4⟩
  else none

/-- At most `count` bytes that continue a character. The first of them lies between `low` and
`high`, each later one between 0x80 and 0xBF. -/
def tailsOf : (count : Nat) → (low high : UInt8) → Bytes → Bytes
  | 0, _, _, _ => []
  | _ + 1, _, _, [] => []
  | count + 1, low, high, byte :: rest =>
    if low ≤ byte ∧ byte ≤ high then byte :: tailsOf count 0x80 0xBF rest else []

/-- The character, or the ill-formed run as `none`, that starts with `first`, and how many of the
bytes in `rest` belong to it. -/
def unitAt (first : UInt8) (rest : Bytes) : Option Char × Nat :=
  match lead? first with
  | none => (none, 0)
  | some lead =>
    let tails := tailsOf lead.tails lead.low lead.high rest
    if tails.length = lead.tails then
      let code := tails.foldl (fun code byte => code * 64 + (byte.toNat - 0x80)) lead.bits.toNat
      (some (Char.ofNat code), tails.length)
    else (none, tails.length)

/-- `units` after `skip` bytes that belong to a character already read. -/
def unitsFrom : (skip : Nat) → Bytes → List (Option Char)
  | _, [] => []
  | skip + 1, _ :: rest => unitsFrom skip rest
  | 0, first :: rest =>
    let (unit, taken) := unitAt first rest
    unit :: unitsFrom taken rest

/-- The characters of `bytes` in order, with `none` for each ill-formed run. -/
def units (bytes : Bytes) : List (Option Char) :=
  unitsFrom 0 bytes

/-- The text that `bytes` spell, if they are well-formed throughout. -/
def decode? (bytes : Bytes) : Option String :=
  ((units bytes).mapM id).map String.ofList

/-- The text that `bytes` spell for a reader, with U+FFFD for each ill-formed run. -/
def lossy (bytes : Bytes) : String :=
  String.ofList ((units bytes).map (·.getD '\uFFFD'))

end Utf8

end EnvInject
