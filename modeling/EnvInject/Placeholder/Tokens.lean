import EnvInject.Placeholder.Basic

/-!
# The placeholders of a file

`tokens` lists the placeholders of some bytes from left to right. At each offset that no earlier
placeholder covers, the marker and a byte that may start a name begin one, and its name runs as far
as it can. The bytes need not be text.
-/

namespace EnvInject

/-- The placeholders of `bytes`, which begin at offset `position` of a file, where the first `skip`
of them belong to a placeholder already listed. -/
def tokensFrom : (position skip : Nat) → (bytes : Bytes) → List Token
  | _, _, [] => []
  | position, skip + 1, _ :: rest => tokensFrom (position + 1) skip rest
  | position, 0, byte :: rest =>
    match Placeholder.nameAt? (byte :: rest) with
    | some name =>
      let length := Placeholder.marker.length + name.length
      ⟨⟨position, position + length⟩, Placeholder.nameText name⟩
        :: tokensFrom (position + 1) (length - 1) rest
    | none => tokensFrom (position + 1) 0 rest

/-- The placeholders of a file with these contents, in ascending order. -/
def tokens (contents : Bytes) : List Token :=
  tokensFrom 0 0 contents

end EnvInject
