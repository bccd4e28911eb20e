import EnvInject.Placeholder.Basic

/-!
# Filling placeholders in

`fill` writes a file anew with the value of each variable in place of its placeholder. Placeholders
whose variable has no value stay as they are, and so does every byte between placeholders.

Tokens may come from anywhere, so their spans need not fit the contents. `fill` is `none` exactly
when a stretch to be copied would start after its end or pass the end of the contents.
-/

namespace EnvInject

/-- `fill` of the contents from offset `done` on. -/
def fillFrom (values : String → Option String) (contents : Bytes) (done : Nat) :
    List Token → Option Bytes
  | [] => slice? contents done contents.length
  | token :: rest =>
    match values token.name with
    | none => fillFrom values contents done rest
    | some value => do
      let kept ← slice? contents done token.span.start
      let filled ← fillFrom values contents token.span.stop rest
      return kept ++ Utf8.encode value ++ filled

/-- The contents with each token that has a value replaced by it. -/
def fill (values : String → Option String) (contents : Bytes) (tokens : List Token) :
    Option Bytes :=
  fillFrom values contents 0 tokens

end EnvInject
