import EnvInject.Pattern.CharClass

/-!
# Regular expressions

A `Regex` describes stretches of a text. Expressions are built in a simplified form: `followedBy`,
`choice`, `repeatedly` and `ofClass` leave out what is empty, join characters into literals, and
bring choices between characters into one class. Sequences and choices are chains: the second part
of a pair holds the rest of them, and the first part is none itself.
-/

namespace EnvInject.Pattern

/-- A condition on a position between two characters. -/
inductive Look where
  | textStart
  | textEnd
  | lineStart
  | lineEnd
  /-- The start of a line, where a carriage return before a line feed ends a line with it. -/
  | crlfLineStart
  /-- The end of a line, where a carriage return before a line feed ends a line with it. -/
  | crlfLineEnd
  | wordEdge (isWord : CharClass)
  | noWordEdge (isWord : CharClass)
  | wordStart (isWord : CharClass)
  | wordEnd (isWord : CharClass)
  | noWordBefore (isWord : CharClass)
  | noWordAfter (isWord : CharClass)
  deriving DecidableEq, Repr

/-- A position in a text, by the characters around it; one is missing at an end of the text. -/
structure Place where
  before : Option Char
  after : Option Char
  deriving DecidableEq, Repr

/-- Whether a condition holds at a position. -/
def Look.holds (place : Place) : Look → Bool
  | .textStart => place.before.isNone
  | .textEnd => place.after.isNone
  | .lineStart => place.before.all (· == '\n')
  | .lineEnd => place.after.all (· == '\n')
  | .crlfLineStart =>
    place.before.all fun c => c == '\n' || (c == '\r' && place.after != some '\n')
  | .crlfLineEnd =>
    place.after.all fun c => c == '\r' || (c == '\n' && place.before != some '\r')
  | .wordEdge isWord => place.before.any isWord.holds != place.after.any isWord.holds
  | .noWordEdge isWord => place.before.any isWord.holds == place.after.any isWord.holds
  | .wordStart isWord => !place.before.any isWord.holds && place.after.any isWord.holds
  | .wordEnd isWord => place.before.any isWord.holds && !place.after.any isWord.holds
  | .noWordBefore isWord => !place.before.any isWord.holds
  | .noWordAfter isWord => !place.after.any isWord.holds

/-- A regular expression. -/
inductive Regex where
  | empty
  /-- Some characters in their order. -/
  | literal (text : List Char)
  /-- One character of a class. -/
  | one (among : CharClass)
  /-- The empty stretch, where a condition holds. -/
  | look (condition : Look)
  /-- A stretch of the body, which is kept under a number. -/
  | group (number : Nat) (body : Regex)
  /-- A stretch of the first, then one of the rest. -/
  | seq (first rest : Regex)
  /-- A stretch of either. -/
  | alt (first rest : Regex)
  /-- At least `least` stretches one after the other, and at most `most` if that is given. Which
  count of them is preferred plays no part in whether a text matches. -/
  | repeated (body : Regex) (least : Nat) (most : Option Nat) (preferFew : Bool)
  deriving DecidableEq, Repr

/-- The longest start that some lists have in common. -/
def commonStart {α : Type} [DecidableEq α] : List (List α) → List α
  | [] => []
  | [first] => first
  | first :: others =>
    ((first.zip (commonStart others)).takeWhile fun (a, b) => decide (a = b)).map Prod.fst

namespace Regex

/-! ## Building expressions -/

/-- One character of a class. -/
def ofClass (members : CharClass) : Regex :=
  match members.ranges with
  | [(first, last)] => if first = last then .literal [Char.ofNat first] else .one members
  | _ => .one members

/-- An expression before another. -/
def followedBy : (first rest : Regex) → Regex
  | .empty, rest => rest
  | first, .empty => first
  | .seq head tail, rest => head.followedBy (tail.followedBy rest)
  | .literal text, .literal further => .literal (text ++ further)
  | .literal text, .seq (.literal further) rest => .seq (.literal (text ++ further)) rest
  | first, rest => .seq first rest

/-- The parts of a sequence. -/
def parts : Regex → List Regex
  | .empty => []
  | .seq first rest => first :: rest.parts
  | regex => [regex]

/-- The branches of a choice. -/
def branches : Regex → List Regex
  | .alt first rest => first :: rest.branches
  | regex => [regex]

/-- A choice between branches as a chain. -/
def ofBranches : List Regex → Regex
  | [] => .one .none
  | [branch] => branch
  | branch :: rest => .alt branch (ofBranches rest)

/-- The class of an expression that is one character. -/
def character? : Regex → Option CharClass
  | .literal [c] => some (.single c)
  | _ => none

/-- The class of an expression that is a class. -/
def class? : Regex → Option CharClass
  | .one among => some among
  | _ => none

/-- A choice between branches that are all characters, or all classes, is a class. -/
def ofAlternatives (alternatives : List Regex) : Regex :=
  match alternatives with
  | [_] => ofBranches alternatives
  | _ =>
    match alternatives.mapM character? <|> alternatives.mapM class? with
    | some classes => ofClass (.anyOf classes)
    | none => ofBranches alternatives

/-- Whether an expression is a sequence. -/
def isSeq : Regex → Bool
  | .seq .. => true
  | _ => false

/-- A choice between expressions. What sequences begin with in common is taken before it. -/
def choice (alternatives : List Regex) : Regex :=
  let flat := alternatives.flatMap branches
  if flat.length ≥ 2 && flat.all isSeq then
    let start := commonStart (flat.map parts)
    let ends := flat.map fun branch => (branch.parts.drop start.length).foldr followedBy .empty
    start.foldr followedBy (ofAlternatives (ends.flatMap branches))
  else ofAlternatives flat

/-- Whether only the empty stretch can match. -/
def onlyEmpty : Regex → Bool
  | .empty | .look _ => true
  | .literal _ | .one _ => false
  | .group _ body => body.onlyEmpty
  | .seq first rest => first.onlyEmpty && rest.onlyEmpty
  | .alt first rest => first.onlyEmpty && rest.onlyEmpty
  | .repeated body _ _ _ => body.onlyEmpty

/-- A repetition. To repeat what can only be empty more than once is the same as once. -/
def repeatedly (body : Regex) (least : Nat) (most : Option Nat) (preferFew : Bool) : Regex :=
  let (least, most) :=
    if body.onlyEmpty then (min least 1, some (min (most.getD 1) 1)) else (least, most)
  if most = some 0 then .empty
  else if least = 1 ∧ most = some 1 then body
  else .repeated body least most preferFew

end Regex

end EnvInject.Pattern
