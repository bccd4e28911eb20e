import EnvInject.Pattern.Regex

/-!
# What a regular expression matches

A text is read from left to right, once. What was read so far may be the start of a stretch in many
ways; `Progress` holds all of them at once, in the shape of the expression. `Regex.step` reads one
more character and `Regex.isDone` tells whether some way has come to the end of the expression.

A repetition holds a way for each number of stretches that are still to come. Ways that agree in it
become one, so the work for a character is bounded by the expression.

Which of several ways to match is preferred plays no part in this.
-/

namespace EnvInject.Pattern

/-- How far stretches of an expression have come that begin before some position. -/
inductive Progress where
  /-- None has begun, or none can go on. -/
  | idle
  /-- Of a class: its character was just read. -/
  | read
  /-- Of a literal: what is still to come, for each stretch. -/
  | spelling (rests : List (List Char))
  /-- Of a sequence or a choice: those within the first part, and those within the rest. -/
  | parts (first rest : Progress)
  /-- Of a repetition: for the stretch of the body at hand, how many more must come after it, and
  how many may if there is a limit. -/
  | rounds (running : List ((Nat × Option Nat) × Progress))

namespace Progress

/-- Whether nothing is left to go on with. -/
def isIdle : Progress → Bool
  | .idle => true
  | _ => false

/-- Stretches in two parts of an expression. -/
def ofParts (first rest : Progress) : Progress :=
  if first.isIdle && rest.isIdle then .idle else .parts first rest

/-- Stretches of a literal. -/
def ofRests (rests : List (List Char)) : Progress :=
  if rests.isEmpty then .idle else .spelling rests

/-- Stretches of a repetition. -/
def ofRounds (running : List ((Nat × Option Nat) × Progress)) : Progress :=
  let running := running.filter (!·.2.isIdle)
  if running.isEmpty then .idle else .rounds running

/-- The stretches within the first part. -/
def first : Progress → Progress
  | .parts first _ => first
  | _ => .idle

/-- The stretches within the rest. -/
def rest : Progress → Progress
  | .parts _ rest => rest
  | _ => .idle

/-- What is to come of the stretches of a literal. -/
def restsOf : Progress → List (List Char)
  | .spelling rests => rests
  | _ => []

/-- The stretches of a body that is repeated. -/
def roundsOf : Progress → List ((Nat × Option Nat) × Progress)
  | .rounds running => running
  | _ => []

end Progress

namespace Regex

/-- Whether the empty stretch at a position matches. -/
def matchesEmpty (place : Place) : Regex → Bool
  | .empty => true
  | .literal text => text.isEmpty
  | .one _ => false
  | .look condition => condition.holds place
  | .group _ body => body.matchesEmpty place
  | .seq first rest => first.matchesEmpty place && rest.matchesEmpty place
  | .alt first rest => first.matchesEmpty place || rest.matchesEmpty place
  | .repeated body least _ _ => least == 0 || body.matchesEmpty place

/-- Whether one of the stretches on the way may end at a position. -/
def isDone (place : Place) : Regex → Progress → Bool
  | _, .idle => false
  | .empty, _ | .look _, _ => false
  | .literal _, progress => progress.restsOf.any List.isEmpty
  | .one _, _ => true
  | .group _ body, progress => body.isDone place progress
  | .seq first rest, progress =>
    rest.isDone place progress.rest
      || (first.isDone place progress.first && rest.matchesEmpty place)
  | .alt first rest, progress =>
    first.isDone place progress.first || rest.isDone place progress.rest
  | .repeated body _ _ _, progress =>
    progress.roundsOf.any fun ((least, _), inner) =>
      body.isDone place inner && (least == 0 || body.matchesEmpty place)

/-- The stretches on the way in either of two. -/
def merge : Regex → Progress → Progress → Progress
  | _, .idle, others => others
  | _, these, .idle => these
  | .empty, _, _ | .look _, _, _ => .idle
  | .literal _, these, others => .ofRests (these.restsOf ++ others.restsOf).eraseDups
  | .one _, these, _ => these
  | .group _ body, these, others => body.merge these others
  | .seq first rest, these, others | .alt first rest, these, others =>
    .ofParts (first.merge these.first others.first) (rest.merge these.rest others.rest)
  | .repeated body _ _ _, these, others =>
    let known := these.roundsOf.map fun (due, inner) =>
      match others.roundsOf.lookup due with
      | some found => (due, body.merge inner found)
      | none => (due, inner)
    let further := others.roundsOf.filter fun (due, _) => (known.lookup due).isNone
    .ofRounds (known ++ further)

/-- What a round leaves to come after it, if `due` was to come before it. Where the body may be
empty, all that must come may come before this round. -/
def afterRound (bodyMayBeEmpty : Bool) (due : Nat × Option Nat) : Option (Nat × Option Nat) :=
  if due.2 = some 0 then none
  else some (if bodyMayBeEmpty then 0 else due.1 - 1, due.2.map (· - 1))

/-- What becomes of the stretches on the way when a character is read at a position, and of one that
begins there if `enters`. -/
def step (place : Place) (c : Char) : Regex → (progress : Progress) → (enters : Bool) → Progress
  | _, .idle, false => .idle
  | .empty, _, _ | .look _, _, _ => .idle
  | .literal text, progress, enters =>
    .ofRests ((progress.restsOf ++ if enters then [text] else []).filterMap fun
      | [] => none
      | next :: rest => if next == c then some rest else none)
  | .one among, _, enters => if enters && among.holds c then .read else .idle
  | .group _ body, progress, enters => body.step place c progress enters
  | .seq first rest, progress, enters =>
    .ofParts (first.step place c progress.first enters)
      (rest.step place c progress.rest
        (first.isDone place progress.first || (enters && first.matchesEmpty place)))
  | .alt first rest, progress, enters =>
    .ofParts (first.step place c progress.first enters) (rest.step place c progress.rest enters)
  | .repeated body least most _, progress, enters =>
    let ended := progress.roundsOf.filter fun (_, inner) => body.isDone place inner
    let due := (if enters then [(least, most)] else []) ++ ended.map Prod.fst
    let begun := (due.filterMap (afterRound (body.matchesEmpty place))).eraseDups
    let fresh := if begun.isEmpty then .idle else body.step place c .idle true
    let going := progress.roundsOf.map fun (count, inner) =>
      (count, body.step place c inner false)
    let known := going.map fun (count, inner) =>
      (count, if begun.contains count then body.merge inner fresh else inner)
    let further := begun.filter fun count => (going.lookup count).isNone
    .ofRounds (known ++ further.map (·, fresh))

/-- Whether a stretch matches that begins anywhere in the rest of a text, or is on the way, where
`before` is the character before the rest. -/
def isMatchFrom (regex : Regex) (progress : Progress) (before : Option Char) : List Char → Bool
  | [] =>
    let place : Place := ⟨before, none⟩
    regex.matchesEmpty place || regex.isDone place progress
  | c :: rest =>
    let place : Place := ⟨before, some c⟩
    regex.matchesEmpty place || regex.isDone place progress
      || regex.isMatchFrom (regex.step place c progress true) (some c) rest

/-- Whether a stretch of the text matches. -/
def isMatch (regex : Regex) (text : String) : Bool :=
  regex.isMatchFrom .idle none text.toList

end Regex

end EnvInject.Pattern
