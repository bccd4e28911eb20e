import EnvInject.Pattern.Error
import EnvInject.Pattern.Form

/-!
# Reading patterns

`Form.parse` reads a pattern from left to right. A `Cursor` holds what is left of it, whether blanks
and comments are to be passed over, and the number and the names of the groups so far. Every step of
the two loops `readItems` and `readClassItems` takes at least one character, so the number of
characters bounds their number of steps.
-/

namespace EnvInject.Pattern

/-- A place in a pattern that is being read. -/
structure Cursor where
  /-- The characters that are left. -/
  rest : List Char
  /-- Whether blanks and comments do not count. -/
  extended : Bool
  /-- How many groups that are kept have begun. -/
  groups : Nat
  /-- The names of the groups that have one. -/
  names : List (List Char)
  deriving DecidableEq, Repr

/-- A reader moves a cursor, or finds what is wrong with the pattern. -/
abbrev Reader := StateT Cursor (Except Error)

/-! ## Single characters -/

/-- The characters after blanks and comments. A comment runs from `#` to the end of the line. -/
def afterIgnored : (inComment : Bool) → List Char → List Char
  | _, [] => []
  | true, c :: rest => afterIgnored (c != '\n') rest
  | false, c :: rest =>
    if isBlank c then afterIgnored false rest
    else if c == '#' then afterIgnored true rest
    else c :: rest

/-- The next character. -/
def peek : Reader (Option Char) := do
  return (← get).rest.head?

/-- Takes one character. -/
def bump : Reader Unit :=
  modify fun cursor => { cursor with rest := cursor.rest.drop 1 }

/-- Passes over what does not count here. -/
def skip : Reader Unit :=
  modify fun cursor =>
    if cursor.extended then { cursor with rest := afterIgnored false cursor.rest } else cursor

/-- Takes one character and passes over what does not count after it. -/
def bumpSkip : Reader Unit := do
  bump
  skip

/-- The character after the next one. Where blanks do not count they are passed over, and so is the
`#` of a comment, but not the comment. -/
def peekBeyond : Reader (Option Char) := do
  let cursor ← get
  let beyond := cursor.rest.drop 1
  if !cursor.extended then return beyond.head?
  let visible :=
    match beyond.dropWhile isBlank with
    | '#' :: comment => comment.dropWhile isBlank
    | text => text
  return visible.head? <|> beyond.head?

/-- Takes characters of one kind, with what does not count between them, at most `count`. -/
def readWhile (accept : Char → Bool) : (count : Nat) → Reader (List Char)
  | 0 => return []
  | count + 1 => do
    match ← peek with
    | some c =>
      if accept c then
        bumpSkip
        return c :: (← readWhile accept count)
      else return []
    | none => return []

/-- Takes all characters of one kind that come next, with what does not count between them. -/
def readAll (accept : Char → Bool) : Reader (List Char) := do
  readWhile accept (← get).rest.length

/-! ## Numbers -/

/-- The value of a digit, hexadecimal ones included. -/
def digitValue (c : Char) : Nat :=
  if c.isDigit then c.toNat - '0'.toNat
  else if 'a' ≤ c && c ≤ 'f' then c.toNat - 'a'.toNat + 10
  else c.toNat - 'A'.toNat + 10

/-- Whether a character is a hexadecimal digit. -/
def isHexDigit (c : Char) : Bool :=
  c.isDigit || ('a' ≤ c && c ≤ 'f') || ('A' ≤ c && c ≤ 'F')

/-- The number that digits stand for. -/
def numberOf (base : Nat) (digits : List Char) : Nat :=
  digits.foldl (fun number digit => number * base + digitValue digit) 0

/-- Reads a count with blanks around it; none if there are no digits. -/
def readCount : Reader (Option Nat) := do
  modify fun cursor => { cursor with rest := cursor.rest.dropWhile isBlank }
  let digits ← readAll Char.isDigit
  discard (readAll isBlank)
  if digits.isEmpty then return none
  let count := numberOf 10 digits
  if count < 0x100000000 then return some count else throw .countTooLarge

/-- The character with a code. -/
def readCode (digits : List Char) : Reader Char := do
  let code := numberOf 16 digits
  if code.isValidChar then return Char.ofNat code else throw .malformedCode

/-- Reads a code of as many hexadecimal digits as asked for. -/
def readDigits : (count : Nat) → Reader (List Char)
  | 0 => return []
  | count + 1 => do
    match ← peek with
    | some c =>
      if isHexDigit c then
        bumpSkip
        return c :: (← readDigits count)
      else throw .malformedCode
    | none => throw .malformedCode

/-- Reads a code in braces; the cursor is at the `\x7B`. -/
def readCodeInBraces : Reader Char := do
  bumpSkip
  let digits ← readAll isHexDigit
  if (← peek) != some '\x7D' || digits.isEmpty then throw .malformedCode
  bumpSkip
  readCode digits

/-- Reads what follows the letter of an escape: a code in braces, or one of `width` digits, in which
case it may be the code of a byte. -/
def readHex (width : Nat) (mayBeByte : Bool) : Reader Atom := do
  bumpSkip
  if (← peek) == some '\x7B' then return .literal (← readCodeInBraces) false
  return .literal (← readCode (← readDigits width)) mayBeByte

/-! ## Escapes -/

/-- Whether a character that is no letter or digit may follow a backslash to stand for itself. -/
def standsForItself (c : Char) : Bool :=
  c.toNat < 0x80 && !c.isAlphanum && c != '<' && c != '>'

/-- The condition that a word in braces after `\b` names. -/
def wordAnchor? (word : List Char) : Option Anchor :=
  match String.ofList word with
  | "start" => some .wordStart
  | "end" => some .wordEnd
  | "start-half" => some .wordStartHalf
  | "end-half" => some .wordEndHalf
  | _ => none

/-- Whether a character may be part of a word in braces after `\b`. -/
def isAnchorLetter (c : Char) : Bool :=
  c.isAlpha || c == '-'

/-- Reads what follows `\b`. A brace opens the name of a condition if a letter comes next in it,
and a count otherwise. -/
def readWordAnchor : Reader Anchor := do
  if (← peek) != some '\x7B' then return .wordEdge
  let before ← get
  bumpSkip
  match ← peek with
  | none => throw .malformedCount
  | some c =>
    if !isAnchorLetter c then
      set before
      return .wordEdge
    let word ← readAll isAnchorLetter
    if (← peek) != some '\x7D' then throw .unknownEscape
    bump
    match wordAnchor? word with
    | some anchor => return anchor
    | none => throw .unknownEscape

/-- Reads an escape; the cursor is at the backslash. Classes of Unicode properties are not read. -/
def readEscape : Reader Atom := do
  bump
  match ← peek with
  | none => throw .unknownEscape
  | some c =>
    if c.isDigit then throw .backReference
    match c with
    | 'x' => readHex 2 true
    | 'u' => readHex 4 false
    | 'U' => readHex 8 false
    | 'p' | 'P' => throw .unicodeProperty
    | _ =>
      bump
      match c with
      | 'd' => return .property .digit false
      | 'D' => return .property .digit true
      | 's' => return .property .blank false
      | 'S' => return .property .blank true
      | 'w' => return .property .word false
      | 'W' => return .property .word true
      | 'a' => return .literal '\x07' false
      | 'f' => return .literal '\x0C' false
      | 't' => return .literal '\t' false
      | 'n' => return .literal '\n' false
      | 'r' => return .literal '\r' false
      | 'v' => return .literal '\x0B' false
      | 'A' => return .anchor .textStart
      | 'z' => return .anchor .textEnd
      | 'b' => return .anchor (← readWordAnchor)
      | 'B' => return .anchor .noWordEdge
      | '<' => return .anchor .wordStart
      | '>' => return .anchor .wordEnd
      | _ => if standsForItself c then return .literal c false else throw .unknownEscape

/-- Reads an atom outside classes. -/
def readAtom : Reader Atom := do
  match ← peek with
  | some '\\' => readEscape
  | some '.' => bump; return .dot
  | some '^' => bump; return .anchor .lineStart
  | some '$' => bump; return .anchor .lineEnd
  | some c => bump; return .literal c false
  | none => throw .unknownEscape

/-! ## Classes -/

/-- Reads a character or an escape inside a class. -/
def readClassAtom : Reader Atom := do
  match ← peek with
  | some '\\' => readEscape
  | some c => bump; return .literal c false
  | none => throw .unclosedClass

/-- An atom as an item of a class. -/
def Atom.toItem : Atom → Reader ClassForm
  | .literal c _ => return .range c c
  | .property owned negated => return .property owned negated
  | .dot | .anchor _ => throw .notACharacter

/-- An atom as the end of a range. -/
def Atom.toEnd : Atom → Reader Char
  | .literal c _ => return c
  | _ => throw .notACharacter

/-- Reads a range or a single item. A `-` before `]` or before another `-` makes no range. -/
def readRange : Reader ClassForm := do
  let first ← readClassAtom
  skip
  match ← peek with
  | none => throw .unclosedClass
  | some c =>
    let beyond ← peekBeyond
    if c != '-' || beyond == some ']' || beyond == some '-' then first.toItem
    else
      bumpSkip
      let second ← readClassAtom
      let low ← first.toEnd
      let high ← second.toEnd
      if low ≤ high then return .range low high else throw .reversedRange

/-- The ASCII class that `text` starts with, as `[:name:]` or `[:^name:]`, and what follows it. -/
def namedClass? (text : List Char) : Option (ClassForm × List Char) :=
  match text with
  | '[' :: ':' :: text =>
    let (negated, text) :=
      match text with
      | '^' :: text => (true, text)
      | _ => (false, text)
    match text.dropWhile (· != ':') with
    | ':' :: ']' :: rest =>
      (CharClass.named? (text.takeWhile (· != ':'))).map (.named · negated, rest)
    | _ => none
  | _ => none

/-- Takes every `-` that comes next, each as an item, at most `count`. -/
def readDashes : (count : Nat) → Reader (List ClassForm)
  | 0 => return []
  | count + 1 => do
    if (← peek) == some '-' then
      bumpSkip
      return .range '-' '-' :: (← readDashes count)
    else return []

/-- Reads the start of a class with at most `steps` characters; the cursor is at its `[`. A `-`
there is a character, and so is a `]` that comes first. -/
def readClassStart (steps : Nat) : Reader (Bool × List ClassForm) := do
  bumpSkip
  let negated := (← peek) == some '^'
  if negated then bumpSkip
  let dashes ← readDashes steps
  if dashes.isEmpty && (← peek) == some ']' then
    bumpSkip
    return (negated, [.range ']' ']'])
  return (negated, dashes)

/-- What comes before an operation, if there is one, combined with what comes after it, the latest
item first. -/
def closeOperation (left : Option (ClassOperation × ClassForm)) (items : List ClassForm) :
    ClassForm :=
  match left with
  | none => ClassForm.ofItems items.reverse
  | some (operation, first) => .combined operation first (ClassForm.ofItems items.reverse)

/-- The operation that `text` starts with. -/
def classOperation? : List Char → Option ClassOperation
  | '&' :: '&' :: _ => some .both
  | '-' :: '-' :: _ => some .without
  | '~' :: '~' :: _ => some .oneOf
  | _ => none

/-- Reads the items of a class up to its `]`, after `items`, of which the latest comes first, and
after the operation in `left`. -/
def readClassItems : (steps : Nat) → Option (ClassOperation × ClassForm) → List ClassForm →
    Reader ClassForm
  | 0, _, _ => throw .unclosedClass
  | steps + 1, left, items => do
    skip
    let text := (← get).rest
    match classOperation? text with
    | some operation =>
      bump
      bump
      readClassItems steps (some (operation, closeOperation left items)) []
    | none =>
      match text with
      | [] => throw .unclosedClass
      | ']' :: _ =>
        bump
        return closeOperation left items
      | '[' :: _ =>
        match namedClass? text with
        | some (item, rest) =>
          modify fun cursor => { cursor with rest }
          readClassItems steps left (item :: items)
        | none =>
          let (negated, first) ← readClassStart steps
          let inner ← readClassItems steps none first.reverse
          readClassItems steps left (.bracketed negated inner :: items)
      | _ =>
        let item ← readRange
        readClassItems steps left (item :: items)

/-- Reads a class; the cursor is at its `[`. -/
def readClass (steps : Nat) : Reader Form := do
  let (negated, first) ← readClassStart steps
  let inner ← readClassItems steps none first.reverse
  return .bracketed negated inner

/-! ## Repetitions -/

/-- The item before a repetition, and those before it, the latest first. -/
def lastItem (items : List Form) : Reader (Form × List Form) :=
  match items with
  | [] | .empty :: _ | .flags _ :: _ => throw .nothingToRepeat
  | item :: before => return (item, before)

/-- Takes the `?` after a repetition, and tells whether there is one. -/
def readMark : Reader Bool := do
  let marked := (← peek) == some '?'
  if marked then bump
  return marked

/-- Reads a count in braces; the cursor is at the `\x7B`. -/
def readCounts : Reader (Nat × Option Nat) := do
  bumpSkip
  let least ← readCount
  match (← peek), least with
  | some ',', some least =>
    bumpSkip
    if (← peek) == some '\x7D' then
      bumpSkip
      return (least, none)
    match (← readCount), (← peek) with
    | some most, some '\x7D' =>
      bumpSkip
      if least ≤ most then return (least, some most) else throw .reversedCount
    | _, _ => throw .malformedCount
  | some '\x7D', some least =>
    bumpSkip
    return (least, some least)
  | _, _ => throw .malformedCount

/-! ## Groups -/

/-- Whether a character may be part of the name of a group. -/
def isNameChar (isFirst : Bool) (c : Char) : Bool :=
  if isFirst then c == '_' || isAlphabetic c
  else c == '_' || c == '.' || c == '[' || c == ']' || isAlphanumeric c

/-- Reads the name of a group up to its `>`; no two groups have the same. -/
def readGroupName : Reader Unit := do
  let cursor ← get
  let name := cursor.rest.takeWhile (· != '>')
  let isWellFormed :=
    match name with
    | [] => false
    | first :: rest => isNameChar true first && rest.all (isNameChar false)
  match cursor.rest.drop name.length with
  | '>' :: rest =>
    if !isWellFormed then throw .malformedGroupName
    if cursor.names.contains name then throw .repeatedGroupName
    set { cursor with rest, names := name :: cursor.names }
  | _ => throw .malformedGroupName

/-- The flag of a letter. -/
def flag? : Char → Option Flag
  | 'i' => some .ignoreCase
  | 'm' => some .multiLine
  | 's' => some .dotAll
  | 'U' => some .swapPreference
  | 'u' => some .unicode
  | 'R' => some .crlf
  | 'x' => some .extended
  | _ => none

/-- The change that some letters stand for. Those after a `-` clear their flags; there is at most
one `-`, a letter follows it, and no flag stands twice. -/
def flagChange? : (clearing : Bool) → List Char → Option FlagChange
  | _, [] => some []
  | clearing, '-' :: rest =>
    if clearing || rest.isEmpty then none else flagChange? true rest
  | clearing, letter :: rest => do
    let flag ← flag? letter
    let change ← flagChange? clearing rest
    if change.any (·.1 == flag) then none else some ((flag, !clearing) :: change)

/-- How a group begins. -/
inductive Opening where
  /-- It is only flags for the group around it. -/
  | flags (change : FlagChange)
  /-- It is a group, with flags of its own, and with a number if it is kept. -/
  | group (number : Option Nat) (change : FlagChange)

/-- Counts one more group that is kept. -/
def openGroup : Reader Opening := do
  modify fun cursor => { cursor with groups := cursor.groups + 1 }
  return .group (some (← get).groups) []

/-- Reads the start of a group; the cursor is at its `(`. -/
def readGroupStart : Reader Opening := do
  bumpSkip
  match (← get).rest with
  | '?' :: '=' :: _ | '?' :: '!' :: _ | '?' :: '<' :: '=' :: _ | '?' :: '<' :: '!' :: _ =>
    throw .lookAround
  | '?' :: 'P' :: '<' :: rest | '?' :: '<' :: rest =>
    modify fun cursor => { cursor with rest }
    readGroupName
    openGroup
  | '?' :: rest =>
    let letters := rest.takeWhile fun c => c != ':' && c != ')'
    match flagChange? false letters, rest.drop letters.length with
    | some change, ')' :: rest =>
      if letters.isEmpty then throw .nothingToRepeat
      modify fun cursor => { cursor with rest }
      return .flags change
    | some change, ':' :: rest =>
      modify fun cursor => { cursor with rest }
      return .group none change
    | some _, _ => throw .unclosedGroup
    | none, _ => throw .malformedFlags
  | _ => openGroup

/-- Sets whether blanks count, as a change of flags says. -/
def applyExtended (change : FlagChange) : Reader Unit :=
  modify fun cursor => { cursor with extended := change.apply .extended cursor.extended }

/-! ## Whole patterns -/

/-- Reads items and branches up to a `)` or the end of the pattern, after `branches` and, in the
branch at hand, after `items`. Of both, the latest comes first. -/
def readItems : (steps : Nat) → (branches items : List Form) → Reader Form
  | 0, _, _ => throw .unclosedGroup
  | steps + 1, branches, items => do
    skip
    match ← peek with
    | none | some ')' => return Form.ofBranches (Form.ofItems items.reverse :: branches).reverse
    | some '|' =>
      bump
      readItems steps (Form.ofItems items.reverse :: branches) []
    | some '(' =>
      let outer := (← get).extended
      match ← readGroupStart with
      | .flags change =>
        applyExtended change
        readItems steps branches (.flags change :: items)
      | .group number change =>
        applyExtended change
        let body ← readItems steps [] []
        if (← peek) != some ')' then throw .unclosedGroup
        bump
        modify fun cursor => { cursor with extended := outer }
        readItems steps branches (.group number change body :: items)
    | some '[' =>
      let item ← readClass steps
      readItems steps branches (item :: items)
    | some '?' =>
      let (body, before) ← lastItem items
      bump
      let marked ← readMark
      readItems steps branches (.repeated body 0 (some 1) marked :: before)
    | some '*' =>
      let (body, before) ← lastItem items
      bump
      let marked ← readMark
      readItems steps branches (.repeated body 0 none marked :: before)
    | some '+' =>
      let (body, before) ← lastItem items
      bump
      let marked ← readMark
      readItems steps branches (.repeated body 1 none marked :: before)
    | some '\x7B' =>
      let (body, before) ← lastItem items
      let (least, most) ← readCounts
      let marked ← readMark
      readItems steps branches (.repeated body least most marked :: before)
    | some _ =>
      let atom ← readAtom
      readItems steps branches (.atom atom :: items)

/-- The greatest depth of a pattern. -/
def depthLimit : Nat := 250

/-- Reads a whole pattern. -/
def Form.parse (pattern : String) : Except Error Form := do
  let text := pattern.toList
  let (form, cursor) ← (readItems (text.length + 1) [] []).run ⟨text, false, 0, []⟩
  if !cursor.rest.isEmpty then throw .unopenedGroup
  if form.depth > depthLimit then throw .nestedTooDeeply
  return form

end EnvInject.Pattern
