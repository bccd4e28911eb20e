import EnvInject.Proofs.CommandLine.Settings

/-!
# What arguments say

`settingsOf` reads arguments as settings, one after the other and without a state: an argument is a
path, a value that an argument before it waits for, or it says settings by itself. An argument that
says one setting by itself (`SaysOne`) says it wherever it stands, unless it stands behind `--`,
where it is a path (`settingsOf_insert`).
-/

namespace EnvInject.CommandLine

/-- What one argument says. -/
structure Saying where
  settings : List Setting
  /-- Whether the next argument is the value of the pattern. -/
  awaits : Bool
  deriving DecidableEq

/-- What letters behind `-` say. What follows the letter of the pattern is its value. -/
def lettersSay : Bytes → Option Saying
  | [] => some ⟨[], false⟩
  | letter :: rest =>
    match Flag.ofShort? letter with
    | none => none
    | some .matcher =>
      match rest with
      | [] => some ⟨[], true⟩
      | first :: more => some ⟨[.matcher (if first = 0x3D then more else rest)], false⟩
    | some flag =>
      (lettersSay rest).map fun later => ⟨.flag flag :: later.settings, later.awaits⟩

/-- What a name behind `--` says, with the value behind its first `=`. -/
def nameSays (text : Bytes) : Option Saying :=
  match Flag.ofLong? (text.takeWhile (· != 0x3D)), text.dropWhile (· != 0x3D) with
  | none, _ => none
  | some .matcher, [] => some ⟨[], true⟩
  | some .matcher, _ :: value => some ⟨[.matcher value], false⟩
  | some flag, [] => some ⟨[.flag flag], false⟩
  | some _, _ :: _ => none

/-- What one argument is, before `--`. -/
inductive Shape where
  /-- `--`. -/
  | dashes
  /-- A name or letters, and what they say, if they say anything. -/
  | flags (said : Option Saying)
  /-- A path, or the value of a pattern. -/
  | value
  deriving DecidableEq

/-- What an argument is. -/
def shapeOf : Bytes → Shape
  | [0x2D, 0x2D] => .dashes
  | 0x2D :: 0x2D :: text => .flags (nameSays text)
  | 0x2D :: letter :: letters => .flags (lettersSay (letter :: letters))
  | _ => .value

/-- The settings that arguments ask for, where the first of them may be the value of a pattern. -/
def settingsOf (awaits : Bool) : List Bytes → Option (List Setting)
  | [] => if awaits then none else some []
  | argument :: rest =>
    match shapeOf argument with
    | .dashes => if awaits then none else some (rest.map .path)
    | .flags said =>
      if awaits then none
      else said.bind fun said => (settingsOf said.awaits rest).map (said.settings ++ ·)
    | .value =>
      (settingsOf false rest).map
        ((if awaits then .matcher argument else .path argument) :: ·)

/-! ## Arguments that say one setting each -/

/-- An argument that says one setting by itself. -/
def SaysOne (argument : Bytes) (setting : Setting) : Prop :=
  shapeOf argument = .flags (some ⟨[setting], false⟩)

instance (argument : Bytes) (setting : Setting) : Decidable (SaysOne argument setting) :=
  inferInstanceAs (Decidable (_ = _))

theorem saysOne_quiet : SaysOne (Utf8.encode "--quiet") (.flag .quiet) := by decide +kernel

theorem saysOne_verbose : SaysOne (Utf8.encode "-v") (.flag .verbose) := by decide +kernel

theorem saysOne_replicate {argument : Bytes} {setting : Setting}
    (saysOne : SaysOne argument setting) (count : Nat) :
    List.Forall₂ SaysOne (List.replicate count argument) (List.replicate count setting) := by
  induction count with
  | zero => exact .nil
  | succ count ih => exact .cons saysOne ih

/-- Arguments that say one setting each say these settings. -/
theorem settingsOf_append {arguments rest : List Bytes} {settings : List Setting}
    (saying : List.Forall₂ SaysOne arguments settings) :
    settingsOf false (arguments ++ rest) = (settingsOf false rest).map (settings ++ ·) := by
  induction saying with
  | nil => simp
  | cons saysOne _ ih =>
    rw [SaysOne] at saysOne
    rw [List.cons_append, settingsOf, saysOne]
    simp only [Bool.false_eq_true, if_false, Option.bind_some, ih, Option.map_map]
    rfl

/-- Arguments that say one setting each, put among others, add what they say, unless they come to
stand behind `--`. -/
theorem settingsOf_insert {added rest : List Bytes} {said settings settings' : List Setting}
    (saying : List.Forall₂ SaysOne added said) (before : List Bytes) {awaits : Bool}
    (without : settingsOf awaits (before ++ rest) = some settings)
    (within : settingsOf awaits (before ++ (added ++ rest)) = some settings') :
    ∃ first last, settings = first ++ last ∧
      (settings' = first ++ (said ++ last) ∨ settings' = first ++ (added.map .path ++ last)) := by
  induction before generalizing awaits settings settings' with
  | nil =>
    refine ⟨[], settings, rfl, .inl ?_⟩
    cases awaits with
    | false =>
      have sum := @settingsOf_append added rest said saying
      rw [List.nil_append] at without within
      rw [within, without] at sum
      exact Option.some.inj sum
    | true =>
      -- What waits for its value gets none from an argument that says a setting.
      cases saying with
      | nil => exact Option.some.inj (within.symm.trans without)
      | cons saysOne _ =>
        rw [SaysOne] at saysOne
        rw [List.nil_append, List.cons_append, settingsOf, saysOne] at within
        cases within
  | cons argument before ih =>
    rw [List.cons_append, settingsOf] at without within
    cases shape : shapeOf argument with
    | dashes =>
      rw [shape] at without within
      cases awaits with
      | true => cases without
      | false =>
        obtain rfl := Option.some.inj without
        obtain rfl := Option.some.inj within
        exact ⟨before.map .path, rest.map .path, by simp, .inr (by simp)⟩
    | flags meant =>
      rw [shape] at without within
      cases awaits with
      | true => cases without
      | false =>
        cases meant with
        | none => cases without
        | some meant =>
          obtain ⟨later, shorter, rfl⟩ := Option.map_eq_some_iff.1 without
          obtain ⟨later', longer, rfl⟩ := Option.map_eq_some_iff.1 within
          obtain ⟨first, last, rfl, added⟩ := ih shorter longer
          refine ⟨meant.settings ++ first, last, by simp, ?_⟩
          rcases added with rfl | rfl
          · exact .inl (by simp)
          · exact .inr (by simp)
    | value =>
      rw [shape] at without within
      obtain ⟨later, shorter, rfl⟩ := Option.map_eq_some_iff.1 without
      obtain ⟨later', longer, rfl⟩ := Option.map_eq_some_iff.1 within
      obtain ⟨first, last, rfl, added⟩ := ih shorter longer
      refine ⟨_ :: first, last, rfl, ?_⟩
      rcases added with rfl | rfl
      · exact .inl rfl
      · exact .inr rfl

end EnvInject.CommandLine
