import EnvInject.CommandLine.Arguments
import Mathlib.Data.List.Perm.Basic

/-!
# Settings

What arguments ask for is a list of settings: flags, patterns and paths (`Setting`). A setting is
given once, but for `verbose`, which counts. No setting makes another one possible or impossible by
coming first, so the order of settings does not matter (`enterAll_perm`), and leaving out one kind
of flag takes back what this flag gives and nothing else (`enterAll_without`).
-/

namespace EnvInject.CommandLine

/-- One thing that arguments ask for. -/
inductive Setting where
  /-- A flag that has no value. -/
  | flag (flag : Flag)
  /-- The pattern. -/
  | matcher (value : Bytes)
  | path (value : Bytes)
  deriving DecidableEq

/-- Whether two settings are one that may be given once. -/
def Setting.clashes : Setting → Setting → Bool
  | .flag first, .flag second => first == second && first != .verbose
  | .matcher _, .matcher _ | .path _, .path _ => true
  | _, _ => false

/-- Whether a setting can be given, after what was given before. -/
def Given.admits (given : Given) : Setting → Bool
  | .flag .strict => !given.strict
  | .flag .dryRun => !given.dryRun
  | .flag .quiet => !given.quiet
  | .flag .verbose => true
  | .flag .matcher | .flag .help | .flag .version => false
  | .matcher value => given.matcher.isNone && (Utf8.decode? value).isSome
  | .path value => given.path.isNone && !value.isEmpty

/-- What is given with a setting that can be given. -/
def Given.put (given : Given) : Setting → Given
  | .flag .strict => { given with strict := true }
  | .flag .dryRun => { given with dryRun := true }
  | .flag .quiet => { given with quiet := true }
  | .flag .verbose => { given with verbosity := min (given.verbosity + 1) verbosityLimit }
  | .flag .matcher | .flag .help | .flag .version => given
  | .matcher value => { given with matcher := Utf8.decode? value }
  | .path value => { given with path := some value }

/-- What is given with a setting more; none if it cannot be given. -/
def Given.enter (given : Given) (setting : Setting) : Option Given :=
  if given.admits setting then some (given.put setting) else none

/-- What is given with settings more, one after the other. -/
def enterAll (given : Option Given) (settings : List Setting) : Option Given :=
  settings.foldl (fun given setting => given.bind (·.enter setting)) given

variable {given entered : Given} {settings : List Setting}

@[simp] theorem enterAll_nil (given : Option Given) : enterAll given [] = given := rfl

@[simp] theorem enterAll_cons (given : Option Given) (setting : Setting) (rest : List Setting) :
    enterAll given (setting :: rest) = enterAll (given.bind (·.enter setting)) rest := rfl

@[simp] theorem enterAll_append (given : Option Given) (first second : List Setting) :
    enterAll given (first ++ second) = enterAll (enterAll given first) second :=
  List.foldl_append

@[simp] theorem enterAll_none (settings : List Setting) : enterAll none settings = none := by
  induction settings with
  | nil => rfl
  | cons setting rest ih => rw [enterAll_cons, Option.bind_none, ih]

theorem enter_eq_some_iff {setting : Setting} :
    given.enter setting = some entered ↔
      given.admits setting = true ∧ given.put setting = entered := by
  simp [Given.enter]

/-! ## The order of settings -/

theorem clashes_comm (first second : Setting) :
    first.clashes second = second.clashes first := by
  cases first with
  | flag first =>
    cases second with
    | flag second => cases first <;> cases second <;> rfl
    | matcher _ => rfl
    | path _ => rfl
  | matcher _ => cases second <;> rfl
  | path _ => cases second <;> rfl

/-- A setting that was given before is in the way of another one only if they clash. -/
theorem admits_put (first second : Setting) (possible : given.admits first = true) :
    (given.put first).admits second = (given.admits second && !first.clashes second) := by
  cases first with
  | flag first =>
    cases second with
    | flag second =>
      cases first <;> cases second <;> simp [Given.admits, Given.put, Setting.clashes]
    | matcher _ => cases first <;> simp [Given.admits, Given.put, Setting.clashes]
    | path _ => cases first <;> simp [Given.admits, Given.put, Setting.clashes]
  | matcher value =>
    have isText : (Utf8.decode? value).isNone = false := by
      simp only [Given.admits, Bool.and_eq_true] at possible
      simpa using possible.2
    cases second with
    | flag second => cases second <;> simp [Given.admits, Given.put, Setting.clashes]
    | matcher _ => simp [Given.admits, Given.put, Setting.clashes, isText]
    | path _ => simp [Given.admits, Given.put, Setting.clashes]
  | path _ =>
    cases second with
    | flag second => cases second <;> simp [Given.admits, Given.put, Setting.clashes]
    | matcher _ => simp [Given.admits, Given.put, Setting.clashes]
    | path _ => simp [Given.admits, Given.put, Setting.clashes]

/-- Settings that do not clash are about different fields, or both count, so either may be put
first. -/
theorem put_comm (given : Given) {first second : Setting}
    (apart : first.clashes second = false) :
    (given.put first).put second = (given.put second).put first := by
  cases first with
  | flag first =>
    cases second with
    | flag second => cases first <;> cases second <;> rfl
    | matcher _ => cases first <;> rfl
    | path _ => cases first <;> rfl
  | matcher _ =>
    cases second with
    | flag second => cases second <;> rfl
    | matcher _ => cases apart
    | path _ => rfl
  | path _ =>
    cases second with
    | flag second => cases second <;> rfl
    | matcher _ => rfl
    | path _ => cases apart

theorem enter_bind_enter (given : Given) (first second : Setting) :
    (given.enter first).bind (·.enter second) =
      if given.admits first && given.admits second && !first.clashes second then
        some ((given.put first).put second)
      else none := by
  rw [Given.enter]
  cases possible : given.admits first with
  | false => rfl
  | true =>
    rw [if_pos rfl, Option.bind_some, Given.enter, admits_put first second possible, Bool.true_and]

/-- Of two settings either may come first. -/
theorem enter_comm (given : Given) (first second : Setting) :
    (given.enter first).bind (·.enter second) = (given.enter second).bind (·.enter first) := by
  rw [enter_bind_enter, enter_bind_enter, clashes_comm second first,
    Bool.and_comm (given.admits second)]
  cases apart : first.clashes second with
  | false => rw [put_comm given apart]
  | true => simp

/-- The order of settings does not matter. -/
theorem enterAll_perm {settings' : List Setting} (perm : settings.Perm settings')
    (given : Option Given) : enterAll given settings = enterAll given settings' := by
  refine perm.foldl_eq' (fun first _ second _ given => ?_) given
  cases given with
  | none => rfl
  | some given => exact enter_comm given first second

/-! ## Counting -/

/-- Repeated `-v` are counted up to the limit. -/
theorem enterAll_replicate_verbose {given : Given} (count : Nat)
    (within : given.verbosity ≤ verbosityLimit) :
    enterAll (some given) (List.replicate count (.flag .verbose)) =
      some { given with verbosity := min (given.verbosity + count) verbosityLimit } := by
  induction count generalizing given with
  | zero => simp [Nat.min_eq_left within]
  | succ count ih =>
    rw [List.replicate_succ, enterAll_cons]
    have entered : given.enter (.flag .verbose) =
        some { given with verbosity := min (given.verbosity + 1) verbosityLimit } := rfl
    rw [Option.bind_some, entered, ih (Nat.min_le_right _ _)]
    have sum : min (min (given.verbosity + 1) verbosityLimit + count) verbosityLimit =
        min (given.verbosity + (count + 1)) verbosityLimit := by
      omega
    dsimp only
    rw [sum]

/-! ## Leaving a flag out -/

/-- What is given without one kind of flag. -/
def Given.without (flag : Flag) (given : Given) : Given :=
  match flag with
  | .strict => { given with strict := false }
  | .dryRun => { given with dryRun := false }
  | .quiet => { given with quiet := false }
  | .verbose => { given with verbosity := 0 }
  | .matcher | .help | .version => given

theorem without_put_flag (flag : Flag) (given : Given) :
    (given.put (.flag flag)).without flag = given.without flag := by
  cases flag <;> rfl

theorem without_put {flag : Flag} {setting : Setting} (differs : setting ≠ .flag flag) :
    (given.put setting).without flag = (given.without flag).put setting := by
  cases setting with
  | flag other =>
    have differs : other ≠ flag := fun same => differs (congrArg Setting.flag same)
    cases flag <;> cases other <;> first | rfl | exact absurd rfl differs
  | matcher _ => cases flag <;> rfl
  | path _ => cases flag <;> rfl

theorem admits_without {flag : Flag} {setting : Setting} (differs : setting ≠ .flag flag) :
    (given.without flag).admits setting = given.admits setting := by
  cases setting with
  | flag other =>
    have differs : other ≠ flag := fun same => differs (congrArg Setting.flag same)
    cases flag <;> cases other <;> first | rfl | exact absurd rfl differs
  | matcher _ => cases flag <;> rfl
  | path _ => cases flag <;> rfl

/-- Settings without one kind of flag give all but what this flag gives. -/
theorem enterAll_without (flag : Flag) (all : enterAll (some given) settings = some entered) :
    enterAll (some (given.without flag)) (settings.filter (· ≠ .flag flag)) =
      some (entered.without flag) := by
  induction settings generalizing given with
  | nil =>
    obtain rfl := Option.some.inj all
    rfl
  | cons setting rest ih =>
    rw [enterAll_cons, Option.bind_some] at all
    cases next : given.enter setting with
    | none =>
      rw [next, enterAll_none] at all
      cases all
    | some given' =>
      rw [next] at all
      obtain ⟨possible, rfl⟩ := enter_eq_some_iff.1 next
      have later := ih all
      by_cases same : setting = .flag flag
      · subst same
        rw [without_put_flag] at later
        simpa using later
      · have kept : (given.without flag).enter setting = some ((given.put setting).without flag) :=
          enter_eq_some_iff.2 ⟨by rw [admits_without same, possible], (without_put same).symm⟩
        rw [List.filter_cons_of_pos (by simpa using same), enterAll_cons, Option.bind_some, kept]
        exact later

end EnvInject.CommandLine
