import EnvInject.Proofs.CommandLine.Shapes

/-!
# Reading arguments

Entering the settings of arguments is all that `parse` does with arguments (`parse_eq_ok_iff`).
`parse` enters a path or a waiting pattern later than it reads them, and a configuration does not
show when.

The step is `Reaches`: wherever the reading of arguments stands, what it still has pending amounts
to what the settings read so far give.
-/

namespace EnvInject.CommandLine

/-! ## Where the reading stands -/

variable {given : Option Given} {state : State} {reached : Except Interruption State}

/-- What is given when what is pending is entered. -/
def State.entered (state : State) : Except Interruption Given :=
  match state.pending with
  | none => .ok state.given
  | some (.matcher none) => .error (.misuse .invalidValue)
  | some (.matcher (some value)) => state.given.enterMatcher value
  | some (.path value) =>
    if value.isEmpty then .error (.misuse .invalidValue)
    else .ok { state.given with path := some value }

/-- Settling enters what is pending, after which nothing is. -/
theorem settle_eq (state : State) : state.settle = state.entered.map fun given =>
    { state with given, pending := none, awaitsValue := false } := by
  rcases state with ⟨given, pending, awaitsValue, pathSeen, flagsOver⟩
  match pending with
  | none => rfl
  | some (.matcher none) => rfl
  | some (.matcher (some value)) =>
    simp only [State.settle, State.entered]
    cases given.enterMatcher value with
    | error cause => rfl
    | ok given => rfl
  | some (.path []) => rfl
  | some (.path (_ :: _)) => rfl

/-- Entering what is pending gives `given`; it fails where `given` is none. -/
def State.Settles (state : State) (given : Option Given) : Prop :=
  state.entered.toOption = given

theorem settle_of_settles_none (settles : state.Settles none) :
    ∃ cause, state.settle = .error cause := by
  rw [State.Settles] at settles
  rw [settle_eq]
  cases entered : state.entered with
  | error cause => exact ⟨cause, rfl⟩
  | ok given =>
    rw [entered] at settles
    cases settles

theorem settle_of_settles_some {given : Given} (settles : state.Settles (some given)) :
    state.settle = .ok { state with given, pending := none, awaitsValue := false } := by
  rw [State.Settles] at settles
  rw [settle_eq]
  cases entered : state.entered with
  | error cause =>
    rw [entered] at settles
    cases settles
  | ok other =>
    rw [entered] at settles
    obtain rfl := Option.some.inj settles
    rfl

/-- A waiting pattern without its value cannot be entered. -/
theorem settles_of_awaiting (pending : state.pending = some (.matcher none)) :
    state.Settles none := by
  rw [State.Settles, State.entered, pending]
  rfl

/-- The reading of arguments, which may have ended early, has reached a state that amounts to
`given`; the pattern may wait for its value. -/
def Reaches (awaits : Bool) (given : Option Given) : Except Interruption State → Prop
  | .error _ => given = none
  | .ok state =>
    state.flagsOver = false ∧ state.awaitsValue = awaits ∧
      (∀ entered ∈ given, state.pathSeen = entered.path.isSome) ∧
      if awaits then state.pending = some (.matcher none) ∧ given = some state.given
      else state.Settles given

/-- What is given when all arguments are read. -/
def finish (reached : Except Interruption State) : Option Given :=
  (reached >>= State.settle).toOption.map (·.given)

theorem reaches_start : Reaches false (some State.start.given) (.ok .start) := by
  refine ⟨rfl, rfl, fun entered same => ?_, rfl⟩
  cases same
  rfl

theorem finish_of_settles (settles : state.Settles given) : finish (.ok state) = given := by
  have settled : finish (.ok state) = state.settle.toOption.map (·.given) := rfl
  rw [settled]
  cases given with
  | none =>
    obtain ⟨cause, fails⟩ := settle_of_settles_none settles
    rw [fails]
    rfl
  | some given =>
    have settles := settle_of_settles_some settles
    rw [settles]
    rfl

theorem toOption_enterFlag (given : Given) (flag : Flag) :
    (given.enterFlag flag).toOption = given.enter (.flag flag) := by
  rcases given with ⟨path, matcher, strict, dryRun, quiet, verbosity⟩
  cases flag with
  | strict => cases strict <;> rfl
  | dryRun => cases dryRun <;> rfl
  | quiet => cases quiet <;> rfl
  | matcher | verbose | help | version => rfl

theorem toOption_enterMatcher (given : Given) (value : Bytes) :
    (given.enterMatcher value).toOption = given.enter (.matcher value) := by
  rw [Given.enterMatcher, Given.enter, Given.admits, Given.put]
  cases given.matcher with
  | some matcher => rfl
  | none =>
    cases Utf8.decode? value with
    | none => rfl
    | some matcher => rfl

theorem path_put {given : Given} {setting : Setting} (noPath : ∀ value, setting ≠ .path value) :
    (given.put setting).path = given.path := by
  cases setting with
  | flag flag => cases flag <;> rfl
  | matcher _ => rfl
  | path value => exact absurd rfl (noPath value)

/-! ## One flag -/

/-- After a setting other than a path was entered into what was pending, nothing is pending. -/
theorem reaches_enter {setting : Setting} (noPath : ∀ value, setting ≠ .path value)
    (flagsOpen : state.flagsOver = false)
    (pathSeen : ∀ entered ∈ given, state.pathSeen = entered.path.isSome)
    (settles : state.Settles given) {enters : Given → Except Interruption Given}
    (enters_eq : ∀ given, (enters given).toOption = given.enter setting) :
    Reaches false (given.bind (·.enter setting))
      (do let settled ← state.settle
          return { settled with given := ← enters settled.given }) := by
  cases given with
  | none =>
    obtain ⟨cause, fails⟩ := settle_of_settles_none settles
    rw [fails]
    rfl
  | some given =>
    have settles := settle_of_settles_some settles
    rw [settles, Option.bind_some, ← enters_eq]
    dsimp only [bind, Except.bind]
    have entered := enters_eq given
    cases result : enters given with
    | error cause => rfl
    | ok next =>
      rw [result] at entered
      obtain ⟨-, rfl⟩ := enter_eq_some_iff.1 entered.symm
      refine ⟨flagsOpen, rfl, fun other same => ?_, rfl⟩
      obtain rfl := Option.some.inj same
      rw [path_put noPath]
      exact pathSeen given rfl

variable (here : Reaches false given (.ok state))

include here

theorem reaches_flag {flag : Flag} (noValue : flag ≠ .matcher) :
    Reaches false (given.bind (·.enter (.flag flag))) (state.flag flag none) := by
  obtain ⟨flagsOpen, -, pathSeen, settles⟩ := here
  have noPath : ∀ value, Setting.flag flag ≠ .path value := fun value same => by cases same
  have entered := reaches_enter noPath flagsOpen pathSeen settles
    fun given => toOption_enterFlag given flag
  cases flag with
  | matcher => exact absurd rfl noValue
  | strict | dryRun | quiet | verbose | help | version => exact entered

theorem reaches_matcher (value : Bytes) :
    Reaches false (given.bind (·.enter (.matcher value))) (state.flag .matcher (some value)) := by
  obtain ⟨flagsOpen, -, pathSeen, settles⟩ := here
  exact reaches_enter (fun other same => by cases same) flagsOpen pathSeen settles
    fun given => toOption_enterMatcher given value

theorem reaches_awaiting : Reaches true given (state.flag .matcher none) := by
  obtain ⟨flagsOpen, -, pathSeen, settles⟩ := here
  rw [State.flag]
  cases given with
  | none =>
    obtain ⟨cause, fails⟩ := settle_of_settles_none settles
    rw [fails]
    rfl
  | some given =>
    have settles := settle_of_settles_some settles
    rw [settles]
    exact ⟨flagsOpen, rfl, pathSeen, rfl, rfl⟩

omit here

/-! ## One argument -/

/-- What is reached after an argument that says `said`; an argument that says nothing is misuse. -/
def ReachesBy (given : Option Given) (reached : Except Interruption State) : Option Saying → Prop
  | none => ∃ cause, reached = .error cause
  | some said => Reaches said.awaits (enterAll given said.settings) reached

/-- Letters behind one dash give what they say. The induction is on the letters; a letter that needs
a value takes all the others for it, or waits for the next argument if it is the last one. -/
theorem reaches_letters (letters : Bytes) (here : Reaches false given (.ok state)) :
    ReachesBy given (state.shortFlags letters) (lettersSay letters) := by
  induction letters generalizing given state with
  | nil => exact here
  | cons letter rest ih =>
    unfold State.shortFlags lettersSay
    cases named : Flag.ofShort? letter with
    | none => exact ⟨_, rfl⟩
    | some flag =>
      by_cases isMatcher : flag = .matcher
      · subst isMatcher
        cases rest with
        | nil => exact reaches_awaiting here
        | cons first more => exact reaches_matcher here _
      · have entered := reaches_flag here isMatcher
        have later (reached : Except Interruption State)
            (there : Reaches false (given.bind (·.enter (.flag flag))) reached) :
            ReachesBy given (reached >>= (·.shortFlags rest))
              ((lettersSay rest).map fun later =>
                ⟨.flag flag :: later.settings, later.awaits⟩) := by
          cases reached with
          | error cause =>
            have vain : given.bind (·.enter (.flag flag)) = none := there
            cases lettersSay rest with
            | none => exact ⟨cause, rfl⟩
            | some said =>
              have stillVain : enterAll given (.flag flag :: said.settings) = none := by
                rw [enterAll_cons, vain, enterAll_none]
              exact stillVain
          | ok next =>
            have goesOn := ih there
            cases meant : lettersSay rest with
            | none =>
              rw [meant] at goesOn
              exact goesOn
            | some said =>
              rw [meant] at goesOn
              exact goesOn
        cases flag with
        | matcher => exact absurd rfl isMatcher
        | strict | dryRun | quiet | verbose | help | version => exact later _ entered

/-- A name behind two dashes gives what it says. A value behind `=` is for the pattern only, and
misuse with any other name. -/
theorem reaches_name (text : Bytes) (here : Reaches false given (.ok state)) :
    ReachesBy given (state.longFlag text) (nameSays text) := by
  rw [State.longFlag, nameSays]
  cases Flag.ofLong? (text.takeWhile (· != 0x3D)) with
  | none => exact ⟨_, rfl⟩
  | some flag =>
    by_cases isMatcher : flag = .matcher
    · subst isMatcher
      cases text.dropWhile (· != 0x3D) with
      | nil => exact reaches_awaiting here
      | cons _ value => exact reaches_matcher here value
    · have entered := reaches_flag here isMatcher
      cases text.dropWhile (· != 0x3D) with
      | nil =>
        cases flag with
        | matcher => exact absurd rfl isMatcher
        | strict | dryRun | quiet | verbose | help | version => exact entered
      | cons _ value =>
        cases flag with
        | matcher => exact absurd rfl isMatcher
        | strict | dryRun | quiet | verbose | help | version => exact ⟨_, rfl⟩

/-- A flag cannot be read where what is pending cannot be entered. -/
theorem flag_of_settle_eq_error {cause : Interruption} (fails : state.settle = .error cause)
    (flag : Flag) (attached : Option Bytes) : ∃ cause, state.flag flag attached = .error cause := by
  cases flag <;> cases attached <;> exact ⟨_, by simp only [State.flag, fails]; rfl⟩

theorem longFlag_of_settle_eq_error {cause : Interruption} (fails : state.settle = .error cause)
    (text : Bytes) : ∃ cause, state.longFlag text = .error cause := by
  rw [State.longFlag]
  split
  · exact ⟨_, rfl⟩
  · exact flag_of_settle_eq_error fails _ _

/-- Letters cannot be read where what is pending cannot be entered. The first letter is enough: it
is either no flag or one that settles. -/
theorem shortFlags_of_settle_eq_error {cause : Interruption} (fails : state.settle = .error cause)
    (letter : UInt8) (rest : Bytes) :
    ∃ cause, state.shortFlags (letter :: rest) = .error cause := by
  unfold State.shortFlags
  split
  · exact ⟨_, rfl⟩
  · split
    · exact flag_of_settle_eq_error fails _ _
    · exact flag_of_settle_eq_error fails _ _
  · rename_i flag _ _
    obtain ⟨cause, noFlag⟩ := flag_of_settle_eq_error fails flag none
    rw [noFlag]
    exact ⟨cause, rfl⟩

/-- A path is pending after it was read, and a second one is none. -/
theorem path_cases (pathSeen : ∀ entered ∈ given, state.pathSeen = entered.path.isSome)
    (settles : state.Settles given) (value : Bytes) :
    (∃ cause, state.path value = .error cause ∧ given.bind (·.enter (.path value)) = none) ∨
      ∃ next, state.path value = .ok next ∧ next.flagsOver = state.flagsOver ∧
        next.awaitsValue = false ∧
        (∀ entered ∈ given.bind (·.enter (.path value)),
          next.pathSeen = entered.path.isSome) ∧
        next.Settles (given.bind (·.enter (.path value))) := by
  unfold State.path
  cases given with
  | none =>
    obtain ⟨cause, fails⟩ := settle_of_settles_none settles
    left
    split
    · exact ⟨_, rfl, rfl⟩
    · exact ⟨cause, by rw [fails]; rfl, rfl⟩
  | some given =>
    have seen := pathSeen given rfl
    have settles := settle_of_settles_some settles
    rw [Option.bind_some, Given.enter, Given.admits]
    cases path : given.path with
    | some _ =>
      rw [path] at seen
      left
      exact ⟨_, if_pos seen, rfl⟩
    | none =>
      rw [path] at seen
      right
      rw [seen, settles]
      refine ⟨_, rfl, rfl, rfl, ?_, ?_⟩
      · intro entered member
        simp only [Option.isNone_none, Bool.true_and] at member
        split at member
        · obtain rfl := Option.some.inj member
          rfl
        · cases member
      · cases value with
        | nil => rfl
        | cons first rest => rfl

/-! ## The argument by its shape -/

variable {argument : Bytes} {said : Option Saying}

theorem argument_of_dashes (flagsOpen : state.flagsOver = false)
    (shape : shapeOf argument = .dashes) :
    state.argument argument = .ok { state with flagsOver := true } := by
  unfold shapeOf at shape
  split at shape
  · simp [State.argument, flagsOpen, pure, Except.pure]
  · cases shape
  · cases shape
  · cases shape

/-- A name or letters are read as flags. -/
theorem argument_of_flags (flagsOpen : state.flagsOver = false)
    (shape : shapeOf argument = .flags said) :
    (∃ text, said = nameSays text ∧ state.argument argument = state.longFlag text) ∨
      ∃ letter rest, said = lettersSay (letter :: rest) ∧
        state.argument argument = state.shortFlags (letter :: rest) := by
  unfold shapeOf at shape
  split at shape
  · cases shape
  · rename_i text _
    exact .inl ⟨text, (Shape.flags.inj shape).symm, by simp [State.argument, flagsOpen]⟩
  · rename_i letter rest _ _
    exact .inr ⟨letter, rest, (Shape.flags.inj shape).symm, by simp [State.argument, flagsOpen]⟩
  · cases shape

theorem argument_of_value (flagsOpen : state.flagsOver = false)
    (shape : shapeOf argument = .value) : state.argument argument =
      if state.awaitsValue then
        .ok { state with pending := some (.matcher (some argument)), awaitsValue := false }
      else state.path argument := by
  unfold shapeOf at shape
  split at shape
  · cases shape
  · cases shape
  · cases shape
  · simp [State.argument, flagsOpen, pure, Except.pure]

/-! ## All arguments -/

/-- Behind `--` there are paths. -/
theorem finish_paths (flagsOver : state.flagsOver = true)
    (pathSeen : ∀ entered ∈ given, state.pathSeen = entered.path.isSome)
    (settles : state.Settles given) (paths : List Bytes) :
    finish (paths.foldlM State.argument state) = enterAll given (paths.map .path) := by
  induction paths generalizing given state with
  | nil => exact finish_of_settles settles
  | cons value rest ih =>
    have isPath : state.argument value = state.path value := by
      unfold State.argument
      rw [if_pos flagsOver]
    rw [List.foldlM_cons, isPath, List.map_cons, enterAll_cons]
    rcases path_cases pathSeen settles value with
      ⟨cause, fails, vain⟩ | ⟨next, read, flagsOver', -, pathSeen', settles'⟩
    · rw [fails, vain, enterAll_none]
      rfl
    · rw [read]
      exact ih (flagsOver'.trans flagsOver) pathSeen' settles'

/-- What is given after the arguments that are left. -/
def giveAll (given : Option Given) (awaits : Bool) (rest : List Bytes) : Option Given :=
  (settingsOf awaits rest).bind (enterAll given)

theorem giveAll_none (awaits : Bool) (rest : List Bytes) : giveAll none awaits rest = none := by
  rw [giveAll]
  cases settingsOf awaits rest with
  | none => rfl
  | some settings => exact enterAll_none settings

theorem giveAll_append (given : Option Given) (said : Saying) (rest : List Bytes) :
    ((settingsOf said.awaits rest).map (said.settings ++ ·)).bind (enterAll given) =
      giveAll (enterAll given said.settings) said.awaits rest := by
  rw [giveAll]
  cases settingsOf said.awaits rest with
  | none => rfl
  | some settings => exact enterAll_append given said.settings settings

theorem giveAll_cons (given : Option Given) (setting : Setting) (rest : List Bytes) :
    ((settingsOf false rest).map (setting :: ·)).bind (enterAll given) =
      giveAll (given.bind (·.enter setting)) false rest :=
  giveAll_append given ⟨[setting], false⟩ rest

/-- Behind `--` the pattern gets no value any more. -/
theorem finish_dashes {awaits : Bool} (here : Reaches awaits given (.ok state))
    (shape : shapeOf argument = .dashes) (rest : List Bytes) :
    finish (state.argument argument >>= fun state => rest.foldlM State.argument state) =
      if awaits then none else enterAll given (rest.map .path) := by
  rw [argument_of_dashes here.1 shape]
  change finish (rest.foldlM State.argument { state with flagsOver := true }) = _
  cases awaits with
  | true =>
    have settles : State.Settles { state with flagsOver := true } none :=
      settles_of_awaiting here.2.2.2.1
    exact (finish_paths rfl (fun _ member => by cases member) settles rest).trans (enterAll_none _)
  | false =>
    have pathSeen : ∀ entered ∈ given,
        State.pathSeen { state with flagsOver := true } = entered.path.isSome := here.2.2.1
    have settles : State.Settles { state with flagsOver := true } given := here.2.2.2
    exact finish_paths rfl pathSeen settles rest

/-- A waiting pattern gets no value from a flag. -/
theorem flags_of_awaiting (here : Reaches true given (.ok state))
    (shape : shapeOf argument = .flags said) :
    ∃ cause, state.argument argument = .error cause := by
  obtain ⟨_, inVain⟩ := settle_of_settles_none (settles_of_awaiting here.2.2.2.1)
  rcases argument_of_flags here.1 shape with ⟨_, -, read⟩ | ⟨_, _, -, read⟩
  · rw [read]
    exact longFlag_of_settle_eq_error inVain _
  · rw [read]
    exact shortFlags_of_settle_eq_error inVain _ _

theorem reaches_flags (here : Reaches false given (.ok state))
    (shape : shapeOf argument = .flags said) :
    ReachesBy given (state.argument argument) said := by
  rcases argument_of_flags here.1 shape with ⟨_, rfl, read⟩ | ⟨_, _, rfl, read⟩
  · rw [read]
    exact reaches_name _ here
  · rw [read]
    exact reaches_letters _ here

/-- The value of a waiting pattern is entered later. -/
theorem reaches_attached (here : Reaches true given (.ok state)) (value : Bytes) :
    Reaches false (given.bind (·.enter (.matcher value)))
      (.ok { state with pending := some (.matcher (some value)), awaitsValue := false }) := by
  obtain ⟨flagsOpen, -, pathSeen, -, rfl⟩ := here
  have entered := toOption_enterMatcher state.given value
  rw [Option.bind_some, ← entered]
  refine ⟨flagsOpen, rfl, fun next same => ?_, ?_⟩
  · rw [entered] at same
    obtain ⟨-, rfl⟩ := enter_eq_some_iff.1 same
    rw [path_put fun other same => by cases same]
    exact pathSeen state.given rfl
  · rfl

/-- A value is the pattern where one is awaited, and a path where none is. It stays pending until
something else is read. -/
theorem reaches_value {awaits : Bool} (here : Reaches awaits given (.ok state))
    (shape : shapeOf argument = .value) :
    Reaches false
      (given.bind (·.enter (if awaits then .matcher argument else .path argument)))
      (state.argument argument) := by
  rw [argument_of_value here.1 shape, here.2.1]
  cases awaits with
  | true => exact reaches_attached here argument
  | false =>
    obtain ⟨flagsOpen, -, pathSeen, settles⟩ := here
    simp only [Bool.false_eq_true, if_false]
    rcases path_cases pathSeen settles argument with
      ⟨cause, noPath, vain⟩ | ⟨next, read, flagsOver, noValue, pathSeen', settles'⟩
    · rw [noPath, vain]
      rfl
    · rw [read]
      exact ⟨flagsOver.trans flagsOpen, noValue, pathSeen', settles'⟩

/-- Reading arguments one after the other gives what their settings give. -/
theorem finish_arguments (arguments : List Bytes) {awaits : Bool}
    (here : Reaches awaits given reached) :
    finish (reached >>= fun state => arguments.foldlM State.argument state) =
      giveAll given awaits arguments := by
  induction arguments generalizing given reached awaits with
  | nil =>
    cases reached with
    | error cause =>
      obtain rfl : given = none := here
      rw [giveAll_none]
      rfl
    | ok state =>
      cases awaits with
      | true => exact finish_of_settles (settles_of_awaiting here.2.2.2.1)
      | false => exact finish_of_settles here.2.2.2
  | cons argument rest ih =>
    cases reached with
    | error cause =>
      obtain rfl : given = none := here
      rw [giveAll_none]
      rfl
    | ok state =>
      change finish ((argument :: rest).foldlM State.argument state) = _
      rw [List.foldlM_cons, giveAll, settingsOf]
      cases shape : shapeOf argument with
      | dashes =>
        rw [finish_dashes here shape]
        cases awaits with
        | true => rfl
        | false => rfl
      | flags said =>
        cases awaits with
        | true =>
          obtain ⟨cause, fails⟩ := flags_of_awaiting here shape
          rw [fails]
          rfl
        | false =>
          have there := reaches_flags here shape
          cases said with
          | none =>
            obtain ⟨cause, fails⟩ := there
            rw [fails]
            rfl
          | some said =>
            simp only [Bool.false_eq_true, if_false, Option.bind_some]
            rw [giveAll_append]
            exact ih there
      | value =>
        dsimp only
        rw [giveAll_cons]
        exact ih (reaches_value here shape)

/-! ## From settings to a configuration -/

variable {vars : Variables} {arguments : List Bytes} {config : Configuration}

/-- What is given by arguments. -/
def givenBy (arguments : List Bytes) : Option Given :=
  giveAll (some State.start.given) false arguments

/-- The configuration that is asked for by what was given; variables and defaults fill the gaps. -/
def Given.complete (given : Given) (vars : Variables) : Except Interruption Configuration := do
  let matcher ← given.matcherOr vars
  let strict ← given.strictOr vars
  match given.path with
  | none => throw (.misuse .missingRequiredArgument)
  | some path => return ⟨path, matcher, strict, given.dryRun, given.quiet, given.verbosity⟩

/-- A configuration is complete exactly if a path was given and the pattern and the strictness are
settled, by variables or defaults where nothing was given. All else is as it was given. -/
theorem complete_eq_ok_iff {given : Given} : given.complete vars = .ok config ↔
    given.path = some config.directory ∧ given.matcherOr vars = .ok config.matcher ∧
      given.strictOr vars = .ok config.strict ∧ given.dryRun = config.dryRun ∧
      given.quiet = config.quiet ∧ given.verbosity = config.verbosity := by
  rcases config with ⟨directory, matcher, strict, dryRun, quiet, verbosity⟩
  rw [Given.complete]
  cases given.matcherOr vars with
  | error cause => simp [bind, Except.bind]
  | ok matcher =>
    cases given.strictOr vars with
    | error cause => simp [bind, Except.bind]
    | ok strict =>
      cases given.path with
      | none => simp [bind, Except.bind, throw, throwThe, MonadExceptOf.throw]
      | some path => simp [bind, Except.bind, pure, Except.pure]

/-- Arguments ask for the configuration that their settings ask for. -/
theorem parse_eq_ok_iff : parse vars arguments = .ok config ↔
    ∃ given, givenBy arguments = some given ∧ given.complete vars = .ok config := by
  have parsed : parse vars arguments =
      (arguments.foldlM State.argument .start >>= State.settle) >>=
        fun state => state.given.complete vars := by
    rw [parse]
    cases arguments.foldlM State.argument .start with
    | error cause => rfl
    | ok state => rfl
  have finished : (arguments.foldlM State.argument .start >>= State.settle).toOption.map
      (·.given) = givenBy arguments := finish_arguments arguments reaches_start
  rw [parsed, ← finished]
  cases arguments.foldlM State.argument .start >>= State.settle with
  | error cause =>
    constructor
    · intro same
      cases same
    · rintro ⟨given, none, -⟩
      cases none
  | ok state =>
    constructor
    · exact fun completed => ⟨state.given, rfl, completed⟩
    · rintro ⟨given, same, completed⟩
      obtain rfl := Option.some.inj same
      exact completed

end EnvInject.CommandLine
