import EnvInject.Proofs.CommandLine.Reading

/-!
# One kind of flag

Two lists of arguments may ask for the same settings but for one kind of flag (`SameBut`): one has
the flag where the other has not, or more often, or elsewhere. Then what they give differs in what
this flag gives and in nothing else (`SameBut.without_eq`), and so do the configurations that they
ask for (`parse_of_sameBut_quiet`, `parse_of_sameBut_verbose`).

Arguments that say the flag may be put anywhere, as long as what comes out asks for a configuration
(`sameBut_insert`). At the beginning it always does, but for a flag that was there before and may be
given once (`parse_quiet`, `parse_verbose`).
-/

namespace EnvInject.CommandLine

/-- Two lists of arguments ask for the same settings, in any order, but for one kind of flag. -/
def SameBut (flag : Flag) (arguments arguments' : List Bytes) : Prop :=
  ∃ settings settings', settingsOf false arguments = some settings ∧
    settingsOf false arguments' = some settings' ∧
    (settings.filter (· ≠ .flag flag)).Perm (settings'.filter (· ≠ .flag flag))

variable {vars : Variables} {arguments arguments' : List Bytes} {config config' : Configuration}
  {given given' : Given} {flag : Flag}

theorem givenBy_eq_some_iff : givenBy arguments = some given ↔
    ∃ settings, settingsOf false arguments = some settings ∧
      enterAll (some State.start.given) settings = some given :=
  Option.bind_eq_some_iff

theorem without_start (flag : Flag) : State.start.given.without flag = State.start.given := by
  cases flag <;> rfl

/-- What is given is the same but for the flag. -/
theorem SameBut.without_eq (same : SameBut flag arguments arguments')
    (gives : givenBy arguments = some given) (gives' : givenBy arguments' = some given') :
    given.without flag = given'.without flag := by
  obtain ⟨settings, settings', means, means', perm⟩ := same
  have entered (arguments : List Bytes) (settings : List Setting) (given : Given)
      (means : settingsOf false arguments = some settings)
      (gives : givenBy arguments = some given) :
      enterAll (some State.start.given) (settings.filter (· ≠ .flag flag)) =
        some (given.without flag) := by
    obtain ⟨_, means', all⟩ := givenBy_eq_some_iff.1 gives
    obtain rfl := Option.some.inj (means.symm.trans means')
    have left := enterAll_without flag all
    rwa [without_start] at left
  have first := entered _ _ _ means gives
  have second := entered _ _ _ means' gives'
  rw [enterAll_perm perm] at first
  exact Option.some.inj (first.symm.trans second)

/-! ## What a flag gives is all that changes -/

/-- Whether the program is to be quiet does not matter for the rest of a configuration. -/
theorem complete_quiet (quiet : Bool) (completed : given.complete vars = .ok config) :
    ({ given with quiet }).complete vars = .ok { config with quiet } := by
  obtain ⟨path, matcher, strict, dryRun, -, verbosity⟩ := complete_eq_ok_iff.1 completed
  exact complete_eq_ok_iff.2 ⟨path, matcher, strict, dryRun, rfl, verbosity⟩

/-- Nor does the detail of the log. -/
theorem complete_verbosity (verbosity : Nat) (completed : given.complete vars = .ok config) :
    ({ given with verbosity }).complete vars = .ok { config with verbosity } := by
  obtain ⟨path, matcher, strict, dryRun, quiet, -⟩ := complete_eq_ok_iff.1 completed
  exact complete_eq_ok_iff.2 ⟨path, matcher, strict, dryRun, quiet, rfl⟩

/-- What of a configuration does not come from the flag is the same. -/
theorem SameBut.configuration_eq (same : SameBut flag arguments arguments')
    {erase : Configuration → Configuration}
    (erases : ∀ {given : Given} {config : Configuration}, given.complete vars = .ok config →
      (given.without flag).complete vars = .ok (erase config))
    (parses : parse vars arguments = .ok config) (parses' : parse vars arguments' = .ok config') :
    erase config = erase config' := by
  obtain ⟨given, gives, completed⟩ := parse_eq_ok_iff.1 parses
  obtain ⟨given', gives', completed'⟩ := parse_eq_ok_iff.1 parses'
  have first := erases completed
  have second := erases completed'
  rw [same.without_eq gives gives'] at first
  exact Except.ok.inj (first.symm.trans second)

theorem parse_of_sameBut_quiet (same : SameBut .quiet arguments arguments')
    (parses : parse vars arguments = .ok config) (parses' : parse vars arguments' = .ok config') :
    config' = { config with quiet := config'.quiet } := by
  have rest := same.configuration_eq (complete_quiet false) parses parses'
  exact congrArg (fun other => { other with quiet := config'.quiet }) rest.symm

theorem parse_of_sameBut_verbose (same : SameBut .verbose arguments arguments')
    (parses : parse vars arguments = .ok config) (parses' : parse vars arguments' = .ok config') :
    config' = { config with verbosity := config'.verbosity } := by
  have rest := same.configuration_eq (complete_verbosity 0) parses parses'
  exact congrArg (fun other => { other with verbosity := config'.verbosity }) rest.symm

/-! ## Putting a flag among arguments -/

/-- Arguments with a path cannot get a second one. -/
theorem enterAll_eq_none_of_path {settings : List Setting} {path value : Bytes}
    (entered : enterAll (some State.start.given) settings = some given)
    (hasPath : given.path = some path) :
    enterAll (some State.start.given) (.path value :: settings) = none := by
  have later : (settings ++ [Setting.path value]).Perm (Setting.path value :: settings) :=
    List.perm_append_singleton _ _
  rw [← enterAll_perm later, enterAll_append, entered]
  simp [Given.enter, Given.admits, hasPath]

/-- Arguments that say the flag, put among others, make no other difference: what stands behind `--`
is a path, and a second one. -/
theorem sameBut_insert (before : List Bytes) {added rest : List Bytes} {said : List Setting}
    (saying : List.Forall₂ SaysOne added said) (only : ∀ setting ∈ said, setting = .flag flag)
    (parses : parse vars (before ++ rest) = .ok config)
    (parses' : parse vars (before ++ (added ++ rest)) = .ok config') :
    SameBut flag (before ++ rest) (before ++ (added ++ rest)) := by
  obtain ⟨given, gives, completed⟩ := parse_eq_ok_iff.1 parses
  obtain ⟨given', gives', -⟩ := parse_eq_ok_iff.1 parses'
  obtain ⟨settings, means, entered⟩ := givenBy_eq_some_iff.1 gives
  obtain ⟨settings', means', entered'⟩ := givenBy_eq_some_iff.1 gives'
  refine ⟨settings, settings', means, means', ?_⟩
  have saidFilter : said.filter (· ≠ .flag flag) = [] := by
    simpa using only
  obtain ⟨first, last, rfl, rfl | rfl⟩ := settingsOf_insert saying before means means'
  · simp only [List.filter_append, saidFilter, List.nil_append]
    exact .refl _
  · cases added with
    | nil => exact .refl _
    | cons value more =>
      exfalso
      have hasPath := (complete_eq_ok_iff.1 completed).1
      have moved : (first ++ (Setting.path value :: (more.map Setting.path ++ last))).Perm
          ((Setting.path value :: (first ++ last)) ++ more.map Setting.path) := by
        calc (first ++ (Setting.path value :: (more.map Setting.path ++ last))).Perm
              (Setting.path value :: (first ++ (more.map Setting.path ++ last))) :=
                List.perm_middle
          List.Perm _ (Setting.path value :: (first ++ (last ++ more.map Setting.path))) :=
              (List.perm_append_comm.append_left first).cons _
          _ = (Setting.path value :: (first ++ last)) ++ more.map Setting.path := by simp
      rw [List.map_cons, List.cons_append] at entered'
      rw [enterAll_perm moved, enterAll_append, enterAll_eq_none_of_path entered hasPath,
        enterAll_none] at entered'
      cases entered'

/-! ## A flag at the beginning -/

theorem givenBy_append {added : List Bytes} {said : List Setting}
    (saying : List.Forall₂ SaysOne added said) (gives : givenBy arguments = some given) :
    givenBy (added ++ arguments) = enterAll (some given) said := by
  obtain ⟨settings, means, entered⟩ := givenBy_eq_some_iff.1 gives
  rw [givenBy, giveAll, settingsOf_append saying, means, Option.map_some, Option.bind_some,
    enterAll_perm List.perm_append_comm, enterAll_append, entered]

theorem verbosity_le_of_put {setting : Setting} (within : given.verbosity ≤ verbosityLimit) :
    (given.put setting).verbosity ≤ verbosityLimit := by
  cases setting with
  | flag flag => cases flag <;> first | exact within | exact Nat.min_le_right _ _
  | matcher _ => exact within
  | path _ => exact within

/-- The verbosity never passes its limit, however many settings are entered: counting stops
there. -/
theorem verbosity_le_of_enterAll {settings : List Setting}
    (within : given.verbosity ≤ verbosityLimit)
    (entered : enterAll (some given) settings = some given') :
    given'.verbosity ≤ verbosityLimit := by
  induction settings generalizing given with
  | nil =>
    obtain rfl := Option.some.inj entered
    exact within
  | cons setting rest ih =>
    rw [enterAll_cons, Option.bind_some] at entered
    cases next : given.enter setting with
    | none =>
      rw [next, enterAll_none] at entered
      cases entered
    | some _ =>
      rw [next] at entered
      obtain ⟨-, rfl⟩ := enter_eq_some_iff.1 next
      exact ih (verbosity_le_of_put within) entered

theorem parse_quiet (parses : parse vars arguments = .ok config) (loud : config.quiet = false) :
    parse vars (Utf8.encode "--quiet" :: arguments) = .ok { config with quiet := true } := by
  obtain ⟨given, gives, completed⟩ := parse_eq_ok_iff.1 parses
  have given_quiet : given.quiet = false :=
    (complete_eq_ok_iff.1 completed).2.2.2.2.1.trans loud
  have gives' : givenBy ([Utf8.encode "--quiet"] ++ arguments) =
      some { given with quiet := true } := by
    rw [givenBy_append (.cons saysOne_quiet .nil) gives]
    simp [Given.enter, Given.admits, Given.put, given_quiet]
  exact parse_eq_ok_iff.2 ⟨_, gives', complete_quiet true completed⟩

theorem parse_verbose (parses : parse vars arguments = .ok config) (count : Nat) :
    parse vars (List.replicate count (Utf8.encode "-v") ++ arguments) =
      .ok { config with verbosity := min (config.verbosity + count) verbosityLimit } := by
  obtain ⟨given, gives, completed⟩ := parse_eq_ok_iff.1 parses
  obtain ⟨settings, -, entered⟩ := givenBy_eq_some_iff.1 gives
  have within : given.verbosity ≤ verbosityLimit :=
    verbosity_le_of_enterAll (Nat.zero_le _) entered
  have verbosity : given.verbosity = config.verbosity :=
    (complete_eq_ok_iff.1 completed).2.2.2.2.2
  have gives' := givenBy_append (saysOne_replicate saysOne_verbose count) gives
  rw [enterAll_replicate_verbose count within, verbosity] at gives'
  exact parse_eq_ok_iff.2 ⟨_, gives', complete_verbosity _ completed⟩

end EnvInject.CommandLine
