import EnvInject.Proofs.CommandLine.Reading
import EnvInject.Proofs.Text.Utf8

/-!
# Writing a configuration as arguments

Every configuration that a run can use can be asked for by arguments: one for each of its options,
in whatever order, and its directory behind `--` (`parse_optionArguments`). The pattern is attached
to its name, so it may begin like a flag or hold an `=`, and the variables have no say in what the
arguments ask for.
-/

namespace EnvInject.CommandLine

/-- Arguments for the options of a configuration. -/
def optionArguments (config : Configuration) : List Bytes :=
  (Utf8.encode "--matcher=" ++ Utf8.encode config.matcher) ::
    ((if config.strict then [Utf8.encode "--strict"] else [])
      ++ (if config.dryRun then [Utf8.encode "--dry-run"] else [])
      ++ (if config.quiet then [Utf8.encode "--quiet"] else [])
      ++ List.replicate config.verbosity (Utf8.encode "-v"))

/-- What they say. -/
def optionSettings (config : Configuration) : List Setting :=
  .matcher (Utf8.encode config.matcher) ::
    ((if config.strict then [.flag .strict] else [])
      ++ (if config.dryRun then [.flag .dryRun] else [])
      ++ (if config.quiet then [.flag .quiet] else [])
      ++ List.replicate config.verbosity (.flag .verbose))

variable {config : Configuration}

/-! ## What the arguments say -/

/-- The argument for a pattern says this pattern, whatever it is: the name ends at the first `=`,
and what follows may hold further ones. -/
theorem saysOne_matcher (value : Bytes) :
    SaysOne (Utf8.encode "--matcher=" ++ value) (.matcher value) := by
  have name : Utf8.encode "--matcher=" = 0x2D :: 0x2D :: (Utf8.encode "matcher" ++ [0x3D]) := by
    decide +kernel
  have noEquals : ∀ byte ∈ Utf8.encode "matcher", (byte != 0x3D) = true := by decide +kernel
  have text : Utf8.encode "--matcher=" ++ value =
      0x2D :: 0x2D :: (Utf8.encode "matcher" ++ 0x3D :: value) := by
    rw [name]
    simp
  have flag : Flag.ofLong? (Utf8.encode "matcher") = some .matcher := by decide +kernel
  have nameSays_eq : nameSays (Utf8.encode "matcher" ++ 0x3D :: value) =
      some ⟨[.matcher value], false⟩ := by
    rw [nameSays, List.takeWhile_append_of_pos noEquals, List.dropWhile_append_of_pos noEquals]
    simp [flag]
  rw [SaysOne, text, ← nameSays_eq]
  rfl

theorem saysOne_if {on : Bool} {argument : Bytes} {setting : Setting}
    (saysOne : SaysOne argument setting) :
    List.Forall₂ SaysOne (if on then [argument] else []) (if on then [setting] else []) := by
  cases on with
  | false => exact .nil
  | true => exact .cons saysOne .nil

theorem saysOne_optionArguments (config : Configuration) :
    List.Forall₂ SaysOne (optionArguments config) (optionSettings config) := by
  have strict : SaysOne (Utf8.encode "--strict") (.flag .strict) := by decide +kernel
  have dryRun : SaysOne (Utf8.encode "--dry-run") (.flag .dryRun) := by decide +kernel
  refine .cons (saysOne_matcher _) ?_
  exact List.rel_append (List.rel_append (List.rel_append (saysOne_if strict) (saysOne_if dryRun))
    (saysOne_if saysOne_quiet)) (saysOne_replicate saysOne_verbose _)

theorem settingsOf_directory (directory : Bytes) :
    settingsOf false [Utf8.encode "--", directory] = some [.path directory] := by
  have dashes : shapeOf (Utf8.encode "--") = .dashes := by decide +kernel
  rw [settingsOf, dashes]
  rfl

/-! ## What the settings give -/

/-- Entered at the start, the settings for the options of a configuration give these options, and no
path. No two of them clash, and `-v` is given as often as the configuration counts. -/
theorem enterAll_optionSettings (within : config.verbosity ≤ verbosityLimit) :
    enterAll (some State.start.given) (optionSettings config) =
      some ⟨none, some config.matcher, config.strict, config.dryRun, config.quiet,
        config.verbosity⟩ := by
  rcases config with ⟨directory, matcher, strict, dryRun, quiet, verbosity⟩
  have entered : State.start.given.enter (.matcher (Utf8.encode matcher)) =
      some ⟨none, some matcher, false, false, false, 0⟩ := by
    simp [Given.enter, Given.admits, Given.put, Utf8.decode?_encode, State.start]
  have flags : enterAll (some ⟨none, some matcher, false, false, false, 0⟩)
      ((if strict then [.flag .strict] else []) ++ (if dryRun then [.flag .dryRun] else [])
        ++ (if quiet then [.flag .quiet] else [])) =
      some ⟨none, some matcher, strict, dryRun, quiet, 0⟩ := by
    cases strict <;> cases dryRun <;> cases quiet <;> rfl
  have counted : min (0 + verbosity) verbosityLimit = verbosity := by
    rw [Nat.zero_add]
    exact Nat.min_eq_left within
  rw [optionSettings, enterAll_cons, Option.bind_some, entered, enterAll_append, flags,
    enterAll_replicate_verbose verbosity (Nat.zero_le _), counted]

/-! ## The round trip -/

/-- The options of a configuration in any order, and its directory behind `--`, ask for this
configuration. `strict` is the only option that the variables could add to it. -/
theorem parse_optionArguments {vars : Variables} {arguments : List Bytes}
    (directory : config.directory ≠ [])
    (matcher : ∃ c ∈ config.matcher.toList, isBlank c = false)
    (verbosity : config.verbosity ≤ 255)
    (strict : config.strict = false → vars.raw? (Utf8.encode strictVariable) = none ∨
      vars.raw? (Utf8.encode strictVariable) = some (Utf8.encode "false"))
    (permutes : arguments.Perm (optionArguments config)) :
    parse vars (arguments ++ [Utf8.encode "--", config.directory]) = .ok config ∧
      config.validate = .ok config := by
  constructor
  · obtain ⟨settings, saying, settings_perm⟩ :=
      List.perm_comp_forall₂ permutes (saysOne_optionArguments config)
    have given : givenBy (arguments ++ [Utf8.encode "--", config.directory]) =
        some ⟨some config.directory, some config.matcher, config.strict, config.dryRun,
          config.quiet, config.verbosity⟩ := by
      rw [givenBy, giveAll, settingsOf_append saying, settingsOf_directory, Option.map_some,
        Option.bind_some, enterAll_append, enterAll_perm settings_perm,
        enterAll_optionSettings verbosity]
      simp [Given.enter, Given.admits, Given.put, directory]
    refine parse_eq_ok_iff.2 ⟨_, given, complete_eq_ok_iff.2 ⟨rfl, rfl, ?_, rfl, rfl, rfl⟩⟩
    rw [Given.strictOr]
    cases isStrict : config.strict with
    | true => rfl
    | false =>
      rcases strict isStrict with unset | isFalse
      · rw [unset]
        rfl
      · simp only [isFalse, Utf8.decode?_encode]
        rfl
  · obtain ⟨c, member, visible⟩ := matcher
    have notBlank : isBlankText config.matcher = false := by
      rw [isBlankText, List.all_eq_false]
      exact ⟨c, member, by simp [visible]⟩
    rw [Configuration.validate, if_neg (by simpa using directory), notBlank]
    rfl

/-- A pattern and a directory that look like flags, where the variables give another pattern, which
is no text, and `false`. -/
theorem parse_optionArguments_like_flags :
    let config : Configuration := ⟨[0x2D, 0xFF], "--strict=", false, true, true, 2⟩
    let vars : Variables := ⟨[(Utf8.encode matcherVariable, [0xFF]),
      (Utf8.encode strictVariable, Utf8.encode "false")]⟩
    let arguments := [Utf8.encode "-v", Utf8.encode "--quiet",
      Utf8.encode "--matcher=--strict=", Utf8.encode "-v", Utf8.encode "--dry-run"]
    config.directory ≠ [] ∧ (∃ c ∈ config.matcher.toList, isBlank c = false) ∧
      config.verbosity ≤ 255 ∧
      vars.raw? (Utf8.encode strictVariable) = some (Utf8.encode "false") ∧
      arguments.Perm (optionArguments config) ∧
      parse vars (arguments ++ [Utf8.encode "--", config.directory]) = .ok config ∧
      config.validate = .ok config := by
  intro config vars arguments
  have directory : config.directory ≠ [] := by decide
  have matcher : ∃ c ∈ config.matcher.toList, isBlank c = false :=
    ⟨'s', by decide +kernel, by decide +kernel⟩
  have strict : vars.raw? (Utf8.encode strictVariable) = some (Utf8.encode "false") := by
    decide +kernel
  have permutes : arguments.Perm (optionArguments config) := by decide +kernel
  exact ⟨directory, matcher, by decide, strict, permutes,
    parse_optionArguments directory matcher (by decide) (fun _ => .inr strict) permutes⟩

end EnvInject.CommandLine
