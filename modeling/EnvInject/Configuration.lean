import EnvInject.Path
import EnvInject.Pattern.Language
import EnvInject.Text.Blank

/-!
# Configurations

What a run is asked to do. `Configuration.ofDirectory` is the configuration with every option at its
default; `Configuration.validate` refuses the two that no run can use.
-/

namespace EnvInject

/-- What a run is asked to do. -/
structure Configuration where
  /-- The directory with the files. -/
  directory : Path
  /-- The pattern that the names of files must match. -/
  matcher : String
  /-- Whether finding nothing to do is a failure. -/
  strict : Bool
  /-- Whether no file is to be written. -/
  dryRun : Bool
  /-- Whether only warnings and errors are shown. -/
  quiet : Bool
  /-- How much detail the log has, from 0 to 255. -/
  verbosity : Nat
  deriving DecidableEq, Repr

/-- Why a configuration cannot be used. -/
inductive ConfigurationError where
  | emptyPath
  | emptyMatcher
  deriving DecidableEq, Repr

/-- What is wrong with the configuration. -/
def ConfigurationError.message : ConfigurationError → String
  | .emptyPath => "path must not be empty"
  | .emptyMatcher => "matcher must not be empty"

namespace Configuration

/-- The settings for a directory with every option at its default. -/
def ofDirectory (directory : Path) : Configuration :=
  ⟨directory, Pattern.default, false, false, false, 0⟩

/-- The configuration with another pattern. -/
def withMatcher (config : Configuration) (matcher : String) : Configuration :=
  { config with matcher }

/-- The configuration, failing or not if there is nothing to do. -/
def withStrict (config : Configuration) (strict : Bool) : Configuration :=
  { config with strict }

/-- The configuration, writing files or not. -/
def withDryRun (config : Configuration) (dryRun : Bool) : Configuration :=
  { config with dryRun }

/-- The configuration itself, if a run can use it. -/
def validate (config : Configuration) : Except ConfigurationError Configuration :=
  if config.directory.isEmpty then .error .emptyPath
  else if isBlankText config.matcher then .error .emptyMatcher
  else .ok config

end Configuration

end EnvInject
