import TransactionalTest.LogEvent
import TransactionalTest.Settings.Environment
import TransactionalTest.Settings.File

/-!
# Loading the listener configuration

The defaults, a file over them, environment variables on top; then validation.

* `ListenerConfig.load` — the configuration, or what is wrong with it, and the reports made.
-/

namespace TransactionalTest

/-- Where the listener configuration is looked for. -/
structure ConfigurationSources where
  workspace : Workspace := []
  vars : List (String × String) := []
  /-- A file that must exist; without one, the file of the usual name is used if it is there. -/
  file : Option String := none
  deriving Repr

namespace ConfigurationSources

/-- The name of the settings file in the working directory. -/
def usualFile : String := "txtest.toml"

/-- The name under which a fault of the sources is reported. -/
def name (s : ConfigurationSources) : String := s.file.getD usualFile

/-- What the file says, if there is one; a file that was asked for must be readable. -/
def fileLayer (s : ConfigurationSources) : Except SourceFault Layer :=
  match SettingsFile.layer? s.workspace s.name with
  | .ok (some l) => .ok l
  | .ok none => if s.file.isSome then .error .unknownFormat else .ok []
  | .error e => .error e

/-- The values on top. -/
def settings (s : ConfigurationSources) : Except SourceFault Settings :=
  (s.fileLayer).map fun file =>
    (Environment.layer s.vars).over (file.over Settings.defaults)

/-- The configuration that the values on top make. -/
def config (s : ConfigurationSources) : Except SourceFault ListenerConfig :=
  match s.settings with
  | .ok settings =>
    match settings.toConfig? with
    | some c => .ok c
    | none => .error .wrongType
  | .error e => .error e

end ConfigurationSources

/-- Load the configuration from its sources, with the reports made on the way.  How a fault of the
sources is put into words is left to `wording`; nothing else depends on the text. -/
def ListenerConfig.load (s : ConfigurationSources)
    (wording : ConfigurationSources → SourceFault → String := fun _ _ => "") :
    Except ConfigurationError ListenerConfig × List LogEvent :=
  let missing := s.file.filter fun path => !s.workspace.has path
  match missing with
  | some path => (.error (.fileNotFound path), [])
  | none =>
    let opening := (s.file.map LogEvent.fileLoading).toList
    match s.config with
    | .error fault => (.error (.load s.name (wording s fault)), opening)
    | .ok c =>
      match c.validate with
      | .error e => (.error e, opening)
      | .ok () => (.ok c, opening ++ [.configurationLoaded c])

end TransactionalTest
