import TransactionalTest.Settings.Ini
import TransactionalTest.Settings.Json
import TransactionalTest.Settings.Json5
import TransactionalTest.Settings.Ron
import TransactionalTest.Settings.Toml
import TransactionalTest.Settings.Workspace
import TransactionalTest.Settings.Yaml

/-!
# Settings files

* `SettingsFormat` — the formats, named by the extensions of files;
* `SettingsFile.layer?` — what the file at a path says.
-/

namespace TransactionalTest

/-- The formats of settings files. -/
inductive SettingsFormat where
  | toml
  | json
  | yaml
  | ini
  | ron
  | json5
  deriving DecidableEq, Repr

namespace SettingsFormat

/-- The extensions of settings files, with the format that each stands for. -/
def extensions : List (String × SettingsFormat) :=
  [("toml", toml), ("json", json), ("yaml", yaml), ("yml", yaml), ("ini", ini), ("ron", ron),
    ("json5", json5)]

/-- What a text in the format says. -/
def parse? : SettingsFormat → String → Option Layer
  | toml => Layer.ofToml?
  | json => Layer.ofJson?
  | yaml => Layer.ofYaml?
  | ini => Layer.ofIni?
  | ron => Layer.ofRon?
  | json5 => Layer.ofJson5?

end SettingsFormat

/-- Why a source of settings cannot be used. -/
inductive SourceFault where
  | unknownFormat
  | malformed
  | wrongType
  deriving DecidableEq, Repr

namespace SettingsFile

/-- What a file says, in the format that its extension names. -/
def read (path content : String) : Except SourceFault Layer :=
  match SettingsFormat.extensions.lookup (Workspace.extension path) with
  | some format =>
    match format.parse? content with
    | some l => .ok l
    | none => .error .malformed
  | none => .error .unknownFormat

/-- What the file at a path says; without it, the file whose name has a known extension more.
Nothing if there is none of them. -/
def layer? (w : Workspace) (path : String) : Except SourceFault (Option Layer) :=
  match w.read? path with
  | some content => (read path content).map some
  | none =>
    let longer := (Workspace.named? path).bind fun name =>
      SettingsFormat.extensions.findSome? fun e =>
        (w.read? (name ++ "." ++ e.1)).map fun content => (name ++ "." ++ e.1, content)
    match longer with
    | some (path, content) => (read path content).map some
    | none => .ok none

end SettingsFile

end TransactionalTest
