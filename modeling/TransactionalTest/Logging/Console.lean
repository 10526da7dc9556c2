import TransactionalTest.Json.Basic
import TransactionalTest.Logging.Filter
import TransactionalTest.Table
import TransactionalTest.Text.Lower

/-!
# Console logging

Sets up the printing of reports as the environment says, and lays out the printed lines.

* `Logging.environmentName`, `Logging.directives`, `Logging.usesJson` — what the variables say;
* `Logging.prettyLine`, `Logging.jsonLine` — the two layouts;
* `Logging.Launch.output` — what becomes of the reports of a launch.
-/

namespace TransactionalTest

namespace Logging

/-- The variables that a launch of the program sees, by name. -/
abbrev Variables := Table String String

/-! ### Choices -/

/-- The name of the environment that the program runs in. -/
def environmentName (vars : Variables) : String :=
  ((vars.find? "TXTEST_ENV").or (vars.find? "APP_ENV")).getD "test"

/-- The level that an environment asks for. -/
def defaultLimit (environment : String) : Nat :=
  if environment = "production" then LogLevel.info.rank else LogLevel.debug.rank

/-- The directives in force: those of the filter variable, if it can be read, else the level of
the environment. -/
def directives (vars : Variables) : List LogFilter.Directive :=
  ((vars.find? "RUST_LOG").bind LogFilter.parse?).getD
    [{ limit := defaultLimit (environmentName vars) }]

/-- Lines are JSON documents. -/
def usesJson (vars : Variables) : Bool :=
  match vars.find? "TXTEST_LOG_FORMAT" with
  | some s => Lower.eqIgnoreCase s "json"
  | none => false

/-- Name the environment, unless it has a name. -/
def nameEnvironment (vars : Variables) : Variables :=
  if vars.contains "TXTEST_ENV" then vars else vars.insert "TXTEST_ENV" "test"

/-! ### Layouts -/

/-- The target of the reports that the logging functions make. -/
def target : String := "txtest_core::logging"

/-- A field as console lines show it. -/
def prettyField (f : String × LogValue) : String :=
  f.1 ++ "=" ++ match f.2 with
    | .flag b => Inspect.flag b
    | .bare s => s
    | .quoted s => Inspect.quoted s

/-- A report as a line of text. -/
def prettyLine (e : LogEvent) : String :=
  e.level.text ++ " " ++ target ++ ": " ++
    String.intercalate " " (e.message :: e.fields.map prettyField)

/-- The value of a field as JSON. -/
def jsonValue : LogValue → Json
  | .flag b => .bool b
  | .bare s | .quoted s => .string s

/-- The fields of a report as JSON. -/
def jsonFields (e : LogEvent) : List (String × Json) :=
  e.fields.map fun f => (f.1, jsonValue f.2)

/-- A report as a JSON document. -/
def jsonLine (e : LogEvent) : Json :=
  .object
    [("level", .string e.level.text), ("target", .string target),
      ("fields", .object (("message", .string e.message) :: jsonFields e))]

/-! ### Launches -/

/-- What a launch of the program does about logging. -/
structure Launch where
  vars : Variables := []
  /-- The test environment is set up first. -/
  namesEnvironment : Bool := false
  /-- Something else already receives all reports. -/
  hasSubscriber : Bool := false
  /-- How many times logging is initialised; only the first time counts. -/
  initialisations : Nat := 1
  /-- The reports made afterwards. -/
  reports : List LogEvent := []

/-- What becomes of the reports of a launch. -/
inductive Output where
  | nothing
  | pretty (lines : List String)
  | json (lines : List Json)
  | captured (reports : List LogEvent)

namespace Launch

/-- The variables once the test environment is set up. -/
def settledVariables (p : Launch) : Variables :=
  if p.namesEnvironment then nameEnvironment p.vars else p.vars

/-- The reports of the initialisation and those that follow. -/
def allReports (p : Launch) : List LogEvent :=
  let opening : List LogEvent :=
    if p.initialisations = 0 then []
    else (if p.hasSubscriber then [.subscriberPresent] else []) ++
      [.loggingInitialized (environmentName p.settledVariables)]
  opening ++ p.reports

/-- The reports that are printed. -/
def printed (p : Launch) : List LogEvent :=
  if p.initialisations = 0 then []
  else p.allReports.filter fun e =>
    LogFilter.allows (directives p.settledVariables) target e.fieldNames e.level

/-- What becomes of the reports: another receiver takes them all, else the console prints those
that pass the filter. -/
def output (p : Launch) : Output :=
  if p.hasSubscriber then
    if p.allReports.isEmpty then .nothing else .captured p.allReports
  else if p.printed.isEmpty then .nothing
  else if usesJson p.settledVariables then .json (p.printed.map jsonLine)
  else .pretty (p.printed.map prettyLine)

end Launch

end Logging

end TransactionalTest
