import TransactionalTest.Text.Blank
import TransactionalTest.Text.Inspect

/-!
# Listener configuration

The settings that hold for every test class of a controller.

* `ListenerConfig` — the three settings and their defaults;
* `ListenerConfig.validate` — the rule they must keep;
* `ConfigurationError` — what can be wrong with a configuration.
-/

namespace TransactionalTest

/-- What can be wrong with a configuration. -/
inductive ConfigurationError where
  /-- A file that was asked for is not there. -/
  | fileNotFound (path : String)
  /-- A source could not be read. -/
  | load (source text : String)
  /-- A setting breaks a rule. -/
  | invalidValue (field value rule : String)
  deriving DecidableEq, Repr

/-- The text of the error. -/
def ConfigurationError.message : ConfigurationError → String
  | fileNotFound path => "Configuration file not found: " ++ path
  | load source text => "Failed to load configuration from " ++ source ++ ": " ++ text
  | invalidValue field value rule =>
    "Invalid value '" ++ value ++ "' for field '" ++ field ++ "': " ++ rule

/-- The settings that hold for every test class of a controller. -/
structure ListenerConfig where
  /-- A transactional test without a manager fails instead of running without a transaction. -/
  strictManagerResolution : Bool := false
  /-- The rollback flag of classes without a configuration. -/
  defaultRollback : Bool := true
  /-- The manager's name of classes without a configuration; the empty name asks for the unique
  or primary manager. -/
  defaultTransactionManager : String := ""
  deriving DecidableEq, Repr, Inhabited

namespace ListenerConfig

/-- A manager's name must not carry blanks at its ends. -/
def validate (c : ListenerConfig) : Except ConfigurationError Unit :=
  if Blank.isPadded c.defaultTransactionManager then
    .error (.invalidValue "default_transaction_manager" c.defaultTransactionManager
      "manager names must not carry surrounding whitespace")
  else .ok ()

/-- The settings in inspection text. -/
def inspect (c : ListenerConfig) : String :=
  Inspect.record "ListenerConfig"
    [("strict_manager_resolution", Inspect.flag c.strictManagerResolution),
      ("default_rollback", Inspect.flag c.defaultRollback),
      ("default_transaction_manager", Inspect.quoted c.defaultTransactionManager)]

end ListenerConfig

/-- The manager's name and the default rollback flag in force for one test class. -/
structure ConfigurationAttributes where
  managerName : String
  defaultRollback : Bool
  deriving DecidableEq, Repr, Inhabited

namespace ConfigurationAttributes

/-- The attributes in diagnostics. -/
def display (a : ConfigurationAttributes) : String :=
  "[transactionManagerName = '" ++ a.managerName ++ "', defaultRollback = " ++
    Inspect.flag a.defaultRollback ++ "]"

/-- The attributes in inspection text. -/
def inspect (a : ConfigurationAttributes) : String :=
  Inspect.record "ConfigurationAttributes"
    [("transaction_manager_name", Inspect.quoted a.managerName),
      ("default_rollback", Inspect.flag a.defaultRollback)]

end ConfigurationAttributes

namespace ListenerConfig

/-- What holds for a class that declares no configuration. -/
def fallback (c : ListenerConfig) : ConfigurationAttributes :=
  ⟨c.defaultTransactionManager, c.defaultRollback⟩

end ListenerConfig

end TransactionalTest
