import TransactionalTest.Lifecycle.Error

/-!
# Log events

What the library reports while it works.  Each kind of report is a constructor that holds what
the report is about; its level, its message and its fields are read off it.

* `LogEvent` — the reports, with `level`, `message` and `fields`;
* `Operation` — the names of the operations that reports mention.
-/

namespace TransactionalTest

/-! ### Names and levels -/

namespace Operation

/-- The before-test phase. -/
def beforeTest : String := "lifecycle.before_test"

/-- The after-test phase. -/
def afterTest : String := "lifecycle.after_test"

/-- A transaction has begun. -/
def transactionStarted : String := "transaction.started"

/-- A transaction has been committed. -/
def transactionCommitted : String := "transaction.committed"

/-- A transaction has been rolled back. -/
def transactionRolledBack : String := "transaction.rolled_back"

/-- A test runs without a transaction. -/
def transactionSkipped : String := "transaction.skipped"

/-- The call of a hook before the transaction. -/
def beforeTransactionHook : String := "hook.before_transaction"

/-- The call of a hook after the transaction. -/
def afterTransactionHook : String := "hook.after_transaction"

end Operation

/-- How grave a report is. -/
inductive LogLevel where
  | error
  | warn
  | info
  | debug
  | trace
  deriving DecidableEq, Repr

namespace LogLevel

/-- The name of the level. -/
def text : LogLevel → String
  | error => "ERROR"
  | warn => "WARN"
  | info => "INFO"
  | debug => "DEBUG"
  | trace => "TRACE"

/-- From the gravest to the most talkative. -/
def rank : LogLevel → Nat
  | error => 1
  | warn => 2
  | info => 3
  | debug => 4
  | trace => 5

end LogLevel

/-- The value of a field of a report. -/
inductive LogValue where
  | flag (b : Bool)
  /-- A text that console lines show as it is. -/
  | bare (s : String)
  /-- A text that console lines show in quotes. -/
  | quoted (s : String)
  deriving DecidableEq, Repr

/-! ### Reports -/

/-- A report. -/
inductive LogEvent where
  | managerRegistered (registration : Registration)
  | selectorAsked (managers : Nat)
  | qualifierFailed (qualifier test : String) (error : LookupError)
  | managerUnresolved (name test : String) (error : LookupError)
  | controllerCreated (config : ListenerConfig)
  | phaseEntered (operation test key : String)
  | noIntent (test : String)
  | intentFound (intent : Attribute) (test : String)
  | managerMissing (test : String)
  | configurationRead (declared : Option ClassConfiguration) (className : String)
  | configurationResolved (attributes : ConfigurationAttributes) (className : String)
  | hooksDiscovered (count : Nat) (phase : HookPhase) (className : String)
  | rollbackOverridden (rollback default : Bool) (test : String)
  | rollbackDefaulted (default : Bool) (test : String)
  | transactionEnding (status : Status) (test : String) (rollback : Bool)
  | transactionGone (test : String)
  | transition (key : String) (source : LifecycleState) (event : LifecycleEvent)
      (target : LifecycleState)
  | transaction (operation test : String) (manager : Option String) (rollback : Option Bool)
      (details : Option String)
  | hook (operation test method : String)
  | failure (component operation error : String) (context : Option String)
  | fileLoading (path : String)
  | configurationLoaded (config : ListenerConfig)
  | loggingInitialized (environment : String)
  | subscriberPresent
  deriving DecidableEq, Repr

namespace LogEvent

/-- How grave the report is. -/
def level : LogEvent → LogLevel
  | managerRegistered _ | controllerCreated _ | transaction _ _ _ _ _
  | loggingInitialized _ => .info
  | qualifierFailed _ _ _ | managerUnresolved _ _ _ | managerMissing _ => .warn
  | failure _ _ _ _ => .error
  | _ => .debug

/-- The message of the report. -/
def message : LogEvent → String
  | managerRegistered _ => "Registered transaction manager"
  | selectorAsked n =>
    "Using manager selection hook to choose among " ++ toString n ++ " managers"
  | qualifierFailed qualifier test error =>
    "Caught exception while retrieving transaction manager with qualifier '" ++ qualifier ++
      "' for test context " ++ test ++ ": " ++ error.message
  | managerUnresolved _ _ _ =>
    "Transaction manager could not be resolved; continuing without one"
  | controllerCreated _ => "Creating transaction lifecycle controller"
  | phaseEntered _ _ _ => "Lifecycle phase"
  | noIntent test => "No transactional intent declared for test " ++ test
  | intentFound intent test =>
    "Explicit transaction definition [" ++ intent.display ++ "] found for test " ++ test
  | managerMissing _ =>
    "No transaction manager was found for a transactional test; " ++
      "running it without a transaction"
  | configurationRead declared className =>
    "Retrieved class transaction configuration " ++
      Inspect.option (declared.map ClassConfiguration.inspect) ++
      " for test class [" ++ className ++ "]"
  | configurationResolved attributes className =>
    "Resolved ConfigurationAttributes " ++ attributes.display ++ " for class [" ++ className ++ "]"
  | hooksDiscovered count phase className =>
    "Discovered " ++ toString count ++ " " ++ phase.text ++ " hook(s) for test class [" ++
      className ++ "]"
  | rollbackOverridden rollback default test =>
    "Method-level rollback [" ++ Inspect.flag rollback ++ "] overrides default rollback [" ++
      Inspect.flag default ++ "] for test " ++ test
  | rollbackDefaulted default test =>
    "No method-level rollback declared for test " ++ test ++ "; using default rollback [" ++
      Inspect.flag default ++ "]"
  | transactionEnding status test rollback =>
    "Ending transaction " ++ status.display ++ " for test " ++ test ++ " with rollback = " ++
      Inspect.flag rollback
  | transactionGone test =>
    "Transaction for test " ++ test ++ " was already completed by the test body"
  | transition key source event target =>
    "Lifecycle transition for " ++ key ++ ": " ++ source.text ++ " --" ++ event.kind ++ "--> " ++
      target.text
  | transaction _ _ _ _ _ => "TRANSACTION_OPERATION"
  | hook _ _ _ => "HOOK_OPERATION"
  | failure _ _ _ _ => "ERROR"
  | fileLoading path => "Loading listener configuration from " ++ path
  | configurationLoaded _ => "Listener configuration loaded"
  | loggingInitialized _ => "Structured logging initialized"
  | subscriberPresent =>
    "Global tracing subscriber already initialized - continuing with existing subscriber"

/-- A field that is left out when it has no value. -/
def optional (name : String) (value : Option LogValue) : List (String × LogValue) :=
  (value.map fun v => (name, v)).toList

/-- The fields of the report, in order. -/
def fields : LogEvent → List (String × LogValue)
  | managerRegistered r =>
    [("name", .bare r.name), ("qualifiers", .bare (Inspect.texts r.qualifiers)),
      ("primary", .flag r.primary)]
  | managerUnresolved name test error =>
    [("manager_name", .bare name), ("test", .bare test), ("error", .bare error.message)]
  | controllerCreated config =>
    [("strict_manager_resolution", .flag config.strictManagerResolution),
      ("default_rollback", .flag config.defaultRollback)]
  | phaseEntered operation test key =>
    [("operation", .bare operation), ("test", .bare test), ("key", .bare key)]
  | managerMissing test => [("test", .bare test)]
  | transaction operation test manager rollback details =>
    [("operation", .bare operation), ("test", .bare test)] ++
      optional "manager" (manager.map .quoted) ++ optional "rollback" (rollback.map .flag) ++
      optional "details" (details.map .quoted)
  | hook operation test method =>
    [("operation", .bare operation), ("test", .bare test), ("hook", .bare method)]
  | failure component operation error context =>
    [("component", .bare component), ("operation", .bare operation), ("error", .bare error)] ++
      optional "context" (context.map .quoted)
  | configurationLoaded config =>
    [("strict_manager_resolution", .flag config.strictManagerResolution),
      ("default_rollback", .flag config.defaultRollback),
      ("default_transaction_manager", .bare config.defaultTransactionManager)]
  | loggingInitialized environment => [("environment", .bare environment)]
  | _ => []

/-- The names under which the report can have fields, those for its message and for the time of
its making included; a field that is left out keeps its name. -/
def fieldNames (e : LogEvent) : List String :=
  "message" :: match e with
    | transaction _ _ _ _ _ =>
      ["operation", "test", "manager", "rollback", "details", "timestamp"]
    | failure _ _ _ _ => ["component", "operation", "error", "context", "timestamp"]
    | _ => e.fields.map (·.1)

theorem fields_names_subset (e : LogEvent) : ∀ f ∈ e.fields, f.1 ∈ e.fieldNames := by
  intro f hf
  cases e with
  | transaction operation test manager rollback details =>
    simp only [fields, optional, List.mem_append, List.mem_cons, List.not_mem_nil, or_false,
      Option.mem_toList, Option.map_eq_some_iff] at hf
    simp only [fieldNames]
    rcases hf with (((rfl | rfl) | ⟨_, _, rfl⟩) | ⟨_, _, rfl⟩) | ⟨_, _, rfl⟩ <;> simp
  | failure component operation error context =>
    simp only [fields, optional, List.mem_append, List.mem_cons, List.not_mem_nil, or_false,
      Option.mem_toList, Option.map_eq_some_iff] at hf
    simp only [fieldNames]
    rcases hf with (rfl | rfl | rfl) | ⟨_, _, rfl⟩ <;> simp
  | _ => exact List.mem_cons_of_mem _ (List.mem_map_of_mem hf)

end LogEvent

end TransactionalTest
