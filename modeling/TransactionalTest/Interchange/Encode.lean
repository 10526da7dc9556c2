import TransactionalTest.Json.Basic
import TransactionalTest.Lifecycle.State
import TransactionalTest.ListenerConfig
import TransactionalTest.TestClass

/-!
# Writing values as JSON

The JSON form of settings, declarations and lifecycle events: a record is an object of its fields
in order, a choice is its name, a missing part is `null`.

* `Encode.intent`, `Encode.method`, `Encode.listenerConfig`, `Encode.event`, … — one function
  per type.
-/

namespace TransactionalTest

namespace Encode

/-- A part that may be missing. -/
def optional {τ : Type} (f : τ → Json) : Option τ → Json
  | some x => f x
  | none => .null

/-- A number. -/
def nat (n : Nat) : Json := .integer n

/-- The settings by the names of their fields. -/
def listenerConfig (c : ListenerConfig) : Json :=
  .object
    [("strict_manager_resolution", .bool c.strictManagerResolution),
      ("default_rollback", .bool c.defaultRollback),
      ("default_transaction_manager", .string c.defaultTransactionManager)]

/-- A propagation mode by its name. -/
def propagation (p : Propagation) : Json := .string p.text

/-- An isolation level by its name. -/
def isolation (i : Isolation) : Json := .string i.text

/-- A timeout as seconds and the nanoseconds beyond them. -/
def timeout (t : Timeout) : Json := .object [("secs", nat t.secs), ("nanos", nat t.nanos)]

/-- A transaction attribute; the timeout and the two names may be missing. -/
def intent (a : Attribute) : Json :=
  .object
    [("propagation", propagation a.propagation), ("isolation", isolation a.isolation),
      ("read_only", .bool a.readOnly), ("timeout", optional timeout a.timeout),
      ("qualifier", optional .string a.qualifier), ("name", optional .string a.name)]

/-- A signature: the name and the types of the parameters in order. -/
def signature (s : Signature) : Json :=
  .object [("name", .string s.name), ("parameter_types", .array (s.parameterTypes.map .string))]

/-- The phase of a hook by its name. -/
def hookPhase (p : HookPhase) : Json := .string p.text

/-- What a class declares about its transactions. -/
def classConfiguration (c : ClassConfiguration) : Json :=
  .object
    [("transaction_manager", .string c.transactionManager),
      ("default_rollback", .bool c.defaultRollback)]

/-- A method with what is declared on it. -/
def method (m : Method) : Json :=
  .object
    [("signature", signature m.signature), ("hook", optional hookPhase m.hook),
      ("transactional", optional intent m.transactional),
      ("rollback", optional .bool m.rollback)]

/-- A lifecycle state by its name. -/
def state (s : LifecycleState) : Json := .string s.text

/-- The tag of an event. -/
def tag : LifecycleEvent → String
  | .transactionRequested => "TransactionRequested"
  | .transactionStarted => "TransactionStarted"
  | .setupAborted _ => "SetupAborted"
  | .testFinished => "TestFinished"

/-- The tag of the event under `type` and, if it has one, its reason under `data`. -/
def event (e : LifecycleEvent) : Json :=
  let data := (e.abortReason?.map fun r => ("data", Json.string r)).toList
  .object (("type", .string (tag e)) :: data)

end Encode

end TransactionalTest
