/-!
# Lifecycle states

Where one execution key stands between two tests, and which events move it on.

* `LifecycleState`, `LifecycleEvent` — the states and events;
* `LifecycleState.next?` — the transition table.
-/

namespace TransactionalTest

/-- Where an execution key stands. -/
inductive LifecycleState where
  /-- No transaction is open and none is being prepared. -/
  | idle
  /-- The manager is resolved and the before-hooks run; nothing has begun. -/
  | pending
  /-- The transaction is open and published for the test body. -/
  | active
  deriving DecidableEq, Repr, Inhabited

namespace LifecycleState

/-- Every state. -/
def all : List LifecycleState := [idle, pending, active]

/-- The name of the state. -/
def text : LifecycleState → String
  | idle => "idle"
  | pending => "tx_pending"
  | active => "tx_active"

/-- The state of this name. -/
def ofText? (s : String) : Option LifecycleState := all.find? fun x => x.text == s

@[simp] theorem ofText?_text (x : LifecycleState) : ofText? x.text = some x := by
  cases x <;> decide

/-- The text for a name that no state has. -/
def unknownMessage (s : String) : String := "Invalid lifecycle state: " ++ s

/-- A transaction context is published in this state. -/
def hasTransaction (x : LifecycleState) : Bool := x == active

/-- The before-test phase may start in this state. -/
def acceptsNewTest (x : LifecycleState) : Bool := x == idle

end LifecycleState

/-- What moves an execution key on. -/
inductive LifecycleEvent where
  /-- A manager was found for a transactional test. -/
  | transactionRequested
  /-- The before-hooks passed and the transaction is open. -/
  | transactionStarted
  /-- A before-hook or the start of the transaction failed. -/
  | setupAborted (reason : String)
  /-- The after-test phase took the context. -/
  | testFinished
  deriving DecidableEq, Repr, Inhabited

namespace LifecycleEvent

/-- The name of the kind of event. -/
def kind : LifecycleEvent → String
  | transactionRequested => "transaction_requested"
  | transactionStarted => "transaction_started"
  | setupAborted _ => "setup_aborted"
  | testFinished => "test_finished"

/-- Why the set-up was aborted. -/
def abortReason? : LifecycleEvent → Option String
  | setupAborted reason => some reason
  | _ => none

end LifecycleEvent

namespace LifecycleState

/-- The state after an event, if the event is legal in this state.  A test may finish from
`idle`: its context can be gone by then. -/
def next? : LifecycleState → LifecycleEvent → Option LifecycleState
  | idle, .transactionRequested => some pending
  | pending, .transactionStarted => some active
  | pending, .setupAborted _ => some idle
  | active, .testFinished => some idle
  | idle, .testFinished => some idle
  | _, _ => none

end LifecycleState

end TransactionalTest
