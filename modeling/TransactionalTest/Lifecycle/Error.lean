import TransactionalTest.Hook
import TransactionalTest.Lifecycle.State
import TransactionalTest.ListenerConfig
import TransactionalTest.Registry

/-!
# Lifecycle errors

What the lifecycle may answer, and which part of a test's life it comes from.

* `IllegalState` — the ways in which the lifecycle can be driven wrongly;
* `LifecycleError` — every error, with `message`, `chain` and `cause?`;
* `LifecycleError.phase`, `LifecycleError.isSetupFailure` — whether the test body ran;
* `LifecycleState.step`, `LifecycleState.follow` — the transition table with its error.
-/

namespace TransactionalTest

/-- A wrong use of the lifecycle. -/
inductive IllegalState where
  /-- A test starts on a key that still has one. -/
  | busy (test : String)
  /-- A context starts a transaction and still has one. -/
  | alreadyStarted
  /-- A context ends a transaction and has none. -/
  | nothingToEnd
  /-- The rollback flag is set and no transaction is active. -/
  | flagWithoutTransaction
  /-- A transaction is steered on a key that has none. -/
  | unmanaged (key : String)
  /-- A context is published on a key that has one. -/
  | slotTaken (key : String)
  /-- The key was taken by another context while the test was set up. -/
  | slotTakenDuringSetUp (key test : String)
  /-- The test names a method that its class does not have. -/
  | unknownMethod (method className : String)
  /-- The event is not legal in this state. -/
  | badTransition (state : LifecycleState) (event : LifecycleEvent)
  | other (text : String)
  deriving DecidableEq, Repr

/-- The text of the fault. -/
def IllegalState.message : IllegalState → String
  | busy test =>
    "Cannot start a new transaction without ending the existing transaction first (" ++ test ++ ")"
  | alreadyStarted =>
    "Cannot start a new transaction without ending the existing transaction first."
  | nothingToEnd =>
    "Failed to end transaction: no transaction is associated with this context"
  | flagWithoutTransaction =>
    "The transaction flag cannot be changed: no transaction is active"
  | unmanaged key => "No transaction is managed by the test lifecycle for " ++ key
  | slotTaken key => "A transaction context is already published for " ++ key
  | slotTakenDuringSetUp key test =>
    "A transaction context was published for " ++ key ++ " while " ++ test ++ " was starting"
  | unknownMethod method className =>
    "Test method " ++ method ++ " is not declared on " ++ className ++ " or its ancestors"
  | badTransition state event =>
    "Invalid lifecycle transition from " ++ state.text ++ " on " ++ event.kind
  | other text => text

/-- What the lifecycle may answer instead of success. -/
inductive LifecycleError where
  | illegalState (fault : IllegalState)
  | managerLookup (source : LookupError)
  | managerNotFound (test : String)
  | beforeHook (hook : String) (source : Failure)
  | hookInvocation (hook reason : String)
  | transactionStart (test : String) (source : TransactionError)
  | transactionEnd (test : String) (source : TransactionError)
  | afterHook (hook : String) (source : Failure)
  | configuration (source : ConfigurationError)
  deriving DecidableEq, Repr

/-- The part of a test's life that an error comes from. -/
inductive FailurePhase where
  /-- Manager resolution or settings; nothing ran yet. -/
  | configuration
  /-- Before-hooks or the start of the transaction; the test body never ran. -/
  | setup
  /-- The end of the transaction or after-hooks; the test body did run. -/
  | teardown
  /-- A wrong use of the lifecycle. -/
  | invariant
  deriving DecidableEq, Repr

/-- The name of the phase. -/
def FailurePhase.text : FailurePhase → String
  | configuration => "configuration"
  | setup => "setup"
  | teardown => "teardown"
  | invariant => "invariant"

namespace LifecycleError

/-- The text of the error. -/
def message : LifecycleError → String
  | illegalState fault => "Illegal state: " ++ fault.message
  | managerLookup source => "Transaction manager lookup failed: " ++ source.message
  | managerNotFound test => "No transaction manager could be resolved for " ++ test
  | beforeHook hook source => "Before-transaction hook " ++ hook ++ " failed: " ++ source.message
  | hookInvocation hook reason => "Hook " ++ hook ++ " could not be invoked: " ++ reason
  | transactionStart test source =>
    "Failed to start transaction for " ++ test ++ ": " ++ source.message
  | transactionEnd test source =>
    "Failed to end transaction for " ++ test ++ ": " ++ source.message
  | afterHook hook source => "After-transaction hook " ++ hook ++ " failed: " ++ source.message
  | configuration source => "Configuration error: " ++ source.message

/-- The texts of the errors behind this one, outermost first. -/
def chain : LifecycleError → List String
  | illegalState _ | managerNotFound _ | hookInvocation _ _ => []
  | managerLookup source => [source.message]
  | beforeHook _ source | afterHook _ source => source.chain
  | transactionStart _ source | transactionEnd _ source => [source.message]
  | configuration source => [source.message]

/-- The hook's own failure, if the error is that of a hook. -/
def cause? : LifecycleError → Option Failure
  | beforeHook _ source | afterHook _ source => some source
  | _ => none

/-- The part of a test's life that the error comes from. -/
def phase : LifecycleError → FailurePhase
  | illegalState _ => .invariant
  | managerLookup _ | managerNotFound _ | configuration _ => .configuration
  | beforeHook _ _ | transactionStart _ _ | hookInvocation _ _ => .setup
  | transactionEnd _ _ | afterHook _ _ => .teardown

/-- The failure happened before the test body could run. -/
def isSetupFailure (e : LifecycleError) : Bool := e.phase != .teardown

/-- The error as a failure of user code that passes it on. -/
def toFailure (e : LifecycleError) : Failure := ⟨e.message, e.chain⟩

end LifecycleError

/-! ### Following events -/

namespace LifecycleState

/-- The state after an event, which must be legal in this state. -/
def step (s : LifecycleState) (event : LifecycleEvent) : Except LifecycleError LifecycleState :=
  match s.next? event with
  | some t => .ok t
  | none => .error (.illegalState (.badTransition s event))

/-- What each event leads to, and the state at the end; an event that is not legal keeps the
state. -/
def follow (s : LifecycleState) :
    List LifecycleEvent → List (Except LifecycleError LifecycleState) × LifecycleState
  | [] => ([], s)
  | event :: events =>
    let r := s.step event
    let (rs, last) := follow (match r with | .ok t => t | .error _ => s) events
    (r :: rs, last)

end LifecycleState

end TransactionalTest
