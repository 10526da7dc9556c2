import TransactionalTest.Scenario.Script

/-!
# Replies

What the steps of a scenario answer.

* `ContextView` — a context as its owner sees it;
* `Reply` — the answer to a step;
* `Reply.failure?` — the error in an answer, as the failure of a hook body that passes it on.
-/

namespace TransactionalTest

namespace Scenario

/-- A context and whether its transaction is active. -/
structure ContextView where
  context : Context
  active : Bool
  deriving DecidableEq, Repr

/-- What is declared for a method, and what follows from it. -/
structure MetadataView where
  signature : Signature
  intent : Option Attribute
  rollback : Option Bool
  configuration : Option ClassConfiguration
  resolved : Option Attribute
  deriving DecidableEq, Repr

/-- A test that has been bound. -/
structure TestView where
  name : String
  display : String
  inspection : String
  method : Method
  className : String
  subject : String
  deriving DecidableEq, Repr

/-- The answer to a step. -/
inductive Reply where
  /-- Success, and nothing to say. -/
  | done
  | nothing
  | flag (b : Bool)
  | number (n : Nat)
  | text (s : String)
  | registered (size : Nat) (inspection : String)
  | registry (size : Nat) (isEmpty : Bool) (inspection : String)
  | lookedUp (manager : Option Manager) (strict : Bool) (inspection : String)
  | describedClass (c : TestClass)
  | comparedClasses (sameObject sameContents : Bool)
  | method (m : Method)
  | metadata (view : MetadataView) (inspection : String)
  | hooks (hooks : List HookMethod)
  | cachedHooks (hooks : List HookMethod) (cached : Nat)
  | hooksRun (cached : Nat)
  | configuration (attributes : ConfigurationAttributes) (cached : Nat) (inspection : String)
  | attributes (attributes : ConfigurationAttributes)
  | test (view : TestView)
  | state (s : LifecycleState)
  | rollback (default effective : Bool)
  | controller (config : ListenerConfig) (live : Nat) (inspection : String)
  | status (s : Status)
  | context (view : ContextView)
  | published
  | rejected (view : ContextView)
  | slot (size : Nat) (isEmpty contains : Bool)
  | several (replies : List Reply)
  | failed (e : LifecycleError)
  | lookupFailed (e : LookupError)
  | transactionFailed (e : TransactionError)
  /-- The step needs a transaction handle and there is none. -/
  | noHandle
  /-- The step names something that the script does not have. -/
  | unknown (name : String)
  /-- Hook bodies nest too deeply. -/
  | tooDeep

namespace Reply

/-- The error in an answer, as the failure of a hook body that passes it on. -/
def failure? : Reply → Option Failure
  | failed e => some e.toFailure
  | lookupFailed e => some ⟨e.message, []⟩
  | transactionFailed e => some ⟨e.message, []⟩
  | noHandle => some ⟨"NoHandle", []⟩
  | _ => none

/-- Success without a value, or the error. -/
def ofUnit : Except LifecycleError Unit → Reply
  | .ok () => done
  | .error e => failed e

/-- A truth value, or the error. -/
def ofFlag : Except LifecycleError Bool → Reply
  | .ok b => flag b
  | .error e => failed e

/-- What a manager answers to a request without a result. -/
def ofRequest : Except TransactionError Unit → Reply
  | .ok () => done
  | .error e => transactionFailed e

/-- A value that may be missing. -/
def ofOption {ρ : Type} (f : ρ → Reply) : Option ρ → Reply
  | some x => f x
  | none => nothing

/-- The name of a manager, if there is one. -/
def ofManager (m : Option Manager) : Reply := ofOption (fun m => text m.name) m

end Reply

end Scenario

end TransactionalTest
