import TransactionalTest.Controller
import TransactionalTest.InTest
import TransactionalTest.Text.Order

/-!
# Scenario scripts

A scenario as data: managers, classes, test objects and the steps to take with them.

* `Request`, `Step` — what a step asks for;
* `Action`, `Binding` — what the hooks of a test object do, which may be steps again;
* `Script` — the whole scenario.

Managers, classes, test objects, tests and contexts go by the names that the script gives them.
-/

namespace TransactionalTest

namespace Scenario

/-! ### Steps -/

/-- What to do with the transaction of a running test. -/
inductive InTestCall where
  | isActive
  | isFlaggedForRollback
  | flagForRollback
  | flagForCommit
  | finish
  | start
  deriving DecidableEq, Repr

/-- Which method of a class is meant. -/
inductive MethodRef where
  /-- The one that the name is bound to. -/
  | named (method : String)
  /-- The one at this place among the methods that a class itself declares. -/
  | declared (className : String) (index : Nat)
  deriving DecidableEq, Repr

/-- What a step asks for. -/
inductive Request where
  /- the registry -/
  | register (name manager : String) (qualifiers : List String) (primary : Bool)
  | addSelector (manager : String)
  | registry
  | byQualifier (qualifier : String)
  | byName (name : String)
  | lookup (strict : Bool) (test : String) (qualifier : Option String) (name : String)
  /- classes -/
  | describeClass (className : String)
  | compareClasses (a b : String)
  | findMethod (className method : String)
  | metadata (className : String) (method : MethodRef)
  | discover (className : String) (phase : HookPhase)
  | hooksFor (className : String) (phase : HookPhase)
  | runHooks (test : String) (phase : HookPhase)
  | configuration (className : String)
  /- tests -/
  | newTest (id className method : String) (subject key : Option String)
  | before (test : String)
  | after (test : String)
  | state (key : String)
  | rollback (test : String)
  | transactionManager (test : String) (qualifier : Option String)
  | classConfiguration (className : String)
  | controller
  | inTest (key : Option String) (call : InTestCall)
  /- managers -/
  | write (key manager k v : String)
  | begin (manager : String) (intent : Attribute)
  | finish (manager : String) (tx : Nat) (rollback : Bool)
  | isCompleted (manager : String) (tx : Nat)
  | stage (manager : String) (tx : Nat) (k v : String)
  | committed (manager k : String)
  | openCount (manager : String)
  | failNextBegin (manager reason : String)
  | failNextFinish (manager reason : String)
  /- contexts -/
  | context (id testName manager : String) (intent : Attribute) (rollback : Bool)
  | contextStart (id : String)
  | contextFinish (id : String)
  | contextFlag (id : String) (rollback : Bool)
  | contextInfo (id : String)
  | publish (id key : String)
  | tryPublish (id key : String)
  | take (key id : String)
  | current (key : Option String)
  | holder (key : Option String)
  deriving DecidableEq, Repr

namespace Request

/-- The key that the request names. -/
def key? : Request → Option String
  | newTest _ _ _ _ key | inTest key _ | current key | holder key => key
  | state key | write key _ _ _ | publish _ key | tryPublish _ key | take key _ => some key
  | _ => none

/-- The test that the request names. -/
def test? : Request → Option String
  | runHooks test _ | before test | after test | rollback test
  | transactionManager test _ => some test
  | _ => none

end Request

/-- A step: a request to one of the controllers, or steps to take on a thread of their own. -/
inductive Step where
  | ask (controller : Nat) (request : Request)
  | thread (steps : List Step)

/-! ### Test objects -/

/-- What the body of a hook does. -/
inductive Action where
  /-- Append to the call log. -/
  | note (text : String)
  /-- End the body as failed. -/
  | fail (failure : Failure)
  /-- Take a step; when `propagate` is set, its error is the failure of the body. -/
  | step (step : Step) (propagate : Bool)

/-- How a test object answers the call of a hook. -/
inductive Answer where
  | body (actions : List Action)
  | notInvocable (hook reason : String)

/-- The answer to one hook, by declaring class and signature. -/
structure Binding where
  className : String
  signature : Signature
  answer : Answer

/-- A test object: a later binding of a hook replaces an earlier one. -/
abbrev SubjectScript := List Binding

namespace SubjectScript

/-- The bodies that are bound. -/
def bodies (s : SubjectScript) : Table (String × Signature) (List Action) :=
  s.foldl (fun t b => match b.answer with
    | .body actions => t.insert (b.className, b.signature) actions
    | .notInvocable _ _ => t) []

/-- The hooks that cannot be called, with the texts that say so. -/
def refusals (s : SubjectScript) : Table (String × Signature) (String × String) :=
  s.foldl (fun t b => match b.answer with
    | .body _ => t
    | .notInvocable hook reason => t.insert (b.className, b.signature) (hook, reason)) []

/-- The test object in inspection text: the hooks with a body, in order of their texts. -/
def inspect (s : SubjectScript) : String :=
  let names := s.bodies.map fun e => e.1.1 ++ "::" ++ e.1.2.display
  Inspect.record "FnTestInstance"
    [("hooks", Inspect.texts (names.mergeSort TextOrder.le))]

end SubjectScript

/-! ### The scenario -/

/-- A scenario. -/
structure Script where
  managers : Table String Manager := []
  classes : Table String TestClass := []
  subjects : Table String SubjectScript := []
  controllers : List ListenerConfig := [{}]
  steps : List Step := []

namespace Script

/-- The controller of this index. -/
def controller? (s : Script) (i : Nat) : Option Controller :=
  (s.controllers[i]?).map fun config => ⟨i, config⟩

/-- The hook runner that belongs to no controller. -/
def runner (s : Script) : HookRunner := ⟨s.controllers.length⟩

/-- The resolver of class configurations that belongs to no controller; it falls back on the
settings of the first one. -/
def resolver (s : Script) : ConfigurationResolver :=
  ⟨s.controllers.length, (s.controllers.headD {}).fallback⟩

end Script

end Scenario

end TransactionalTest
