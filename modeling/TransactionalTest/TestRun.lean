import TransactionalTest.World

/-!
# Test runs

One invocation of a test method: the class object, the bound method, the live test object that
hooks are called on, and the execution key.

* `HookBody`, `Subject` — what hooks do;
* `Bindings.subject` — a test object put together from hook bodies;
* `TestRun.bind` — the run of a named method.
-/

namespace TransactionalTest

variable {α : Type}

/-- The body of a hook: it may change the world in any way. -/
abbrev HookBody (α : Type) := World α → Except Failure Unit × World α

/-- A live test object: how it answers the call of a hook. -/
abbrev Subject (α : Type) := HookMethod → World α → Except HookError Unit × World α

/-- Hook bodies by declaring class and signature. -/
abbrev Bindings (α : Type) := Table (String × Signature) (HookBody α)

namespace Bindings

/-- The test object with these hook bodies; a hook without one is not invocable. -/
def subject (b : Bindings α) : Subject α := fun hook w =>
  match b.find? (hook.declaringClass, hook.signature) with
  | none => (.error (.notInvocable hook.display "no body bound on this test instance"), w)
  | some body =>
    match body w with
    | (.ok (), w) => (.ok (), w)
    | (.error failure, w) => (.error (.failed failure), w)

end Bindings

/-- One invocation of a test method. -/
structure TestRun (α : Type) where
  cls : TestClass
  method : Method
  subject : Subject α
  key : ExecutionKey

namespace TestRun

/-- The run of the first method of this name in the hierarchy. -/
def bind (cls : TestClass) (method : String) (subject : Subject α) (key : ExecutionKey) :
    Except LifecycleError (TestRun α) :=
  match cls.findMethod? method with
  | some m => .ok ⟨cls, m, subject, key⟩
  | none => .error (.illegalState (.unknownMethod method cls.name))

/-- The name of the test, which is also that of its transactions. -/
def name (t : TestRun α) : String := t.cls.name ++ "." ++ t.method.name

/-- The run in diagnostics. -/
def display (t : TestRun α) : String := t.name ++ " on " ++ t.key.display

/-- The run in inspection text. -/
def inspect (t : TestRun α) : String :=
  Inspect.record "TestContext"
    [("test_class", Inspect.quoted t.cls.name), ("test_method", t.method.signature.inspect),
      ("execution_key", t.key.inspect)]

/-- The transactional intent of the test. -/
def intent? (t : TestRun α) : Option Attribute := t.cls.intentOf? t.method

end TestRun

end TransactionalTest
