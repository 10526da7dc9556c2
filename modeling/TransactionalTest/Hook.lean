import TransactionalTest.TestClass

/-!
# Transaction hooks

Which methods of a class hierarchy run around its transactions, and how a run of one can fail.

* `HookMethod` — a hook and the level that declares it;
* `TestClass.discover` — the hooks of a phase, nearest declaration of each signature first;
* `Failure`, `HookError` — how a hook fails.
-/

namespace TransactionalTest

/-- A hook: the name of the level that declares it, its signature, its phase. -/
structure HookMethod where
  declaringClass : String
  signature : Signature
  phase : HookPhase
  deriving DecidableEq, Repr, Inhabited

namespace HookMethod

/-- The hook in diagnostics. -/
def display (h : HookMethod) : String := h.declaringClass ++ "::" ++ h.signature.display

/-- The hook in inspection text. -/
def inspect (h : HookMethod) : String :=
  Inspect.record "HookMethod"
    [("declaring_class", Inspect.quoted h.declaringClass), ("signature", h.signature.inspect),
      ("phase", h.phase.inspect)]

end HookMethod

/-! ### Discovery -/

namespace Level

/-- The hooks of a phase that a level declares, in declaration order. -/
def hooks (l : Level) (phase : HookPhase) : List HookMethod :=
  (l.methods.filter fun m => m.hook == some phase).map fun m => ⟨l.name, m.signature, phase⟩

end Level

namespace TestClass

/-- Keep the first hook of each signature. -/
def keepFirst (seen : List HookMethod) : List HookMethod → List HookMethod
  | [] => []
  | h :: hs =>
    if seen.any fun s => h.signature.isShadowedBy s.signature then keepFirst seen hs
    else h :: keepFirst (seen ++ [h]) hs

/-- The hooks of a phase, most derived level first and in declaration order within a level; a
hook whose signature has already occurred is left out. -/
def discover (c : TestClass) (phase : HookPhase) : List HookMethod :=
  keepFirst [] (c.hierarchy.flatMap (·.hooks phase))

end TestClass

/-! ### Failures -/

/-- A failure raised by user code: its text and the texts of the failures behind it, outermost
first. -/
structure Failure where
  message : String
  causes : List String := []
  deriving DecidableEq, Repr, Inhabited

namespace Failure

/-- The failure under a new text. -/
def withContext (f : Failure) (context : String) : Failure := ⟨context, f.message :: f.causes⟩

/-- Its text and those behind it. -/
def chain (f : Failure) : List String := f.message :: f.causes

end Failure

/-- Why a hook did not succeed. -/
inductive HookError where
  /-- The body ran and failed. -/
  | failed (failure : Failure)
  /-- The hook could not be called at all. -/
  | notInvocable (hook reason : String)
  deriving DecidableEq, Repr

namespace HookError

/-- The text of the error. -/
def message : HookError → String
  | failed f => f.message
  | notInvocable hook reason => "hook " ++ hook ++ " is not invocable: " ++ reason

/-- The error as a failure: the body's own when the body ran. -/
def toFailure : HookError → Failure
  | failed f => f
  | e@(notInvocable _ _) => ⟨e.message, []⟩

end HookError

end TransactionalTest
