import TransactionalTest.TestRun

/-!
# Running hooks

Hooks around the transaction boundary of a test.

* `HookRunner.hooksFor` — the hooks of a class, found once per class object and phase;
* `HookRunner.runBefore` — ancestors first, stopping at the first failure;
* `HookRunner.runAfter` — subclass first, all of them, reporting the first failure.
-/

namespace TransactionalTest

/-- Runs hooks and remembers which hooks a class has. -/
structure HookRunner where
  owner : OwnerId
  deriving DecidableEq, Repr

namespace HookRunner

variable {α : Type}

/-- The hooks of a phase in discovery order, remembered from the first time on. -/
def hooksFor (r : HookRunner) (c : TestClass) (phase : HookPhase) (w : World α) :
    List HookMethod × World α :=
  match w.hookCache.find? (r.owner, c, phase) with
  | some hooks => (hooks, w)
  | none =>
    let hooks := c.discover phase
    let w := w.report (.hooksDiscovered hooks.length phase c.name)
    (hooks, { w with hookCache := w.hookCache.insert (r.owner, c, phase) hooks })

/-- Call a hook on the test object, with reports of the call and of its failure. -/
def call (operation : String) (t : TestRun α) (hook : HookMethod) (w : World α) :
    Except HookError Unit × World α :=
  let w := w.report (.hook operation t.name hook.display)
  let (r, w) := t.subject hook w
  let w := w.record (.invoked t.key hook r)
  match r with
  | .ok () => (.ok (), w)
  | .error e =>
    (.error e, w.report (.failure "hook_runner" operation e.message
      (some (hook.display ++ " for " ++ t.name))))

/-- A failed call of a before-hook. -/
def beforeError (hook : HookMethod) : HookError → LifecycleError
  | .failed failure => .beforeHook hook.display failure
  | .notInvocable name reason => .hookInvocation name reason

/-- Call before-hooks in this order up to the first failure. -/
def callUntilFailure (t : TestRun α) :
    List HookMethod → World α → Except LifecycleError Unit × World α
  | [], w => (.ok (), w)
  | hook :: hooks, w =>
    match call Operation.beforeTransactionHook t hook w with
    | (.ok (), w) => callUntilFailure t hooks w
    | (.error e, w) => (.error (beforeError hook e), w)

/-- Call every after-hook in this order; the answer is the first failure. -/
def callAll (t : TestRun α) :
    List HookMethod → World α → Except LifecycleError Unit × World α
  | [], w => (.ok (), w)
  | hook :: hooks, w =>
    match call Operation.afterTransactionHook t hook w with
    | (.ok (), w) => callAll t hooks w
    | (.error e, w) => (.error (.afterHook hook.display e.toFailure), (callAll t hooks w).2)

/-- Run the before-hooks of a test, ancestors first. -/
def runBefore (r : HookRunner) (t : TestRun α) (w : World α) :
    Except LifecycleError Unit × World α :=
  let (hooks, w) := r.hooksFor t.cls .beforeTransaction w
  callUntilFailure t hooks.reverse w

/-- Run the after-hooks of a test, subclass first. -/
def runAfter (r : HookRunner) (t : TestRun α) (w : World α) :
    Except LifecycleError Unit × World α :=
  let (hooks, w) := r.hooksFor t.cls .afterTransaction w
  callAll t hooks w

/-- How many class-and-phase pairs are remembered. -/
def cachedCount (r : HookRunner) (w : World α) : Nat :=
  w.hookCache.countP fun e => e.1.1 == r.owner

/-- The runner in inspection text. -/
def inspect (r : HookRunner) (w : World α) : String :=
  let entries := (w.hookCache.filter fun e => e.1.1 == r.owner).map fun e =>
    (Inspect.pair ("ClassKey(" ++ e.1.2.1.name ++ "@<ptr>)") e.1.2.2.inspect,
      Inspect.list (e.2.map HookMethod.inspect))
  Inspect.record "HookRunner" [("discovered", Inspect.table entries)]

end HookRunner

end TransactionalTest
