import TransactionalTest.ConfigurationResolver
import TransactionalTest.Context
import TransactionalTest.HookRunner
import TransactionalTest.Lookup

/-!
# The lifecycle controller

Wraps one test method in an optional transaction.

* `Controller.beforeTest` — resolves the test's intent and its manager, runs the before-hooks,
  begins the transaction and publishes its context;
* `Controller.afterTest` — takes the context, ends the transaction, runs the after-hooks;
* `Controller.isRollback` — the rollback flag of a test.

A test without transactional intent, or with one that opts out, is left alone, hooks included.
-/

namespace TransactionalTest

/-- The rollback flag: a method's own beats the default of its class. -/
def decideRollback (default : Bool) (override : Option Bool) : Bool := override.getD default

/-- A lifecycle controller: who it is and its settings. -/
structure Controller where
  id : OwnerId
  config : ListenerConfig
  deriving DecidableEq, Repr

namespace Controller

variable {α : Type}

/-- The controller's resolver of class configurations. -/
def resolver (c : Controller) : ConfigurationResolver := ⟨c.id, c.config.fallback⟩

/-- The controller's hook runner. -/
def runner (c : Controller) : HookRunner := ⟨c.id⟩

/-- A controller that has just been set up. -/
def create (id : OwnerId) (config : ListenerConfig) (w : World α) : Controller × World α :=
  (⟨id, config⟩, w.report (.controllerCreated config))

/-- The state of a key; `idle` when nothing is known about it. -/
def state (c : Controller) (key : ExecutionKey) (w : World α) : LifecycleState :=
  (w.states.find? (c.id, key)).getD .idle

/-- Remember the state of a key; only states other than `idle` are kept. -/
def setState (c : Controller) (key : ExecutionKey) (s : LifecycleState) (w : World α) : World α :=
  if s = .idle then { w with states := w.states.erase (c.id, key) }
  else { w with states := w.states.insert (c.id, key) s }

@[simp] theorem state_setState_self (c : Controller) (key : ExecutionKey) (s : LifecycleState)
    (w : World α) : c.state key (c.setState key s w) = s := by
  by_cases h : s = .idle
  · simp [state, setState, h]
  · simp [state, setState, h]

theorem state_setState_of_ne {c : Controller} {j key : ExecutionKey} (h : j ≠ key)
    (s : LifecycleState) (w : World α) : c.state j (c.setState key s w) = c.state j w := by
  have hk : (c.id, j) ≠ (c.id, key) := fun e => h (Prod.mk.inj e).2
  by_cases hs : s = .idle
  · simp [state, setState, hs, Table.find?_erase_of_ne hk]
  · simp [state, setState, hs, Table.find?_insert_of_ne hk]

/-- Move a key on, if the event is legal in its state. -/
def transition (c : Controller) (key : ExecutionKey) (event : LifecycleEvent) (w : World α) :
    Except LifecycleError LifecycleState × World α :=
  let source := c.state key w
  match source.step event with
  | .error e => (.error e, w)
  | .ok target =>
    (.ok target, c.setState key target (w.report (.transition key.display source event target)))

/-! ### Settings of a test -/

/-- The configuration in force for a class. -/
def configurationAttributes (c : Controller) (cls : TestClass) (w : World α) :
    ConfigurationAttributes × World α :=
  c.resolver.resolve cls w

/-- The default rollback flag of a test's class. -/
def isDefaultRollback (c : Controller) (t : TestRun α) (w : World α) : Bool × World α :=
  let (a, w) := c.configurationAttributes t.cls w
  (a.defaultRollback, w)

/-- The rollback flag of a test. -/
def isRollback (c : Controller) (t : TestRun α) (w : World α) : Bool × World α :=
  let (default, w) := c.isDefaultRollback t w
  let override := t.cls.rollbackOf? t.method
  (decideRollback default override, w.report (match override with
    | some rollback => .rollbackOverridden rollback default t.name
    | none => .rollbackDefaulted default t.name))

/-- The manager of a test: by qualifier, else by the name configured for its class. -/
def transactionManager (c : Controller) (t : TestRun α) (qualifier : Option String)
    (w : World α) : Except LookupError (Option Manager) × World α :=
  let (a, w) := c.configurationAttributes t.cls w
  w.lookup c.config.strictManagerResolution t.name qualifier a.managerName

/-! ### Before the test -/

/-- Run the before-hooks and begin the transaction. -/
def openTransaction (c : Controller) (t : TestRun α) (m : Manager) (a : Attribute)
    (w : World α) : Except LifecycleError Context × World α :=
  match c.runner.runBefore t w with
  | (.error e, w) => (.error e, w)
  | (.ok (), w) =>
    let (rollback, w) := c.isRollback t w
    let context : Context :=
      { testName := t.name, manager := m, intent := a, flaggedForRollback := rollback }
    match context.start w with
    | (.error e, _, w) => (.error e, w)
    | (.ok (), context, w) => (.ok context, w)

/-- Roll back the transaction of a context that found its slot taken. -/
def rollBackUnpublished (context : Context) (w : World α) : World α :=
  if context.isActive w then
    match Context.finish { context with flaggedForRollback := true } w with
    | (.ok (), _, w) => w
    | (.error e, _, w) =>
      w.report (.failure "lifecycle_controller" Operation.beforeTest e.message
        (some ("rolling back unpublished transaction for " ++ context.testName)))
  else w

/-- Publish a started context.  If another one took the slot meanwhile, the transaction is
rolled back. -/
def publish (key : ExecutionKey) (context : Context) (w : World α) :
    Except LifecycleError Unit × World α :=
  match w.tryPublish key context with
  | (none, w) => (.ok (), w)
  | (some rejected, w) =>
    (.error (.illegalState (.slotTakenDuringSetUp key.display rejected.testName)),
      rollBackUnpublished rejected w)

/-- Open a test's transaction and publish its context. -/
def setUp (c : Controller) (t : TestRun α) (m : Manager) (a : Attribute) (w : World α) :
    Except LifecycleError Unit × World α :=
  match c.openTransaction t m a w with
  | (.error e, w) => (.error e, w)
  | (.ok context, w) => publish t.key context w

/-- Set a test up between the two transitions around it. -/
def enter (c : Controller) (t : TestRun α) (m : Manager) (a : Attribute) (w : World α) :
    Except LifecycleError Unit × World α :=
  match c.transition t.key .transactionRequested w with
  | (.error e, w) => (.error e, w)
  | (.ok _, w) =>
    match c.setUp t m a w with
    | (.ok (), w) =>
      match c.transition t.key .transactionStarted w with
      | (.ok _, w) => (.ok (), w)
      | (.error e, w) => (.error e, w)
    | (.error e, w) =>
      match c.transition t.key (.setupAborted e.message) w with
      | (.ok _, w) => (.error e, w)
      | (.error e, w) => (.error e, w)

/-- The key still has a test: a context is published or a state other than `idle` is known. -/
def isBusy (c : Controller) (key : ExecutionKey) (w : World α) : Bool :=
  (w.context? key).isSome || c.state key w != .idle

/-- Open the transaction of a test, if the test asks for one. -/
def beforeTest (c : Controller) (t : TestRun α) (w : World α) :
    Except LifecycleError Unit × World α :=
  let w := w.report (.phaseEntered Operation.beforeTest t.name t.key.display)
  if c.isBusy t.key w then (.error (.illegalState (.busy t.display)), w)
  else match t.intent? with
    | none => (.ok (), w.report (.noIntent t.name))
    | some a =>
      let w := w.report (.intentFound a t.name)
      if a.propagation.optsOut then
        (.ok (), w.report (.transaction Operation.transactionSkipped t.name none none
          (some "propagation NOT_SUPPORTED")))
      else match c.transactionManager t a.qualifierText w with
        | (.error e, w) => (.error (.managerLookup e), w)
        | (.ok none, w) =>
          if c.config.strictManagerResolution then (.error (.managerNotFound t.name), w)
          else (.ok (), w.report (.managerMissing t.name))
        | (.ok (some m), w) => c.enter t m a w

/-! ### After the test -/

/-- End the transaction of a context that was taken, unless the test body has ended it. -/
def finishTaken (t : TestRun α) (context : Context) (w : World α) :
    Except LifecycleError Unit × World α :=
  if context.isActive w then
    let (r, _, w) := context.finish w
    (r, w)
  else (.ok (), w.report (.transactionGone t.name))

/-- The answer of the after-test phase: a failed hook comes before a failed end, which is then
reported. -/
def settle (t : TestRun α) (ended hooks finished : Except LifecycleError Unit) (w : World α) :
    Except LifecycleError Unit × World α :=
  match ended, hooks with
  | .error e, .error h =>
    (.error h, w.report (.failure "lifecycle_controller" Operation.afterTest e.message
      (some ("superseded by after-transaction hook failure in " ++ t.name))))
  | .ok (), .error h => (.error h, w)
  | .error e, .ok () => (.error e, w)
  | .ok (), .ok () => (finished, w)

/-- Take the context of a test, end its transaction and run the after-hooks. -/
def afterTest (c : Controller) (t : TestRun α) (w : World α) :
    Except LifecycleError Unit × World α :=
  let w := w.report (.phaseEntered Operation.afterTest t.name t.key.display)
  match w.take t.key with
  | (none, w) => (.ok (), c.setState t.key .idle w)
  | (some context, w) =>
    let (ended, w) := finishTaken t context w
    let (hooks, w) := c.runner.runAfter t w
    let (finished, w) := c.transition t.key .testFinished w
    settle t ended hooks (finished.map fun _ => ()) w

/-- The controller in inspection text. -/
def inspect (c : Controller) (w : World α) : String :=
  Inspect.record "TransactionLifecycleController"
    [("configuration", c.resolver.inspect w),
      ("lookup", Inspect.record "TransactionManagerLookup"
        [("container", Inspect.quoted "ManagerContainer"),
          ("strict", Inspect.flag c.config.strictManagerResolution)]),
      ("hooks", c.runner.inspect w), ("live_contexts", toString w.live),
      ("config", c.config.inspect)]

end Controller

end TransactionalTest
