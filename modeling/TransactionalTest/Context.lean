import TransactionalTest.World

/-!
# Transaction contexts

A context opens and ends transactions for one test, one at a time, and is published under the
test's execution key while the test runs.

* `Context.isActive`, `Context.start`, `Context.finish` — its own transaction;
* `World.tryPublish`, `World.publish`, `World.take` — the slot of a key;
* `World.withCurrent` — work on the published context in place.
-/

namespace TransactionalTest

variable {α : Type}

namespace Context

/-- The context has a handle and the manager has not completed it. -/
def isActive (c : Context) (w : World α) : Bool :=
  match c.status with
  | some status => !(w.store c.manager).isCompleted status
  | none => false

/-- Report a successful start or end of the context's transaction. -/
def reportOperation (c : Context) (operation : String) (status : Status) (w : World α) :
    World α :=
  w.report (.transaction operation c.testName (some c.manager.name) (some c.flaggedForRollback)
    (some status.display))

/-- Open a transaction with the context's attribute. -/
def start (c : Context) (w : World α) : Except LifecycleError Unit × Context × World α :=
  match c.status with
  | some _ => (.error (.illegalState .alreadyStarted), c, w)
  | none =>
    match w.begin c.manager c.intent with
    | (.error e, w) => (.error (.transactionStart c.testName e), c, w)
    | (.ok status, w) =>
      (.ok (), { c with status := some status, starts := c.starts + 1 },
        c.reportOperation Operation.transactionStarted status w)

/-- End the transaction as the rollback flag says.  The handle is given up even when the manager
fails to end it. -/
def finish (c : Context) (w : World α) : Except LifecycleError Unit × Context × World α :=
  match c.status with
  | none => (.error (.illegalState .nothingToEnd), c, w)
  | some status =>
    let released := { c with status := none }
    let w := w.report (.transactionEnding status c.testName c.flaggedForRollback)
    match w.finish c.manager status c.flaggedForRollback with
    | (.error e, w) => (.error (.transactionEnd c.testName e), released, w)
    | (.ok (), w) =>
      (.ok (), released, c.reportOperation
        (if c.flaggedForRollback then Operation.transactionRolledBack
          else Operation.transactionCommitted) status w)

end Context

/-! ### Slots -/

namespace World

/-- Publish a context in an empty slot; an occupied slot hands the context back. -/
def tryPublish (key : ExecutionKey) (c : Context) (w : World α) : Option Context × World α :=
  match w.context? key with
  | some _ => (some c, w)
  | none => (none, { w with contexts := w.contexts.insert key c })

/-- Publish a context in a slot that must be empty. -/
def publish (key : ExecutionKey) (c : Context) (w : World α) :
    Except LifecycleError Unit × World α :=
  match w.tryPublish key c with
  | (none, w) => (.ok (), w)
  | (some _, w) => (.error (.illegalState (.slotTaken key.display)), w)

/-- Take the context out of a slot. -/
def take (key : ExecutionKey) (w : World α) : Option Context × World α :=
  (w.context? key, { w with contexts := w.contexts.erase key })

@[simp] theorem context?_take_self (key : ExecutionKey) (w : World α) :
    (w.take key).2.context? key = none :=
  Table.find?_erase_self key w.contexts

theorem context?_take_of_ne {j key : ExecutionKey} (h : j ≠ key) (w : World α) :
    (w.take key).2.context? j = w.context? j :=
  Table.find?_erase_of_ne h w.contexts

/-- Work on the context in a slot and put the changed one in its place. -/
def withCurrent {ρ : Type} (key : ExecutionKey) (f : Context → World α → ρ × Context × World α)
    (w : World α) : Option ρ × World α :=
  match w.context? key with
  | none => (none, w)
  | some c =>
    let (r, c, w) := f c w
    (some r, { w with contexts := w.contexts.insert key c })

end World

end TransactionalTest
