import TransactionalTest.Context

/-!
# Steering the transaction from inside a test

What the body of a test may do with the transaction that the lifecycle opened for it: ask about
it, flag it for commit or rollback, end it early and open another in the same context.

* `InTest.isActive`, `InTest.isFlaggedForRollback` — questions;
* `InTest.flagForRollback`, `InTest.flagForCommit` — the flag;
* `InTest.finish`, `InTest.start` — the transaction.
-/

namespace TransactionalTest

namespace InTest

variable {α : Type}

/-- A transaction is open for the key; not so when no context is published. -/
def isActive (key : ExecutionKey) (w : World α) : Bool :=
  match w.context? key with
  | some c => c.isActive w
  | none => false

/-- Work on the published context, which must be there. -/
def withContext {ρ : Type} (key : ExecutionKey)
    (f : Context → World α → Except LifecycleError ρ × Context × World α) (w : World α) :
    Except LifecycleError ρ × World α :=
  match w.withCurrent key f with
  | (some r, w) => (r, w)
  | (none, w) => (.error (.illegalState (.unmanaged key.display)), w)

/-- The rollback flag of the published context. -/
def isFlaggedForRollback (key : ExecutionKey) (w : World α) :
    Except LifecycleError Bool × World α :=
  withContext key (fun c w => (.ok c.flaggedForRollback, c, w)) w

/-- Set the rollback flag of the published context while its transaction is active. -/
def setFlag (rollback : Bool) (key : ExecutionKey) (w : World α) :
    Except LifecycleError Unit × World α :=
  withContext key
    (fun c w =>
      if c.isActive w then (.ok (), { c with flaggedForRollback := rollback }, w)
      else (.error (.illegalState .flagWithoutTransaction), c, w)) w

/-- Flag the transaction for rollback. -/
def flagForRollback (key : ExecutionKey) (w : World α) : Except LifecycleError Unit × World α :=
  setFlag true key w

/-- Flag the transaction for commit. -/
def flagForCommit (key : ExecutionKey) (w : World α) : Except LifecycleError Unit × World α :=
  setFlag false key w

/-- End the transaction now, as its flag says. -/
def finish (key : ExecutionKey) (w : World α) : Except LifecycleError Unit × World α :=
  withContext key Context.finish w

/-- Open another transaction in the same context. -/
def start (key : ExecutionKey) (w : World α) : Except LifecycleError Unit × World α :=
  withContext key Context.start w

end InTest

end TransactionalTest
