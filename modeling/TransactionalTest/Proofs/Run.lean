import TransactionalTest.Proofs.Controller

/-!
# Runs

What can be done with controllers that share a holder, as data, and the world after a list of
such operations.

* `BodyStep` : what the body of a test does with the transaction of its key;
* `Operation` : a phase of a test, a step of a body, a request to a manager or the registry;
* `Operation.runAll` : the world after a run;
* `Operation.runAll_induction` : what every operation keeps, a run keeps.

The tests of a run carry the relation that their hooks stay within, so that one type of run
serves for every kind of hook.
-/

namespace TransactionalTest

variable {α : Type}

/-- What came of an operation. -/
inductive Outcome where
  | done
  | answered (r : Except LifecycleError Unit)
  | flagged (r : Except LifecycleError Bool)
  | requested (r : Except TransactionError Unit)
  /-- There is no handle to write with. -/
  | noHandle
  | registered (r : Except LookupError Unit)

namespace Outcome

/-- The operation did what it was asked to do. -/
def isOk : Outcome → Bool
  | done => true
  | answered r => r.isOk
  | flagged r => r.isOk
  | requested r => r.isOk
  | noHandle => false
  | registered r => r.isOk

/-- What a manager answered, if that is why the operation failed. -/
def managerError? : Outcome → Option TransactionError
  | answered (.error e) | flagged (.error e) => e.managerError?
  | requested (.error e) => some e
  | _ => none

end Outcome

/-! ### The body of a test -/

/-- What the body of a test does with the transaction of its key, and how it prepares failures. -/
inductive BodyStep where
  | isActive
  | isFlaggedForRollback
  | flagForRollback
  | flagForCommit
  | finish
  | start
  /-- Stage a write with the current handle, in the manager of the context. -/
  | write (key value : String)
  | failNextBegin (manager : Manager) (reason : String)
  | failNextFinish (manager : Manager) (reason : String)

/-- Stage a write with the handle of the context published for a key. -/
def World.writeCurrent (key : ExecutionKey) (k v : String) (w : World α) : Outcome × World α :=
  match w.context? key with
  | none => (.noHandle, w)
  | some x =>
    match x.status with
    | none => (.noHandle, w)
    | some status =>
      let (r, w) := w.write x.manager status k v
      (.requested r, w)

/-- Take a step of the body of the test on a key. -/
def BodyStep.run (key : ExecutionKey) (step : BodyStep) (w : World α) : Outcome × World α :=
  match step with
  | isActive => (.flagged (.ok (InTest.isActive key w)), w)
  | isFlaggedForRollback =>
    (.flagged (InTest.isFlaggedForRollback key w).1, (InTest.isFlaggedForRollback key w).2)
  | flagForRollback =>
    (.answered (InTest.flagForRollback key w).1, (InTest.flagForRollback key w).2)
  | flagForCommit => (.answered (InTest.flagForCommit key w).1, (InTest.flagForCommit key w).2)
  | finish => (.answered (InTest.finish key w).1, (InTest.finish key w).2)
  | start => (.answered (InTest.start key w).1, (InTest.start key w).2)
  | write k v => w.writeCurrent key k v
  | failNextBegin m reason => (.done, w.failNextBegin m reason)
  | failNextFinish m reason => (.done, w.failNextFinish m reason)

/-- Take the steps of a body one after another. -/
def BodyStep.runAll (key : ExecutionKey) : List BodyStep → World α → List Outcome × World α
  | [], w => ([], w)
  | step :: steps, w =>
    let (r, w) := step.run key w
    let (rs, w) := runAll key steps w
    (r :: rs, w)

/-! ### Operations -/

/-- A test run whose hooks stay within a relation. -/
structure GuardedRun (R : World α → World α → Prop) extends TestRun α where
  within : subject.Within R

/-- What can be done with a family of controllers that share a holder, a registry and managers. -/
inductive Operation (ι : Type) (R : World α → World α → Prop) where
  | before (i : ι) (t : GuardedRun R)
  | after (i : ι) (t : GuardedRun R)
  | body (key : ExecutionKey) (step : BodyStep)
  /-- Stage a write with any handle, in any manager. -/
  | stage (manager : Manager) (status : Status) (key value : String)
  | register (registration : Registration)
  | addSelector (manager : Manager)

namespace Operation

variable {ι : Type} {R : World α → World α → Prop}

/-- The key whose test the operation is about. -/
def key? : Operation ι R → Option ExecutionKey
  | before _ t | after _ t => some t.key
  | body key _ => some key
  | _ => none

/-- Carry an operation out. -/
def run (controllers : ι → Controller) (op : Operation ι R) (w : World α) : Outcome × World α :=
  match op with
  | before i t =>
    let (r, w) := (controllers i).beforeTest t.toTestRun w
    (.answered r, w)
  | after i t =>
    let (r, w) := (controllers i).afterTest t.toTestRun w
    (.answered r, w)
  | body key step => step.run key w
  | stage m status k v =>
    let (r, w) := w.write m status k v
    (.requested r, w)
  | register r =>
    let (e, w) := w.register r
    (.registered e, w)
  | addSelector m => (.done, w.addSelector m)

/-- The world after operations one after another. -/
def runAll (controllers : ι → Controller) : List (Operation ι R) → World α → World α
  | [], w => w
  | op :: ops, w => runAll controllers ops (op.run controllers w).2

variable {controllers : ι → Controller}

theorem runAll_append (ops ops' : List (Operation ι R)) (w : World α) :
    runAll controllers (ops ++ ops') w = runAll controllers ops' (runAll controllers ops w) := by
  induction ops generalizing w with
  | nil => rfl
  | cons op ops ih => exact ih _

/-- What holds at first and is kept by every operation holds after every run. -/
theorem runAll_induction {P : World α → Prop}
    (hstep : ∀ (op : Operation ι R) w, P w → P (op.run controllers w).2)
    (ops : List (Operation ι R)) {w : World α} (h : P w) : P (runAll controllers ops w) := by
  induction ops generalizing w with
  | nil => exact h
  | cons op ops ih => exact ih (hstep op w h)

end Operation

/-! ### A small suite -/

namespace Sample

/-- The only manager. -/
def accounts : Manager := ⟨0, "accounts"⟩

/-- A hook that runs before the transaction of every test. -/
def prepare : Method := { signature := ⟨"prepare", []⟩, hook := some .beforeTransaction }

/-- A test. -/
def transfer : Method := { signature := ⟨"transfer", []⟩ }

/-- A class with a transaction around each of its tests. -/
def suite : TestClass where
  id := 0
  leaf := { name := "AccountTest", transactional := some {}, methods := [prepare, transfer] }

/-- The test, with a body for the hook. -/
def run (body : HookBody Unit) : TestRun Unit :=
  ⟨suite, transfer, Bindings.subject [(("AccountTest", prepare.signature), body)], .thread 0⟩

/-- The test, with a hook that does nothing. -/
def quietTest : TestRun Unit := run fun w => (.ok (), w)

theorem run_within {R : World Unit → World Unit → Prop} (hrefl : ∀ w, R w w)
    {body : HookBody Unit} (h : ∀ w, R w (body w).2) : (run body).subject.Within R := by
  refine Bindings.subject_within hrefl fun e he => ?_
  rw [List.mem_singleton.1 he]
  exact h

/-- Nothing has happened yet. -/
def start : World Unit :=
  { registry := { registrations := [{ name := "accounts", manager := accounts }] }, app := () }

theorem minted_start : start.Minted := by
  rintro m n - (h | h)
  · exact List.not_mem_nil h
  · exact List.not_mem_nil h

/-- A controller with the default settings. -/
def controller : Controller := ⟨0, {}⟩

/-- Two controllers on one holder. -/
def pair : Bool → Controller
  | false => ⟨0, {}⟩
  | true => ⟨1, {}⟩

theorem pair_id_injective : Function.Injective fun i => (pair i).id := by
  intro i j h
  cases i <;> cases j <;> first | rfl | cases h

end Sample

end TransactionalTest
