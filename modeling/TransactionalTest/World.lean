import TransactionalTest.LogEvent
import TransactionalTest.Store

/-!
# The world

Everything that the operations of the library read and change, as one value.

* `ExecutionKey` — the thread or worker that runs a test;
* `Context` — the transaction state of one test invocation;
* `Occurrence` — one entry of the chronicle: a report, a request to a manager, a hook call;
* `World` — registry, stores, published contexts, lifecycle states, caches and chronicle.

An operation is a total function from a world to its answer and the world after it.  A controller,
a manager or a class is a value that says who it is; what it remembers is in the world, in a table
keyed by that value, where no entry means that it remembers nothing yet.  The application under
test keeps its own state in `World.app`, which no operation of the library reads.
-/

namespace TransactionalTest

/-! ### Keys and contexts -/

/-- The thread or the named worker that runs a test. -/
inductive ExecutionKey where
  | thread (n : Nat)
  | named (name : String)
  deriving DecidableEq, Repr, Inhabited

namespace ExecutionKey

/-- The key in texts; threads are not told apart there. -/
def display : ExecutionKey → String
  | thread _ => "<thread>"
  | named name => name

/-- The key in inspection text. -/
def inspect : ExecutionKey → String
  | thread _ => "Thread(<thread>)"
  | named name => "Named(" ++ Inspect.quoted name ++ ")"

end ExecutionKey

/-- The transaction state of one test invocation. -/
structure Context where
  testName : String
  manager : Manager
  intent : Attribute
  flaggedForRollback : Bool
  status : Option Status := none
  /-- How many transactions this context has opened, in 32 bits. -/
  starts : UInt32 := 0
  deriving DecidableEq, Repr, Inhabited

/-- How many transactions the context has opened, as its counter tells: the counter begins anew when
32 bits are full. -/
def Context.started (c : Context) : Nat := c.starts.toNat

/-! ### The chronicle -/

/-- Something that happened. -/
inductive Occurrence where
  /-- A report was made. -/
  | reported (event : LogEvent)
  /-- A manager was asked to begin. -/
  | begun (manager : Manager) (intent : Attribute) (outcome : Except TransactionError Status)
  /-- A manager was asked to end the transaction of a handle. -/
  | finished (manager : Manager) (status : Status) (rollback : Bool)
      (outcome : Except TransactionError Unit)
  /-- A hook call came back. -/
  | invoked (key : ExecutionKey) (hook : HookMethod) (outcome : Except HookError Unit)

namespace Occurrence

/-- The report, if it is one. -/
def report? : Occurrence → Option LogEvent
  | reported event => some event
  | _ => none

/-- The handle that a successful begin returned. -/
def handle? : Occurrence → Option Status
  | begun _ _ (.ok status) => some status
  | _ => none

end Occurrence

/-! ### The world -/

/-- Names a controller, or any other component that remembers something of its own. -/
abbrev OwnerId := Nat

/-- Everything that the operations of the library read and change; `α` is the state of the
application under test. -/
structure World (α : Type) where
  registry : Registry := {}
  stores : Table Manager Store := []
  /-- How many transactions have begun. -/
  beginCount : Nat := 0
  /-- The published contexts. -/
  contexts : Table ExecutionKey Context := []
  /-- The states of each controller's keys; no entry means `idle`. -/
  states : Table (OwnerId × ExecutionKey) LifecycleState := []
  configurationCache : Table (OwnerId × TestClass) ConfigurationAttributes := []
  hookCache : Table (OwnerId × TestClass × HookPhase) (List HookMethod) := []
  /-- What happened, oldest first. -/
  chronicle : List Occurrence := []
  app : α

namespace World

variable {α : Type}

/-- Enter something into the chronicle. -/
def record (o : Occurrence) (w : World α) : World α := { w with chronicle := w.chronicle ++ [o] }

/-- Make a report. -/
def report (event : LogEvent) (w : World α) : World α := w.record (.reported event)

/-- The reports, oldest first. -/
def reports (w : World α) : List LogEvent := w.chronicle.filterMap Occurrence.report?

/-- The handles of the transactions that have begun, oldest first. -/
def handles (w : World α) : List Status := w.chronicle.filterMap Occurrence.handle?

/-- What a manager remembers. -/
def store (m : Manager) (w : World α) : Store := (w.stores.find? m).getD {}

/-- The world with another memory of a manager. -/
def setStore (m : Manager) (s : Store) (w : World α) : World α :=
  { w with stores := w.stores.insert m s }

/-- The context published for a key. -/
def context? (key : ExecutionKey) (w : World α) : Option Context := w.contexts.find? key

/-- How many contexts are published. -/
def live (w : World α) : Nat := w.contexts.length

@[simp] theorem store_record (o : Occurrence) (m : Manager) (w : World α) :
    (w.record o).store m = w.store m := rfl

@[simp] theorem context?_record (o : Occurrence) (key : ExecutionKey) (w : World α) :
    (w.record o).context? key = w.context? key := rfl

@[simp] theorem store_setStore_self (m : Manager) (s : Store) (w : World α) :
    (w.setStore m s).store m = s := by
  simp [store, setStore]

theorem store_setStore_of_ne {m n : Manager} (h : n ≠ m) (s : Store) (w : World α) :
    (w.setStore m s).store n = w.store n := by
  simp [store, setStore, Table.find?_insert_of_ne h]

@[simp] theorem context?_setStore (m : Manager) (s : Store) (key : ExecutionKey) (w : World α) :
    (w.setStore m s).context? key = w.context? key := rfl

/-! ### Requests to managers -/

/-- Ask a manager to begin.  The count of transactions stands for an identifier that is drawn
afresh, and such identifiers are taken never to repeat.  The theorems about a `Store` alone say so
in a hypothesis. -/
def begin (m : Manager) (a : Attribute) (w : World α) :
    Except TransactionError Status × World α :=
  let (r, s) := (w.store m).begin a (.serial (w.beginCount + 1))
  let w := (w.setStore m s).record (.begun m a r)
  (r, { w with beginCount := w.beginCount + (match r with | .ok _ => 1 | .error _ => 0) })

/-- Ask a manager to end the transaction of a handle. -/
def finish (m : Manager) (status : Status) (rollback : Bool) (w : World α) :
    Except TransactionError Unit × World α :=
  let (r, s) := (w.store m).finish status rollback
  (r, (w.setStore m s).record (.finished m status rollback r))

/-- Stage a write in the transaction of a handle. -/
def write (m : Manager) (status : Status) (key value : String) (w : World α) :
    Except TransactionError Unit × World α :=
  let (r, s) := (w.store m).write status key value
  (r, w.setStore m s)

/-- Arm a failure of the manager's next begin. -/
def failNextBegin (m : Manager) (reason : String) (w : World α) : World α :=
  w.setStore m ((w.store m).failNextBegin reason)

/-- Arm a failure of the manager's next end. -/
def failNextFinish (m : Manager) (reason : String) (w : World α) : World α :=
  w.setStore m ((w.store m).failNextFinish reason)

end World

end TransactionalTest
