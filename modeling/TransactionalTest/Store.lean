import TransactionalTest.Table
import TransactionalTest.Transaction

/-!
# In-memory stores

What an in-memory transaction manager remembers: its open and completed transactions, and a
key-value store that a transaction's writes reach only when it commits.

* `Store.begin`, `Store.write`, `Store.finish` — the operations;
* `Store.isCompleted`, `Store.committedValue?` — the views;
* `Store.failNextBegin`, `Store.failNextFinish` — one failure, armed for the next call.
-/

namespace TransactionalTest

/-- What a manager did. -/
inductive ManagerEvent where
  | began (name : Option String) (readOnly : Bool)
  | committed (name : Option String)
  | rolledBack (name : Option String)
  deriving DecidableEq, Repr

/-- A transaction that has begun and not ended. -/
structure OpenTransaction where
  name : Option String
  /-- Its writes, oldest first. -/
  staged : List (String × String) := []
  deriving DecidableEq, Repr

/-- What an in-memory manager remembers. -/
structure Store where
  opened : Table TransactionId OpenTransaction := []
  completed : List TransactionId := []
  committed : Table String String := []
  /-- What the manager did, oldest first. -/
  events : List ManagerEvent := []
  beginFailure : Option String := none
  finishFailure : Option String := none
  deriving DecidableEq, Repr, Inhabited

namespace Store

/-- The transaction has been ended here. -/
def isCompleted (s : Store) (status : Status) : Bool := s.completed.contains status.id

/-- The value that the last commit to write a key gave it. -/
def committedValue? (s : Store) (key : String) : Option String := s.committed.find? key

/-- How many transactions are open. -/
def openCount (s : Store) : Nat := s.opened.length

/-- The next begin fails for this reason. -/
def failNextBegin (reason : String) (s : Store) : Store := { s with beginFailure := some reason }

/-- The next end of an open transaction fails for this reason. -/
def failNextFinish (reason : String) (s : Store) : Store :=
  { s with finishFailure := some reason }

/-- Open a transaction under this identifier, or use up the armed failure. -/
def begin (a : Attribute) (id : TransactionId) (s : Store) :
    Except TransactionError Status × Store :=
  match s.beginFailure with
  | some reason => (.error (.begin reason), { s with beginFailure := none })
  | none =>
    (.ok (.ofAttribute id a),
      { s with
        opened := s.opened.insert id ⟨a.name, []⟩
        events := s.events ++ [.began a.name a.readOnly] })

/-- Stage a write in an open transaction. -/
def write (status : Status) (key value : String) (s : Store) :
    Except TransactionError Unit × Store :=
  if s.isCompleted status then (.error (.alreadyCompleted status.id), s)
  else match s.opened.find? status.id with
    | none => (.error (.unknownTransaction status.id), s)
    | some t =>
      (.ok (), { s with opened := s.opened.insert status.id { t with
        staged := t.staged ++ [(key, value)] } })

/-- Lay writes over a table, oldest first, so that the last write to a key wins. -/
def overlay (writes : List (String × String)) (base : Table String String) :
    Table String String :=
  writes.foldl (fun t w => t.insert w.1 w.2) base

/-- End a transaction: undo its writes or let them be seen.  An armed failure releases the
transaction all the same and drops its writes. -/
def finish (status : Status) (rollback : Bool) (s : Store) :
    Except TransactionError Unit × Store :=
  if s.isCompleted status then (.error (.alreadyCompleted status.id), s)
  else match s.opened.find? status.id with
    | none => (.error (.unknownTransaction status.id), s)
    | some t =>
      let s := { s with
        opened := s.opened.erase status.id
        completed := s.completed ++ [status.id] }
      match s.finishFailure with
      | some reason =>
        (.error (if rollback then .rollback status.id reason else .commit status.id reason),
          { s with finishFailure := none })
      | none =>
        if rollback then (.ok (), { s with events := s.events ++ [.rolledBack t.name] })
        else (.ok (), { s with
          committed := overlay t.staged s.committed
          events := s.events ++ [.committed t.name] })

end Store

end TransactionalTest
