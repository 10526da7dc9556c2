import Mathlib.Data.List.Induction
import TransactionalTest.Proofs.Table
import TransactionalTest.Store

/-!
# In-memory stores, operation by operation

* `Store.IsOpen` : the store knows the transaction and has not ended it;
* `Store.Knows` : it has begun here, whether or not it has been ended;
* `Store.Refused` : why nothing is done with a handle;
* `Store.begin_cases`, `Store.write_cases`, `Store.finish_released` : what each operation can do;
* `Store.committedValue?_overlay` : the value that writes laid over a table leave at a key.
-/

namespace TransactionalTest

namespace Store

variable {s : Store}

/-- The transaction has begun here and has not been ended. -/
def IsOpen (s : Store) (id : TransactionId) : Prop := id ∈ s.opened.keys

instance (s : Store) (id : TransactionId) : Decidable (s.IsOpen id) :=
  inferInstanceAs (Decidable (_ ∈ _))

/-- The store has given the identifier out, whether or not the transaction has been ended. -/
def Knows (s : Store) (id : TransactionId) : Prop := s.IsOpen id ∨ id ∈ s.completed

theorem IsOpen.find? {id : TransactionId} (h : s.IsOpen id) : ∃ t, s.opened.find? id = some t :=
  Option.isSome_iff_exists.1 (Table.mem_keys_iff.1 h)

theorem isCompleted_iff {status : Status} :
    s.isCompleted status = true ↔ status.id ∈ s.completed := by
  simp [isCompleted]

theorem isCompleted_eq_false {status : Status} (h : status.id ∉ s.completed) :
    s.isCompleted status = false := by
  simpa [isCompleted] using h

theorem openCount_eq_length_keys : s.openCount = s.opened.keys.length := by
  simp [openCount, Table.keys]

/-! ### What can be done with a handle -/

/-- Why nothing is done with a handle. -/
inductive Refused (s : Store) (id : TransactionId) : TransactionError → Prop where
  | completed (mem : id ∈ s.completed) : Refused s id (.alreadyCompleted id)
  | unknown (unknown : ¬ s.Knows id) : Refused s id (.unknownTransaction id)

/-- A handle is refused, or its transaction is open. -/
theorem refused_or_open (s : Store) (id : TransactionId) :
    (∃ err, s.Refused id err) ∨ id ∉ s.completed ∧ ∃ t, s.opened.find? id = some t := by
  by_cases hc : id ∈ s.completed
  · exact .inl ⟨_, .completed hc⟩
  · cases ho : s.opened.find? id with
    | none => exact .inl ⟨_, .unknown fun hk => hk.elim (Table.find?_eq_none_iff.1 ho) hc⟩
    | some t => exact .inr ⟨hc, t, rfl⟩

/-! ### What each operation can do -/

/-- A begin uses up the armed failure, or opens a transaction under the identifier. -/
theorem begin_cases (a : Attribute) (id : TransactionId) (s : Store) :
    (∃ reason, s.begin a id = (.error (.begin reason), { s with beginFailure := none })) ∨
      s.begin a id = (.ok (.ofAttribute id a),
        { s with
          opened := s.opened.insert id ⟨a.name, []⟩
          events := s.events ++ [.began a.name a.readOnly] }) := by
  unfold begin
  cases s.beginFailure with
  | some reason => exact .inl ⟨reason, rfl⟩
  | none => exact .inr rfl

theorem begin_of_unarmed (h : s.beginFailure = none) (a : Attribute) (id : TransactionId) :
    s.begin a id = (.ok (.ofAttribute id a), { s with
      opened := s.opened.insert id ⟨a.name, []⟩
      events := s.events ++ [.began a.name a.readOnly] }) := by
  rw [begin, h]

theorem begin_of_armed {reason : String} (h : s.beginFailure = some reason) (a : Attribute)
    (id : TransactionId) :
    s.begin a id = (.error (.begin reason), { s with beginFailure := none }) := by
  rw [begin, h]

theorem write_of_refused {status : Status} {err : TransactionError} (hr : s.Refused status.id err)
    (key value : String) : s.write status key value = (.error err, s) := by
  rw [write]
  cases hr with
  | completed mem => rw [if_pos (isCompleted_iff.2 mem)]
  | unknown unknown =>
    rw [isCompleted_eq_false fun hc => unknown (.inr hc),
      Table.find?_eq_none_iff.2 fun ho => unknown (.inl ho)]
    rfl

theorem write_of_open {status : Status} {t : OpenTransaction} (hc : status.id ∉ s.completed)
    (ho : s.opened.find? status.id = some t) (key value : String) :
    s.write status key value = (.ok (), { s with
      opened := s.opened.insert status.id { t with staged := t.staged ++ [(key, value)] } }) := by
  rw [write, isCompleted_eq_false hc, ho]
  rfl

/-- A write is refused and changes nothing, or adds to what an open transaction has staged. -/
theorem write_cases (status : Status) (key value : String) (s : Store) :
    (∃ e, s.write status key value = (.error e, s)) ∨
      ∃ t, status.id ∉ s.completed ∧ s.opened.find? status.id = some t ∧
        s.write status key value = (.ok (), { s with
          opened := s.opened.insert status.id
            { t with staged := t.staged ++ [(key, value)] } }) := by
  rcases s.refused_or_open status.id with ⟨e, hr⟩ | ⟨hc, t, ho⟩
  · exact .inl ⟨e, write_of_refused hr key value⟩
  · exact .inr ⟨t, hc, ho, write_of_open hc ho key value⟩

theorem keys_write (status : Status) (key value : String) (s : Store) :
    (s.write status key value).2.opened.keys = s.opened.keys := by
  rcases write_cases status key value s with ⟨e, h⟩ | ⟨t, -, ho, h⟩
  · rw [h]
  · rw [h]
    exact Table.keys_insert_of_mem (Table.mem_keys_of_find? ho) _

theorem completed_write (status : Status) (key value : String) (s : Store) :
    (s.write status key value).2.completed = s.completed := by
  rcases write_cases status key value s with ⟨e, h⟩ | ⟨t, -, ho, h⟩ <;> rw [h]

/-- A write makes no identifier known. -/
theorem Knows.of_write {status : Status} {key value : String} {id : TransactionId}
    (h : (s.write status key value).2.Knows id) : s.Knows id := by
  rwa [Knows, IsOpen, keys_write, completed_write] at h

/-- What the end of an open transaction leaves behind: it is released whatever the outcome, and
its writes are seen when the end succeeds and is no rollback. -/
structure Released (s : Store) (status : Status) (rollback : Bool) (t : OpenTransaction)
    (r : Except TransactionError Unit) (s' : Store) : Prop where
  outcome : r = match s.finishFailure with
    | none => .ok ()
    | some reason =>
      .error (if rollback then .rollback status.id reason else .commit status.id reason)
  opened : s'.opened = s.opened.erase status.id
  completed : s'.completed = s.completed ++ [status.id]
  committed : s'.committed =
    if r.isOk && !rollback then overlay t.staged s.committed else s.committed
  events : s'.events = s.events ++
    if r.isOk then [if rollback then .rolledBack t.name else .committed t.name] else []
  beginFailure : s'.beginFailure = s.beginFailure
  finishFailure : s'.finishFailure = none

/-- The end of an open transaction releases it. -/
theorem finish_released {status : Status} {t : OpenTransaction} (hc : status.id ∉ s.completed)
    (ho : s.opened.find? status.id = some t) (rollback : Bool) :
    Released s status rollback t (s.finish status rollback).1 (s.finish status rollback).2 := by
  have hf : s.isCompleted status = false := isCompleted_eq_false hc
  cases hfail : s.finishFailure with
  | some reason =>
    constructor <;> simp [finish, hf, ho, hfail, Except.isOk, Except.toBool]
  | none =>
    cases rollback <;> constructor <;> simp [finish, hf, ho, hfail, Except.isOk, Except.toBool]

/-- The end of a transaction that is not open changes nothing. -/
theorem finish_of_refused {status : Status} {err : TransactionError} (hr : s.Refused status.id err)
    (rollback : Bool) : s.finish status rollback = (.error err, s) := by
  rw [finish]
  cases hr with
  | completed mem => rw [if_pos (isCompleted_iff.2 mem)]
  | unknown unknown =>
    rw [isCompleted_eq_false fun hc => unknown (.inr hc),
      Table.find?_eq_none_iff.2 fun ho => unknown (.inl ho)]
    rfl

theorem finish_of_armed {status : Status} {reason : String} {t : OpenTransaction}
    (hf : s.finishFailure = some reason) (hc : status.id ∉ s.completed)
    (ho : s.opened.find? status.id = some t) (rollback : Bool) :
    s.finish status rollback =
      (.error (if rollback then .rollback status.id reason else .commit status.id reason),
        { s with
          opened := s.opened.erase status.id
          completed := s.completed ++ [status.id]
          finishFailure := none }) := by
  simp [finish, isCompleted_eq_false hc, ho, hf]

theorem completed_finish_subset (status : Status) (rollback : Bool) (s : Store) :
    s.completed ⊆ (s.finish status rollback).2.completed := by
  rcases s.refused_or_open status.id with ⟨e, hr⟩ | ⟨hc, t, ho⟩
  · rw [finish_of_refused hr]
    exact List.Subset.refl _
  · rw [(finish_released hc ho rollback).completed]
    exact List.subset_append_left _ _

/-- An end makes no identifier known. -/
theorem Knows.of_finish {status : Status} {rollback : Bool} {id : TransactionId}
    (h : (s.finish status rollback).2.Knows id) : s.Knows id := by
  rcases s.refused_or_open status.id with ⟨e, hr⟩ | ⟨hc, t, ho⟩
  · rwa [finish_of_refused hr] at h
  · have hr := finish_released hc ho rollback
    rw [Knows, IsOpen, hr.opened, hr.completed, Table.keys_erase] at h
    rcases h with h | h
    · exact .inl (List.mem_filter.1 h).1
    · rcases List.mem_append.1 h with h | h
      · exact .inr h
      · rw [List.mem_singleton.1 h]
        exact .inl (Table.mem_keys_of_find? ho)

/-! ### Writes laid over a table -/

/-- The value of the last write to a key. -/
def lastValue? (key : String) (writes : List (String × String)) : Option String :=
  (writes.reverse.find? fun w => w.1 = key).map Prod.snd

theorem committedValue?_overlay (writes : List (String × String)) (base : Table String String)
    (key : String) :
    Table.find? key (overlay writes base) = (lastValue? key writes).or (Table.find? key base) := by
  induction writes using List.reverseRecOn with
  | nil => simp [overlay, lastValue?]
  | append_singleton ws w ih =>
    have hfold : overlay (ws ++ [w]) base = (overlay ws base).insert w.1 w.2 := by
      simp [overlay]
    rw [hfold, Table.find?_insert, ih]
    by_cases h : key = w.1
    · simp [lastValue?, h]
    · simp [lastValue?, h, Ne.symm h]

end Store

end TransactionalTest
