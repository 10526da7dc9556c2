import TransactionalTest.Proofs.World

/-!
# The history of a store

A store is asked for this and that, in any order, with handles of its own and of others, and with
failures armed in between.  The requests and the answers to them are its history, and the history
alone says which transactions are open, which have been ended and how, and what comes next.

* `Store.Request`, `Store.Entry` : what can be asked, and what came of it;
* `Store.begun`, `Store.ends` : the transactions that have begun, and those that have been ended;
* `Store.pendingBegin`, `Store.pendingFinish` : the failures that are armed;
* `Store.Effect` : what one request can do;
* `Store.Booked` : the store has what its history says, kept by `Store.Booked.effect`;
* `Store.handles_accounted` : the handles of a store after any run.
-/

namespace TransactionalTest

/-- The event is a begin. -/
def ManagerEvent.isBegan : ManagerEvent → Bool
  | began _ _ => true
  | _ => false

namespace Store

/-! ### Requests and entries -/

/-- What can be asked of a store. -/
inductive Request where
  /-- Open a transaction; if it is opened it is given this identifier. -/
  | begin (a : Attribute) (id : TransactionId)
  | write (status : Status) (key value : String)
  | finish (status : Status) (rollback : Bool)
  | failNextBegin (reason : String)
  | failNextFinish (reason : String)

/-- A request and what came of it. -/
inductive Entry where
  | begun (a : Attribute) (r : Except TransactionError Status)
  | written (status : Status) (key value : String) (r : Except TransactionError Unit)
  | ended (status : Status) (rollback : Bool) (r : Except TransactionError Unit)
  | beginArmed (reason : String)
  | finishArmed (reason : String)

/-- Carry a request out. -/
def Request.run : Request → Store → Entry × Store
  | begin a id, s => (.begun a (s.begin a id).1, (s.begin a id).2)
  | write status k v, s => (.written status k v (s.write status k v).1, (s.write status k v).2)
  | finish status rollback, s =>
    (.ended status rollback (s.finish status rollback).1, (s.finish status rollback).2)
  | failNextBegin reason, s => (.beginArmed reason, s.failNextBegin reason)
  | failNextFinish reason, s => (.finishArmed reason, s.failNextFinish reason)

/-- The history of requests one after another, and the store after them. -/
def Request.runAll : List Request → Store → List Entry × Store
  | [], s => ([], s)
  | q :: qs, s =>
    let (e, s) := q.run s
    let (h, s) := runAll qs s
    (e :: h, s)

/-! ### What a history says -/

/-- How a transaction was ended. -/
inductive Fate where
  | committed
  | rolledBack
  /-- An armed failure struck its end. -/
  | failed
  deriving DecidableEq

namespace Entry

/-- The transaction that was opened. -/
def opened? : Entry → Option TransactionId
  | begun _ (.ok status) => some status.id
  | _ => none

/-- The transaction that was ended, and how.  An end that is refused ends nothing. -/
def end? : Entry → Option (TransactionId × Fate)
  | ended status rollback (.ok ()) =>
    some (status.id, if rollback then .rolledBack else .committed)
  | ended status _ (.error e) => if e.isRefusal then none else some (status.id, .failed)
  | _ => none

end Entry

/-- The transactions that have begun, oldest first. -/
def begun (h : List Entry) : List TransactionId := h.filterMap Entry.opened?

/-- The transactions that have been ended, in the order of their ends. -/
def ends (h : List Entry) : List (TransactionId × Fate) := h.filterMap Entry.end?

/-- What is armed for the next begin after an entry. -/
def armedBegin (pending : Option String) : Entry → Option String
  | .beginArmed reason => some reason
  | .begun _ _ => none
  | _ => pending

/-- What is armed for the next end of an open transaction after an entry. -/
def armedFinish (pending : Option String) : Entry → Option String
  | .finishArmed reason => some reason
  | e => if e.end?.isSome then none else pending

/-- The failure that the next begin will meet: the last one armed since the last begin. -/
def pendingBegin (h : List Entry) : Option String := h.foldl armedBegin none

/-- The failure that the next end of an open transaction will meet: the last one armed since a
transaction was last ended. -/
def pendingFinish (h : List Entry) : Option String := h.foldl armedFinish none

variable {s s' : Store} {h : List Entry} {e : Entry} {id : TransactionId} {status : Status}

theorem filterMap_append_singleton {β γ : Type} (f : β → Option γ) (l : List β) (x : β) :
    (l ++ [x]).filterMap f = l.filterMap f ++ (f x).toList := by
  cases hx : f x <;> simp [hx]

theorem begun_append_singleton (h : List Entry) (e : Entry) :
    begun (h ++ [e]) = begun h ++ e.opened?.toList :=
  filterMap_append_singleton ..

theorem ends_append_singleton (h : List Entry) (e : Entry) :
    ends (h ++ [e]) = ends h ++ e.end?.toList :=
  filterMap_append_singleton ..

/-- Where no identifier is given out twice, the next one is new. -/
theorem notMem_begun_of_nodup {a : Attribute}
    (hn : (begun (h ++ [.begun a (.ok (.ofAttribute id a))])).Nodup) : id ∉ begun h := by
  rw [begun_append_singleton] at hn
  exact fun hid => (List.nodup_append.1 hn).2.2 id hid id (List.mem_singleton_self _) rfl

theorem pendingBegin_append_singleton (h : List Entry) (e : Entry) :
    pendingBegin (h ++ [e]) = armedBegin (pendingBegin h) e := by
  simp [pendingBegin]

theorem pendingFinish_append_singleton (h : List Entry) (e : Entry) :
    pendingFinish (h ++ [e]) = armedFinish (pendingFinish h) e := by
  simp [pendingFinish]

theorem armedFinish_ended (pending : Option String) (status : Status) (rollback : Bool)
    (r : Except TransactionError Unit) : armedFinish pending (.ended status rollback r) =
      if (Entry.ended status rollback r).end?.isSome then none else pending := rfl

/-! ### What one request can do -/

/-- What a request can do, and the entry that tells of it. -/
inductive Effect (s : Store) : Entry → Store → Prop
  | unopened (a : Attribute) (reason : String) (armed : s.beginFailure = some reason) :
      Effect s (.begun a (.error (.begin reason))) { s with beginFailure := none }
  | opened (a : Attribute) (id : TransactionId) (unarmed : s.beginFailure = none) :
      Effect s (.begun a (.ok (.ofAttribute id a)))
        { s with
          opened := s.opened.insert id ⟨a.name, []⟩
          events := s.events ++ [.began a.name a.readOnly] }
  | staged (status : Status) (k v : String) (t : OpenTransaction)
      (running : status.id ∉ s.completed) (isOpen : s.opened.find? status.id = some t) :
      Effect s (.written status k v (.ok ()))
        { s with opened := s.opened.insert status.id { t with staged := t.staged ++ [(k, v)] } }
  | unwritten (status : Status) (k v : String) (err : TransactionError)
      (refused : s.Refused status.id err) : Effect s (.written status k v (.error err)) s
  | released (status : Status) (rollback : Bool) (t : OpenTransaction)
      (r : Except TransactionError Unit) (s' : Store) (running : status.id ∉ s.completed)
      (isOpen : s.opened.find? status.id = some t) (released : s.Released status rollback t r s') :
      Effect s (.ended status rollback r) s'
  | unended (status : Status) (rollback : Bool) (err : TransactionError)
      (refused : s.Refused status.id err) : Effect s (.ended status rollback (.error err)) s
  | beginArmed (reason : String) : Effect s (.beginArmed reason) (s.failNextBegin reason)
  | finishArmed (reason : String) : Effect s (.finishArmed reason) (s.failNextFinish reason)

theorem Request.effect (q : Request) (s : Store) : Effect s (q.run s).1 (q.run s).2 := by
  cases q with
  | begin a id =>
    cases hf : s.beginFailure with
    | some reason =>
      rw [run, begin_of_armed hf]
      exact .unopened a reason hf
    | none =>
      rw [run, begin_of_unarmed hf]
      exact .opened a id hf
  | write status k v =>
    rcases s.refused_or_open status.id with ⟨err, hr⟩ | ⟨hc, t, ho⟩
    · rw [run, write_of_refused hr]
      exact .unwritten status k v err hr
    · rw [run, write_of_open hc ho]
      exact .staged status k v t hc ho
  | finish status rollback =>
    rcases s.refused_or_open status.id with ⟨err, hr⟩ | ⟨hc, t, ho⟩
    · rw [run, finish_of_refused hr]
      exact .unended status rollback err hr
    · exact .released status rollback t _ _ hc ho (finish_released hc ho rollback)
  | failNextBegin reason => exact .beginArmed reason
  | failNextFinish reason => exact .finishArmed reason

/-! ### The store has what its history says -/

/-- The transactions that the store knows, its events and its armed failures are those of its
history. -/
structure Booked (h : List Entry) (s : Store) : Prop where
  completed : s.completed = (ends h).map Prod.fst
  known : (s.opened.keys ++ s.completed).Perm (begun h)
  began : s.events.countP ManagerEvent.isBegan = (begun h).length
  closed : s.events.countP (fun e => !e.isBegan) + (ends h).countP (fun p => p.2 = .failed) =
    (ends h).length
  beginFailure : s.beginFailure = pendingBegin h
  finishFailure : s.finishFailure = pendingFinish h

namespace Booked

theorem empty : Booked [] {} := ⟨rfl, .refl _, rfl, rfl, rfl, rfl⟩

/-- An entry that opens and ends nothing leaves the transactions and the events as they are. -/
theorem aside (hb : Booked h s) (ho : e.opened? = none) (he : e.end? = none)
    (hkeys : s'.opened.keys = s.opened.keys) (hcompleted : s'.completed = s.completed)
    (hevents : s'.events = s.events) (hbegin : s'.beginFailure = armedBegin s.beginFailure e)
    (hfinish : s'.finishFailure = armedFinish s.finishFailure e) : Booked (h ++ [e]) s' := by
  have hbegun : begun (h ++ [e]) = begun h := by simp [begun_append_singleton, ho]
  have hends : ends (h ++ [e]) = ends h := by simp [ends_append_singleton, he]
  refine ⟨?_, ?_, ?_, ?_, ?_, ?_⟩
  · rw [hcompleted, hends, hb.completed]
  · rw [hkeys, hcompleted, hbegun]
    exact hb.known
  · rw [hevents, hbegun, hb.began]
  · rw [hevents, hends, hb.closed]
  · rw [hbegin, hb.beginFailure, pendingBegin_append_singleton]
  · rw [hfinish, hb.finishFailure, pendingFinish_append_singleton]

theorem mem_begun (hb : Booked h s) : id ∈ begun h ↔ s.Knows id := by
  rw [← hb.known.mem_iff, List.mem_append]
  rfl

theorem nodup (hb : Booked h s) (hn : (begun h).Nodup) : (s.opened.keys ++ s.completed).Nodup :=
  hb.known.nodup_iff.2 hn

end Booked

theorem Refused.isRefusal {err : TransactionError} (hr : s.Refused id err) :
    err.isRefusal = true := by
  cases hr <;> rfl

/-- The entry of an end that is not refused. -/
theorem Released.end? {rollback : Bool} {t : OpenTransaction} {r : Except TransactionError Unit}
    (hr : s.Released status rollback t r s') :
    (Entry.ended status rollback r).end? = some (status.id,
      if r.isOk then if rollback then .rolledBack else .committed else .failed) := by
  obtain rfl := hr.outcome
  cases s.finishFailure with
  | none => rfl
  | some reason => cases rollback <;> rfl

namespace Booked

/-- A transaction is opened under a new identifier. -/
theorem opening (hb : Booked h s) (hnew : id ∉ s.opened.keys) (unarmed : s.beginFailure = none)
    (a : Attribute) :
    Booked (h ++ [.begun a (.ok (.ofAttribute id a))])
      { s with
        opened := s.opened.insert id ⟨a.name, []⟩
        events := s.events ++ [.began a.name a.readOnly] } := by
  have hbegun : begun (h ++ [.begun a (.ok (.ofAttribute id a))]) = begun h ++ [id] :=
    begun_append_singleton ..
  have hends : ends (h ++ [.begun a (.ok (.ofAttribute id a))]) = ends h := by
    rw [ends_append_singleton]
    exact List.append_nil _
  refine ⟨hends ▸ hb.completed, ?_, ?_, ?_, ?_, ?_⟩
  · rw [Table.keys_insert_of_notMem hnew, hbegun, List.append_assoc]
    refine (List.perm_append_comm.append_left s.opened.keys).trans ?_
    rw [← List.append_assoc]
    exact hb.known.append_right [id]
  · rw [List.countP_append, hb.began, hbegun, List.length_append]
    rfl
  · rw [List.countP_append, hends]
    exact hb.closed
  · rw [pendingBegin_append_singleton]
    exact unarmed
  · rw [pendingFinish_append_singleton]
    exact hb.finishFailure

/-- An open transaction is ended, well or not. -/
theorem releasing (hb : Booked h s) (hn : (begun h).Nodup) {rollback : Bool} {t : OpenTransaction}
    {r : Except TransactionError Unit} (isOpen : s.opened.find? status.id = some t)
    (hr : s.Released status rollback t r s') : Booked (h ++ [.ended status rollback r]) s' := by
  have hbegun : begun (h ++ [.ended status rollback r]) = begun h := by
    rw [begun_append_singleton]
    exact List.append_nil _
  have hends : ends (h ++ [.ended status rollback r]) = ends h ++ [(status.id,
      if r.isOk then if rollback then .rolledBack else .committed else .failed)] := by
    rw [ends_append_singleton, hr.end?]
    rfl
  have hkeys : s.opened.keys.Perm (status.id :: s'.opened.keys) := by
    rw [hr.opened]
    exact (Table.perm_of_find? (hb.nodup hn).of_append_left isOpen).map Prod.fst
  refine ⟨?_, ?_, ?_, ?_, ?_, ?_⟩
  · rw [hr.completed, hends, hb.completed, List.map_append]
    rfl
  · rw [hr.completed, hbegun, ← List.append_assoc]
    exact List.perm_append_comm.trans ((hkeys.symm.append_right _).trans hb.known)
  · rw [hr.events, hbegun, ← hb.began, List.countP_append]
    cases r <;> cases rollback <;> rfl
  · rw [hr.events, hends, List.countP_append, List.countP_append, List.length_append, ← hb.closed]
    cases r <;> cases rollback <;> simp [Except.isOk, Except.toBool, ManagerEvent.isBegan] <;> omega
  · rw [hr.beginFailure, hb.beginFailure, pendingBegin_append_singleton]
    rfl
  · rw [hr.finishFailure, pendingFinish_append_singleton, armedFinish_ended, hr.end?]
    rfl

end Booked

/-- Each request keeps the books, as long as no identifier is given out twice. -/
theorem Booked.effect (hb : Booked h s) (he : Effect s e s') (hn : (begun (h ++ [e])).Nodup) :
    Booked (h ++ [e]) s' := by
  cases he with
  | unopened a reason armed => exact hb.aside rfl rfl rfl rfl rfl rfl rfl
  | opened a id unarmed =>
    have hnew : id ∉ s.opened.keys := fun ho => notMem_begun_of_nodup hn (hb.mem_begun.2 (.inl ho))
    exact hb.opening hnew unarmed a
  | staged status k v t running isOpen =>
    exact hb.aside rfl rfl (Table.keys_insert_of_mem (Table.mem_keys_of_find? isOpen) _) rfl rfl rfl
      rfl
  | unwritten status k v err refused => exact hb.aside rfl rfl rfl rfl rfl rfl rfl
  | released status rollback t r s' running isOpen released =>
    have hold : (begun h).Nodup := hn.sublist ((List.sublist_append_left ..).filterMap _)
    exact hb.releasing hold isOpen released
  | unended status rollback err refused =>
    have hend : (Entry.ended status rollback (.error err)).end? = none := by
      simp [Entry.end?, refused.isRefusal]
    exact hb.aside rfl hend rfl rfl rfl rfl (by rw [armedFinish_ended, hend]; rfl)
  | beginArmed reason => exact hb.aside rfl rfl rfl rfl rfl rfl rfl
  | finishArmed reason => exact hb.aside rfl rfl rfl rfl rfl rfl rfl

/-! ### Runs -/

/-- What each request keeps, as long as no identifier is given out twice, a run keeps. -/
theorem Request.runAll_induction {P : List Entry → Store → Prop}
    (hstep : ∀ h s e s', P h s → Effect s e s' → (begun (h ++ [e])).Nodup → P (h ++ [e]) s')
    (qs : List Request) (hp : P h s) (hn : (begun (h ++ (runAll qs s).1)).Nodup) :
    P (h ++ (runAll qs s).1) (runAll qs s).2 := by
  induction qs generalizing h s with
  | nil => simpa [runAll] using hp
  | cons q qs ih =>
    have hsplit : h ++ (runAll (q :: qs) s).1 =
        (h ++ [(q.run s).1]) ++ (runAll qs (q.run s).2).1 := by
      simp [runAll]
    rw [hsplit] at hn ⊢
    have hfirst : (begun (h ++ [(q.run s).1])).Nodup :=
      hn.sublist ((List.sublist_append_left ..).filterMap _)
    exact ih (hstep h s _ _ hp (q.effect s) hfirst) hn

theorem Booked.runAll (qs : List Request) (hn : (begun (Request.runAll qs {}).1).Nodup) :
    Booked (Request.runAll qs {}).1 (Request.runAll qs {}).2 :=
  Request.runAll_induction (h := []) (fun _ _ _ _ hb he hn => hb.effect he hn) qs .empty hn

theorem Effect.completed_subset (he : Effect s e s') : s.completed ⊆ s'.completed := by
  cases he with
  | released status rollback t r s' running isOpen released =>
    rw [released.completed]
    exact List.subset_append_left ..
  | _ => exact List.Subset.refl _

theorem Request.completed_subset_runAll (qs : List Request) (s : Store) :
    s.completed ⊆ (runAll qs s).2.completed := by
  induction qs generalizing s with
  | nil => exact List.Subset.refl _
  | cons q qs ih => exact List.Subset.trans (q.effect s).completed_subset (ih _)

/-! ### What comes next -/

/-- Neither a write nor an end with the handle does anything but fail with this error. -/
structure Refuses (s : Store) (status : Status) (err : TransactionError) : Prop where
  write : ∀ k v, s.write status k v = (.error err, s)
  finish : ∀ rollback, s.finish status rollback = (.error err, s)

theorem Refused.refuses {err : TransactionError} (hr : s.Refused status.id err) :
    s.Refuses status err :=
  ⟨write_of_refused hr, finish_of_refused hr⟩

/-- What comes of the next request, as far as the history says. -/
structure Foretold (h : List Entry) (s : Store) : Prop where
  completed : ∀ status : Status, status.id ∈ s.completed →
    s.Refuses status (.alreadyCompleted status.id)
  foreign : ∀ status : Status, status.id ∉ begun h →
    s.Refuses status (.unknownTransaction status.id)
  beginStruck : ∀ reason, pendingBegin h = some reason → ∀ a id,
    s.begin a id = (.error (.begin reason), { s with beginFailure := none })
  beginSpared : pendingBegin h = none → ∀ a id, (s.begin a id).1 = .ok (.ofAttribute id a)
  finishStruck : ∀ reason, pendingFinish h = some reason → ∀ status rollback, s.IsOpen status.id →
    s.finish status rollback =
      (.error (if rollback then .rollback status.id reason else .commit status.id reason),
        { s with
          opened := s.opened.erase status.id
          completed := s.completed ++ [status.id]
          finishFailure := none })
  finishSpared : pendingFinish h = none → ∀ status rollback, s.IsOpen status.id →
    (s.finish status rollback).1 = .ok ()

theorem Booked.disjoint (hb : Booked h s) (hn : (begun h).Nodup) (ho : s.IsOpen id) :
    id ∉ s.completed :=
  fun hc => (List.nodup_append.1 (hb.nodup hn)).2.2 id ho id hc rfl

theorem Booked.foretold (hb : Booked h s) (hn : (begun h).Nodup) : Foretold h s where
  completed _ hc := (Refused.completed hc).refuses
  foreign _ hid := (Refused.unknown fun hk => hid (hb.mem_begun.2 hk)).refuses
  beginStruck reason hp a id := begin_of_armed (hb.beginFailure.trans hp) a id
  beginSpared hp a id := by rw [begin_of_unarmed (hb.beginFailure.trans hp)]
  finishStruck reason hp status rollback ho := by
    obtain ⟨t, ht⟩ := ho.find?
    exact finish_of_armed (hb.finishFailure.trans hp) (hb.disjoint hn ho) ht rollback
  finishSpared hp status rollback ho := by
    obtain ⟨t, ht⟩ := ho.find?
    rw [(finish_released (hb.disjoint hn ho) ht rollback).outcome, hb.finishFailure, hp]

/-- **Every handle of a store is accounted for.**  After any requests, with handles of this store
and of others, the transactions that have begun are those that are open and those that have been
ended, each in one of the two places and listed once, and what has been ended stays so.  There is
one event for each begin, and one for each end that no armed failure struck.  A handle that is not
open is refused and nothing is changed, so that no armed failure is used up; an armed failure
strikes the next begin, or the next end of an open transaction, and no other. -/
theorem handles_accounted (requests : List Request)
    (hids : (begun (Request.runAll requests {}).1).Nodup) :
    let h := (Request.runAll requests {}).1
    let s := (Request.runAll requests {}).2
    (∀ id, (s.Knows id ↔ id ∈ begun h) ∧ (s.IsOpen id → id ∉ s.completed)) ∧
    s.opened.keys.Nodup ∧ s.completed.Nodup ∧
    (∀ more, s.completed ⊆ (Request.runAll more s).2.completed) ∧
    s.events.countP ManagerEvent.isBegan = s.openCount + s.completed.length ∧
    s.events.countP (fun e => !e.isBegan) + (ends h).countP (fun p => p.2 = .failed) =
      s.completed.length ∧
    Foretold h s := by
  intro h s
  have hb : Booked h s := .runAll requests hids
  obtain ⟨hopen, hcompleted, -⟩ := List.nodup_append.1 (hb.nodup hids)
  have hlength : s.opened.keys.length + s.completed.length = (begun h).length := by
    rw [← List.length_append, hb.known.length_eq]
  refine ⟨fun id => ⟨hb.mem_begun.symm, hb.disjoint hids⟩, hopen, hcompleted,
    fun more => Request.completed_subset_runAll more s, ?_, ?_, hb.foretold hids⟩
  · rw [hb.began, openCount_eq_length_keys, hlength]
  · rw [hb.closed, hb.completed, List.length_map]

/-- The first begin is struck, so that its identifier is still to be given out; the failure that is
armed for an end passes over the handle of another manager and strikes the end after it. -/
theorem handles_accounted_struck :
    let handle (n : Nat) : Status := ⟨.serial n, none, false⟩
    let foreign : Status := ⟨.uuid 7, none, false⟩
    let requests : List Request := [.failNextBegin "pool exhausted", .begin {} (.serial 1),
      .begin {} (.serial 1), .begin {} (.serial 2), .begin {} (.serial 3),
      .failNextFinish "disk full", .finish foreign true, .finish (handle 1) false,
      .finish (handle 1) true, .finish (handle 2) true]
    let h := (Request.runAll requests {}).1
    let s := (Request.runAll requests {}).2
    begun h = [.serial 1, .serial 2, .serial 3] ∧
    ends h = [(.serial 1, .failed), (.serial 2, .rolledBack)] ∧
    s.events.countP (fun e => !e.isBegan) + 1 = s.completed.length ∧
    s.Refuses foreign (.unknownTransaction (.uuid 7)) ∧
    (s.finish (handle 3) false).1 = .ok () := by
  intro handle foreign requests h s
  have hbegun : begun h = [.serial 1, .serial 2, .serial 3] := by decide +kernel
  have hends : ends h = [(.serial 1, .failed), (.serial 2, .rolledBack)] := by decide +kernel
  have hids : (begun h).Nodup := by
    rw [hbegun]
    decide
  have hforeign : foreign.id ∉ begun h := by
    rw [hbegun]
    decide
  obtain ⟨-, -, -, -, -, hclosed, hnext⟩ := handles_accounted requests hids
  rw [hends] at hclosed
  exact ⟨hbegun, hends, hclosed, hnext.foreign foreign hforeign,
    hnext.finishSpared (by decide +kernel) (handle 3) false (by decide +kernel)⟩

end Store

end TransactionalTest
