import TransactionalTest.Context
import TransactionalTest.Proofs.Store

/-!
# The world, part by part

* `World.beginnings`, `World.endings` : the requests to managers that the chronicle holds;
* `World.Quiet` : nothing but reports and caches has changed;
* `World.Minted` : no manager knows an identifier that is still to be given out;
* `World.begin_cases` : what a begin does to the world.
-/

namespace TransactionalTest

/-! ### Requests in the chronicle -/

/-- A request to end a transaction, and its outcome. -/
structure Ending where
  manager : Manager
  status : Status
  rollback : Bool
  outcome : Except TransactionError Unit

/-- Which transaction of which manager was to be ended. -/
def Ending.transaction (e : Ending) : Manager × Status := (e.manager, e.status)

/-- The same by identifier. -/
def Ending.target (e : Ending) : Manager × TransactionId := (e.manager, e.status.id)

/-- The manager refused to end the transaction: it is not open there. -/
def TransactionError.isRefusal : TransactionError → Bool
  | alreadyCompleted _ | unknownTransaction _ => true
  | _ => false

/-- What a manager answered, if that is why the operation failed. -/
def LifecycleError.managerError? : LifecycleError → Option TransactionError
  | transactionStart _ e | transactionEnd _ e => some e
  | _ => none

namespace Occurrence

/-- The transaction that has begun, if the entry is a successful begin. -/
def beginning? : Occurrence → Option (Manager × Status)
  | begun m _ (.ok status) => some (m, status)
  | _ => none

/-- The request, if the entry is one to end a transaction. -/
def ending? : Occurrence → Option Ending
  | finished m status rollback r => some ⟨m, status, rollback, r⟩
  | _ => none

end Occurrence

namespace World

variable {α : Type} {u v w w' : World α}

/-- The transactions that have begun, oldest first. -/
def beginnings (w : World α) : List (Manager × Status) :=
  w.chronicle.filterMap Occurrence.beginning?

/-- The requests to end a transaction, oldest first. -/
def endings (w : World α) : List Ending := w.chronicle.filterMap Occurrence.ending?

theorem beginnings_record (o : Occurrence) (w : World α) :
    (w.record o).beginnings = w.beginnings ++ o.beginning?.toList := by
  cases h : o.beginning? <;> simp [beginnings, record, h]

theorem endings_record (o : Occurrence) (w : World α) :
    (w.record o).endings = w.endings ++ o.ending?.toList := by
  cases h : o.ending? <;> simp [endings, record, h]

/-! ### Bookkeeping -/

/-- Nothing has changed but that reports have been made and the caches remember more. -/
structure Quiet (w w' : World α) : Prop where
  registry : w'.registry = w.registry
  stores : w'.stores = w.stores
  beginCount : w'.beginCount = w.beginCount
  contexts : w'.contexts = w.contexts
  states : w'.states = w.states
  app : w'.app = w.app
  configured : ∀ k a, w.configurationCache.find? k = some a →
    w'.configurationCache.find? k = some a
  chronicle : ∃ es : List LogEvent, w'.chronicle = w.chronicle ++ es.map .reported

namespace Quiet

theorem refl (w : World α) : w.Quiet w :=
  ⟨rfl, rfl, rfl, rfl, rfl, rfl, fun _ _ h => h, [], by simp⟩

theorem trans (h : u.Quiet v) (h' : v.Quiet w) : u.Quiet w where
  registry := h'.registry.trans h.registry
  stores := h'.stores.trans h.stores
  beginCount := h'.beginCount.trans h.beginCount
  contexts := h'.contexts.trans h.contexts
  states := h'.states.trans h.states
  app := h'.app.trans h.app
  configured k a hk := h'.configured k a (h.configured k a hk)
  chronicle := by
    obtain ⟨es, he⟩ := h.chronicle
    obtain ⟨es', he'⟩ := h'.chronicle
    exact ⟨es ++ es', by rw [he', he, List.map_append, List.append_assoc]⟩

theorem report (event : LogEvent) (w : World α) : w.Quiet (w.report event) :=
  ⟨rfl, rfl, rfl, rfl, rfl, rfl, fun _ _ h => h, [event], rfl⟩

theorem hookCache (w : World α)
    (cache : Table (OwnerId × TestClass × HookPhase) (List HookMethod)) :
    w.Quiet { w with hookCache := cache } :=
  ⟨rfl, rfl, rfl, rfl, rfl, rfl, fun _ _ h => h, [], by simp⟩

theorem configurationCache {k : OwnerId × TestClass} {w : World α}
    (hk : w.configurationCache.find? k = none) (a : ConfigurationAttributes) :
    w.Quiet { w with configurationCache := w.configurationCache.insert k a } := by
  refine ⟨rfl, rfl, rfl, rfl, rfl, rfl, fun j b hj => ?_, [], by simp⟩
  have hne : j ≠ k := by
    rintro rfl
    cases hj.symm.trans hk
  exact (Table.find?_insert_of_ne hne ..).trans hj

theorem store (h : w.Quiet w') (m : Manager) : w'.store m = w.store m := by
  rw [World.store, World.store, h.stores]

theorem context? (h : w.Quiet w') (key : ExecutionKey) : w'.context? key = w.context? key := by
  rw [World.context?, World.context?, h.contexts]

theorem beginnings (h : w.Quiet w') : w'.beginnings = w.beginnings := by
  obtain ⟨es, he⟩ := h.chronicle
  have hes : (es.map Occurrence.reported).filterMap Occurrence.beginning? = [] := by
    simp [List.filterMap_eq_nil_iff, Occurrence.beginning?]
  rw [World.beginnings, he, List.filterMap_append, hes, List.append_nil, World.beginnings]

theorem endings (h : w.Quiet w') : w'.endings = w.endings := by
  obtain ⟨es, he⟩ := h.chronicle
  have hes : (es.map Occurrence.reported).filterMap Occurrence.ending? = [] := by
    simp [List.filterMap_eq_nil_iff, Occurrence.ending?]
  rw [World.endings, he, List.filterMap_append, hes, List.append_nil, World.endings]

end Quiet

/-! ### Identifiers -/

/-- No manager knows an identifier that is still to be given out.  So it is before the first
test, and every operation keeps it so (`Operation.minted_runAll`). -/
def Minted (w : World α) : Prop :=
  ∀ m n, w.beginCount < n → ¬ (w.store m).Knows (.serial n)

/-- The handle of the next transaction, if it begins with this attribute. -/
def nextHandle (a : Attribute) (w : World α) : Status := .ofAttribute (.serial (w.beginCount + 1)) a

theorem Minted.nextHandle (h : w.Minted) (m : Manager) (a : Attribute) :
    ¬ (w.store m).Knows (w.nextHandle a).id :=
  h m _ (Nat.lt_succ_self _)

theorem Minted.not_opened (h : w.Minted) (m : Manager) (a : Attribute) :
    (w.nextHandle a).id ∉ (w.store m).opened.keys := fun hk => h.nextHandle m a (.inl hk)

theorem Minted.not_completed (h : w.Minted) (m : Manager) (a : Attribute) :
    (w.nextHandle a).id ∉ (w.store m).completed := fun hk => h.nextHandle m a (.inr hk)

theorem Minted.congr (h : w.Minted) (hs : ∀ m id, (w'.store m).Knows id → (w.store m).Knows id)
    (hn : w.beginCount ≤ w'.beginCount) : w'.Minted :=
  fun m n hlt hk => h m n (Nat.lt_of_le_of_lt hn hlt) (hs m _ hk)

theorem Minted.quiet (h : w.Minted) (q : w.Quiet w') : w'.Minted :=
  h.congr (fun m id hk => by rwa [q.store] at hk) (Nat.le_of_eq q.beginCount.symm)

/-! ### Requests to managers -/

/-- The world after a manager has begun a transaction. -/
def opening (m : Manager) (a : Attribute) (w : World α) : World α :=
  let w' := (w.setStore m
    { w.store m with
      opened := (w.store m).opened.insert (w.nextHandle a).id ⟨a.name, []⟩
      events := (w.store m).events ++ [.began a.name a.readOnly] }).record
    (.begun m a (.ok (w.nextHandle a)))
  { w' with beginCount := w.beginCount + 1 }

/-- The world after a manager has refused to begin a transaction. -/
def refusing (m : Manager) (a : Attribute) (reason : String) (w : World α) : World α :=
  (w.setStore m { w.store m with beginFailure := none }).record
    (.begun m a (.error (.begin reason)))

/-- A manager refuses to begin when a failure is armed, and else opens a transaction under a new
identifier. -/
theorem begin_cases (m : Manager) (a : Attribute) (w : World α) :
    (∃ reason, w.begin m a = (.error (.begin reason), w.refusing m a reason)) ∨
      w.begin m a = (.ok (w.nextHandle a), w.opening m a) := by
  unfold begin
  rcases Store.begin_cases a (.serial (w.beginCount + 1)) (w.store m) with ⟨reason, h⟩ | h
  · exact .inl ⟨reason, by rw [h]; rfl⟩
  · exact .inr (by rw [h]; rfl)

theorem begin_of_unarmed {m : Manager} (h : (w.store m).beginFailure = none) (a : Attribute) :
    w.begin m a = (.ok (w.nextHandle a), w.opening m a) := by
  rw [begin, Store.begin_of_unarmed h]
  rfl

theorem begin_of_armed {m : Manager} {reason : String}
    (h : (w.store m).beginFailure = some reason) (a : Attribute) :
    w.begin m a = (.error (.begin reason), w.refusing m a reason) := by
  rw [begin, Store.begin_of_armed h]
  rfl

theorem store_opening_self (m : Manager) (a : Attribute) (w : World α) :
    (w.opening m a).store m = { w.store m with
      opened := (w.store m).opened.insert (w.nextHandle a).id ⟨a.name, []⟩
      events := (w.store m).events ++ [.began a.name a.readOnly] } :=
  store_setStore_self _ _ _

theorem store_opening_of_ne {m n : Manager} (h : n ≠ m) (a : Attribute) (w : World α) :
    (w.opening m a).store n = w.store n :=
  store_setStore_of_ne h _ _

theorem beginnings_opening (m : Manager) (a : Attribute) (w : World α) :
    (w.opening m a).beginnings = w.beginnings ++ [(m, w.nextHandle a)] :=
  beginnings_record _ _

theorem endings_opening (m : Manager) (a : Attribute) (w : World α) :
    (w.opening m a).endings = w.endings :=
  (endings_record _ _).trans (List.append_nil _)

theorem store_refusing_self (m : Manager) (a : Attribute) (reason : String) (w : World α) :
    (w.refusing m a reason).store m = { w.store m with beginFailure := none } :=
  store_setStore_self _ _ _

theorem store_refusing_of_ne {m n : Manager} (h : n ≠ m) (a : Attribute) (reason : String)
    (w : World α) : (w.refusing m a reason).store n = w.store n :=
  store_setStore_of_ne h _ _

theorem beginnings_refusing (m : Manager) (a : Attribute) (reason : String) (w : World α) :
    (w.refusing m a reason).beginnings = w.beginnings :=
  (beginnings_record _ _).trans (List.append_nil _)

theorem endings_refusing (m : Manager) (a : Attribute) (reason : String) (w : World α) :
    (w.refusing m a reason).endings = w.endings :=
  (endings_record _ _).trans (List.append_nil _)

theorem store_finish_self (m : Manager) (status : Status) (rollback : Bool) (w : World α) :
    (w.finish m status rollback).2.store m = ((w.store m).finish status rollback).2 :=
  store_setStore_self _ _ _

theorem store_finish_of_ne {m n : Manager} (h : n ≠ m) (status : Status) (rollback : Bool)
    (w : World α) : (w.finish m status rollback).2.store n = w.store n :=
  store_setStore_of_ne h _ _

theorem beginnings_finish (m : Manager) (status : Status) (rollback : Bool) (w : World α) :
    (w.finish m status rollback).2.beginnings = w.beginnings :=
  (beginnings_record _ _).trans (List.append_nil _)

theorem endings_finish (m : Manager) (status : Status) (rollback : Bool) (w : World α) :
    (w.finish m status rollback).2.endings =
      w.endings ++ [⟨m, status, rollback, (w.finish m status rollback).1⟩] :=
  endings_record _ _

/-! ### Requests give out new identifiers only -/

theorem Minted.setStore (h : w.Minted) {m : Manager} {s : Store}
    (hs : ∀ id, s.Knows id → (w.store m).Knows id) : (w.setStore m s).Minted := by
  refine h.congr (fun n id hk => ?_) (Nat.le_refl _)
  by_cases hn : n = m
  · subst hn
    rw [store_setStore_self] at hk
    exact hs id hk
  · rwa [store_setStore_of_ne hn] at hk

theorem Minted.refusing (h : w.Minted) (m : Manager) (a : Attribute) (reason : String) :
    (w.refusing m a reason).Minted := by
  have hset : (w.setStore m { w.store m with beginFailure := none }).Minted :=
    h.setStore fun _ hk => hk
  exact hset.congr (fun _ _ hk => hk) (Nat.le_refl _)

theorem Minted.opening (h : w.Minted) (m : Manager) (a : Attribute) :
    (w.opening m a).Minted := by
  intro n i hi hk
  have hold : ¬ (w.store n).Knows (.serial i) := h n i (Nat.lt_of_succ_lt hi)
  by_cases hn : n = m
  · subst hn
    rw [Store.Knows, Store.IsOpen, store_opening_self,
      Table.keys_insert_of_notMem (h.not_opened n a)] at hk
    rcases hk with hk | hk
    · rcases List.mem_append.1 hk with hk | hk
      · exact hold (.inl hk)
      · exact Nat.ne_of_gt hi (TransactionId.serial.inj (List.mem_singleton.1 hk))
    · exact hold (.inr hk)
  · rw [store_opening_of_ne hn] at hk
    exact hold hk

theorem Minted.finish (h : w.Minted) (m : Manager) (status : Status) (rollback : Bool) :
    (w.finish m status rollback).2.Minted :=
  (h.setStore fun _ hk => hk.of_finish).congr (fun _ _ hk => hk) (Nat.le_refl _)

theorem Minted.write (h : w.Minted) (m : Manager) (status : Status) (k v : String) :
    (w.write m status k v).2.Minted := by
  have hset : (w.setStore m ((w.store m).write status k v).2).Minted :=
    h.setStore fun _ hk => hk.of_write
  exact hset

end World

end TransactionalTest
