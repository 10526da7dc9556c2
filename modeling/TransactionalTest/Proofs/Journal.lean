import Mathlib.Logic.Relation
import TransactionalTest.Proofs.Run
import TransactionalTest.Proofs.Steps

/-!
# The log and the records of the managers

Two components write down what becomes of transactions: a manager lists its own events, and a
context reports to the log.  They write at different moments, and only when a request has been
granted.  As long as managers are asked by contexts alone, the two records are the same history.

* `World.managerEvents` : what all managers did, oldest first;
* `World.boundaryReports` : the reports that transactions have started or ended;
* `LogEvent.Tells` : the report is about this event and says nothing wrong about it;
* `World.Agrees` : the reports tell of the events, one to one and in order, and the events are those
  that the managers have listed;
* `Deed`, `Through` : work that begins and ends transactions through contexts alone;
* `Deed.booked` : one deed writes the same into both records;
* `Controller.through_beforeTest`, `Controller.through_afterTest`, `BodyStep.through_run` : what the
  library does itself is such work, if the hooks are;
* `Operation.agrees_runAll` : the records agree after every run.
-/

namespace TransactionalTest

variable {α : Type}

/-! ### Two records of one history -/

namespace ManagerEvent

/-- The operation that the log names for the event. -/
def operation : ManagerEvent → String
  | began _ _ => Operation.transactionStarted
  | committed _ => Operation.transactionCommitted
  | rolledBack _ => Operation.transactionRolledBack

/-- The name of the transaction. -/
def transactionName? : ManagerEvent → Option String
  | began name _ | committed name | rolledBack name => name

/-- If a transaction has ended, whether it was rolled back. -/
def rollback? : ManagerEvent → Option Bool
  | began _ _ => none
  | committed _ => some false
  | rolledBack _ => some true

/-- The end of a transaction of this name. -/
def ended (name : Option String) (rollback : Bool) : ManagerEvent :=
  if rollback then rolledBack name else committed name

end ManagerEvent

/-- The report of an event is one of a start or an end. -/
theorem LogEvent.isBoundary_operation (e : ManagerEvent) (test : String)
    (manager : Option String) (rollback : Option Bool) (details : Option String) :
    (transaction e.operation test manager rollback details).isBoundary = true := by
  cases e <;> simp [isBoundary, ManagerEvent.operation]

/-- What a manager did, if the entry is a request that it has granted. -/
def Occurrence.managerEvent? : Occurrence → Option (Manager × ManagerEvent)
  | begun m a (.ok _) => some (m, .began a.name a.readOnly)
  | finished m status rollback (.ok _) => some (m, .ended status.name rollback)
  | _ => none

/-- The report names the operation of the event and the manager, says whether an ended transaction
was rolled back, and begins its details with the name of the transaction, if that has one. -/
def LogEvent.Tells (r : LogEvent) (e : Manager × ManagerEvent) : Prop :=
  ∃ test rollback details,
    r = .transaction e.2.operation test (some e.1.name) (some rollback) (some details) ∧
      (∀ b, e.2.rollback? = some b → rollback = b) ∧
      ∀ name, e.2.transactionName? = some name → ∃ rest, details = name ++ rest

namespace World

/-- What all managers did, oldest first. -/
def managerEvents (w : World α) : List (Manager × ManagerEvent) :=
  w.chronicle.filterMap Occurrence.managerEvent?

/-- What one manager did. -/
def eventsOf (m : Manager) (w : World α) : List ManagerEvent :=
  (w.managerEvents.filter fun e => e.1 = m).map Prod.snd

/-- The reports that a transaction has been started, committed or rolled back, oldest first. -/
def boundaryReports (w : World α) : List LogEvent := w.reports.filter LogEvent.isBoundary

/-- The reports tell, one to one and in order, of what all managers did; and that is for each
manager what it has listed itself. -/
structure Agrees (w : World α) : Prop where
  told : List.Forall₂ LogEvent.Tells w.boundaryReports w.managerEvents
  listed : ∀ m, w.eventsOf m = (w.store m).events

variable {w w' : World α}

theorem managerEvents_of_append {os : List Occurrence} (h : w'.chronicle = w.chronicle ++ os) :
    w'.managerEvents = w.managerEvents ++ os.filterMap Occurrence.managerEvent? := by
  rw [managerEvents, h, List.filterMap_append, managerEvents]

theorem boundaryReports_of_append {os : List Occurrence} (h : w'.chronicle = w.chronicle ++ os) :
    w'.boundaryReports =
      w.boundaryReports ++ (os.filterMap Occurrence.report?).filter LogEvent.isBoundary := by
  rw [boundaryReports, reports, h, List.filterMap_append, List.filter_append, boundaryReports,
    reports]

theorem beginnings_of_append {os : List Occurrence} (h : w'.chronicle = w.chronicle ++ os) :
    w'.beginnings = w.beginnings ++ os.filterMap Occurrence.beginning? := by
  rw [beginnings, h, List.filterMap_append, beginnings]

theorem chronicle_report (event : LogEvent) (w : World α) :
    (w.report event).chronicle = w.chronicle ++ [.reported event] :=
  rfl

theorem managerEvents_report (event : LogEvent) (w : World α) :
    (w.report event).managerEvents = w.managerEvents :=
  (managerEvents_of_append (chronicle_report event w)).trans (List.append_nil _)

theorem boundaryReports_report {event : LogEvent} (h : event.isBoundary = true) (w : World α) :
    (w.report event).boundaryReports = w.boundaryReports ++ [event] := by
  rw [boundaryReports_of_append (chronicle_report event w)]
  simp [Occurrence.report?, h]

theorem eventsOf_of_append {m : Manager} {e : ManagerEvent}
    (h : w'.managerEvents = w.managerEvents ++ [(m, e)]) (n : Manager) :
    w'.eventsOf n = w.eventsOf n ++ if m = n then [e] else [] := by
  rw [eventsOf, h, List.filter_append, List.map_append, ← eventsOf]
  split <;> simp [*]

end World

/-! ### Deeds -/

/-- The handle of the context is one that its manager has given out. -/
def Context.Sourced (x : Context) (w : World α) : Prop :=
  ∀ status, x.status = some status → (x.manager, status) ∈ w.beginnings

/-- So is that of every published context. -/
def World.Sourced (w : World α) : Prop :=
  ∀ key x, w.context? key = some x → x.Sourced w

/-- The entry is neither a request to a manager nor a report that a transaction has started or
ended. -/
def Occurrence.isAside : Occurrence → Bool
  | reported event => !event.isBoundary
  | invoked _ _ _ => true
  | begun _ _ _ | finished _ _ _ _ => false

/-- No transaction has begun or ended, nor has one been reported to; and no context has been
published with a handle that its manager has not given out. -/
structure Aside (w w' : World α) : Prop where
  sourced : w.Sourced → w'.Sourced
  events : ∀ m, (w'.store m).events = (w.store m).events
  /-- What is open was open before, under the same name. -/
  names : ∀ m id t, (w'.store m).opened.find? id = some t →
    ∃ t₀, (w.store m).opened.find? id = some t₀ ∧ t₀.name = t.name
  beginCount : w'.beginCount = w.beginCount
  chronicle : ∃ os, w'.chronicle = w.chronicle ++ os ∧ ∀ o ∈ os, o.isAside = true

/-- One thing that may be done when transactions are begun and ended by contexts alone. -/
inductive Deed : World α → World α → Prop
  | aside {w w' : World α} (h : Aside w w') : Deed w w'
  /-- A context without a handle starts a transaction. -/
  | start {w w' : World α} (x : Context) (fresh : x.status = none)
      (started : (x.start w).2.2 = w') : Deed w w'
  /-- A context ends its transaction. -/
  | finish {w w' : World α} (x : Context) (sourced : x.Sourced w)
      (finished : (x.finish w).2.2 = w') : Deed w w'

/-- Any number of such things, one after another.  Hooks of which no more is known than this may
drive controllers, steer transactions, and use contexts of their own. -/
def Through (w w' : World α) : Prop := w.Sourced → Relation.ReflTransGen Deed w w'

/-! ### Asides -/

theorem World.Sourced.congr {w w' : World α} (h : w.Sourced) (hc : w'.contexts = w.contexts)
    (hb : w.beginnings ⊆ w'.beginnings) : w'.Sourced := by
  intro key x hx status hs
  rw [World.context?, hc] at hx
  exact hb (h key x hx status hs)

namespace Aside

variable {u v w w' : World α}

theorem refl (w : World α) : Aside w w :=
  ⟨id, fun _ => rfl, fun _ _ t ht => ⟨t, ht, rfl⟩, rfl, [], (List.append_nil _).symm,
    List.forall_mem_nil _⟩

theorem trans (h : Aside u v) (h' : Aside v w) : Aside u w := by
  refine ⟨h'.sourced ∘ h.sourced, fun m => (h'.events m).trans (h.events m), fun m id t ht => ?_,
    h'.beginCount.trans h.beginCount, ?_⟩
  · obtain ⟨t₁, ht₁, hn₁⟩ := h'.names m id t ht
    obtain ⟨t₀, ht₀, hn₀⟩ := h.names m id t₁ ht₁
    exact ⟨t₀, ht₀, hn₀.trans hn₁⟩
  · obtain ⟨os, hos, ha⟩ := h.chronicle
    obtain ⟨os', hos', ha'⟩ := h'.chronicle
    refine ⟨os ++ os', by rw [hos', hos, List.append_assoc], fun o ho => ?_⟩
    exact (List.mem_append.1 ho).elim (ha o) (ha' o)

theorem beginnings (h : Aside w w') : w'.beginnings = w.beginnings := by
  obtain ⟨os, hos, ha⟩ := h.chronicle
  have hnone : os.filterMap Occurrence.beginning? = [] := by
    refine List.filterMap_eq_nil_iff.2 fun o ho => ?_
    have hside := ha o ho
    cases o with
    | begun => cases hside
    | _ => rfl
  rw [World.beginnings_of_append hos, hnone, List.append_nil]

theorem managerEvents (h : Aside w w') : w'.managerEvents = w.managerEvents := by
  obtain ⟨os, hos, ha⟩ := h.chronicle
  have hnone : os.filterMap Occurrence.managerEvent? = [] := by
    refine List.filterMap_eq_nil_iff.2 fun o ho => ?_
    have hside := ha o ho
    cases o with
    | begun | finished => cases hside
    | _ => rfl
  rw [World.managerEvents_of_append hos, hnone, List.append_nil]

theorem boundaryReports (h : Aside w w') : w'.boundaryReports = w.boundaryReports := by
  obtain ⟨os, hos, ha⟩ := h.chronicle
  have hnone : (os.filterMap Occurrence.report?).filter LogEvent.isBoundary = [] := by
    refine List.filter_eq_nil_iff.2 fun event he => ?_
    obtain ⟨o, ho, hr⟩ := List.mem_filterMap.1 he
    have hside := ha o ho
    cases o with
    | reported e =>
      cases hr
      simpa [Occurrence.isAside] using hside
    | _ => cases hr
  rw [World.boundaryReports_of_append hos, hnone, List.append_nil]

/-- A change of anything but the contexts, the stores and the chronicle. -/
theorem of_eq (hc : w'.contexts = w.contexts) (hs : w'.stores = w.stores)
    (hn : w'.beginCount = w.beginCount) (ho : w'.chronicle = w.chronicle) : Aside w w' := by
  have hstore : ∀ m, w'.store m = w.store m := fun m => by rw [World.store, World.store, hs]
  refine ⟨fun h => h.congr hc ?_, fun m => by rw [hstore], fun m id t ht => ?_, hn, [], ?_,
    List.forall_mem_nil _⟩
  · rw [World.beginnings, World.beginnings, ho]
    exact List.Subset.refl _
  · rw [hstore] at ht
    exact ⟨t, ht, rfl⟩
  · rw [ho, List.append_nil]

theorem record {o : Occurrence} (h : o.isAside = true) (w : World α) : Aside w (w.record o) := by
  refine ⟨fun hw => hw.congr rfl ?_, fun _ => rfl, fun _ _ t ht => ⟨t, ht, rfl⟩, rfl, [o], rfl, ?_⟩
  · rw [World.beginnings_record]
    exact List.subset_append_left _ _
  · intro o' ho'
    rwa [List.mem_singleton.1 ho']

theorem report {event : LogEvent} (h : event.isBoundary = false) (w : World α) :
    Aside w (w.report event) :=
  record (by simp [Occurrence.isAside, h]) w

theorem setStore {m : Manager} {s : Store} (he : s.events = (w.store m).events)
    (hn : ∀ id t, s.opened.find? id = some t →
      ∃ t₀, (w.store m).opened.find? id = some t₀ ∧ t₀.name = t.name) :
    Aside w (w.setStore m s) := by
  refine ⟨fun hw => hw.congr rfl (List.Subset.refl _), fun n => ?_, fun n id t ht => ?_, rfl, [],
    (List.append_nil _).symm, List.forall_mem_nil _⟩
  · by_cases h : n = m
    · subst h
      rw [World.store_setStore_self, he]
    · rw [World.store_setStore_of_ne h]
  · by_cases h : n = m
    · subst h
      rw [World.store_setStore_self] at ht
      exact hn id t ht
    · rw [World.store_setStore_of_ne h] at ht
      exact ⟨t, ht, rfl⟩

theorem write (m : Manager) (status : Status) (k v : String) (w : World α) :
    Aside w (w.write m status k v).2 := by
  unfold World.write
  rcases Store.write_cases status k v (w.store m) with ⟨e, h⟩ | ⟨t₀, -, ho, h⟩ <;> rw [h]
  · exact .setStore rfl fun id t ht => ⟨t, ht, rfl⟩
  · refine .setStore rfl fun id t ht => ?_
    rw [Table.find?_insert] at ht
    split at ht
    · rename_i hid
      cases ht
      exact ⟨t₀, hid ▸ ho, rfl⟩
    · exact ⟨t, ht, rfl⟩

theorem setContext {x : Context} (hx : x.Sourced w) (key : ExecutionKey) :
    Aside w (w.setContext key x) := by
  refine ⟨fun hw j y hy => ?_, fun _ => rfl, fun _ _ t ht => ⟨t, ht, rfl⟩, rfl, [],
    (List.append_nil _).symm, List.forall_mem_nil _⟩
  by_cases hj : j = key
  · subst hj
    rw [World.context?_setContext_self] at hy
    cases hy
    exact hx
  · rw [World.context?_setContext_of_ne hj] at hy
    exact hw j y hy

theorem take (key : ExecutionKey) (w : World α) : Aside w (w.take key).2 := by
  refine ⟨fun hw j y hy => ?_, fun _ => rfl, fun _ _ t ht => ⟨t, ht, rfl⟩, rfl, [],
    (List.append_nil _).symm, List.forall_mem_nil _⟩
  by_cases hj : j = key
  · subst hj
    rw [World.context?_take_self] at hy
    cases hy
  · rw [World.context?_take_of_ne hj] at hy
    exact hw j y hy

theorem setState (c : Controller) (key : ExecutionKey) (s : LifecycleState) (w : World α) :
    Aside w (c.setState key s w) := by
  rw [Controller.setState_eq]
  exact .of_eq rfl rfl rfl rfl

theorem resolve (r : ConfigurationResolver) (cls : TestClass) (w : World α) :
    Aside w (r.resolve cls w).2 := by
  unfold ConfigurationResolver.resolve
  split
  · exact .refl w
  · exact ((report rfl w).trans (.report rfl _)).trans (.of_eq rfl rfl rfl rfl)

theorem hooksFor (r : HookRunner) (cls : TestClass) (phase : HookPhase) (w : World α) :
    Aside w (r.hooksFor cls phase w).2 := by
  unfold HookRunner.hooksFor
  split
  · exact .refl w
  · exact (report rfl w).trans (.of_eq rfl rfl rfl rfl)

theorem lookup (strict : Bool) (test : String) (qualifier : Option String) (name : String)
    (w : World α) : Aside w (w.lookup strict test qualifier name).2 := by
  have hn : Aside w (w.managerByName name).2 := by
    unfold World.managerByName
    simp only
    split
    · exact .report rfl w
    · exact .refl w
  unfold World.lookup
  split
  · split
    · exact .refl w
    · exact .report rfl w
  · split <;> rename_i h <;> rw [h] at hn
    · exact hn
    · exact hn
    · split
      · exact hn
      · exact hn.trans (.report rfl _)

end Aside

/-! ### What the library does -/

namespace Context

variable {x : Context} {w : World α}

theorem sourced_of_none (h : x.status = none) (w : World α) : x.Sourced w := by
  intro status hs
  rw [h] at hs
  cases hs

theorem beginnings_begunWorld (x : Context) (w : World α) :
    (x.begunWorld w).beginnings = w.beginnings ++ [(x.manager, w.nextHandle x.intent)] :=
  (x.quiet_begunWorld w).beginnings.trans (World.beginnings_opening ..)

theorem sourced_begun (x : Context) (w : World α) : (x.begun w).Sourced (x.begunWorld w) := by
  intro status hs
  cases hs
  rw [beginnings_begunWorld]
  exact List.mem_append_right _ (List.mem_singleton_self _)

/-- Requests to managers are never forgotten. -/
theorem beginnings_start_subset (x : Context) (w : World α) :
    w.beginnings ⊆ (x.start w).2.2.beginnings := by
  cases hs : x.status with
  | some status =>
    rw [start_of_some hs]
    exact List.Subset.refl _
  | none =>
    rcases start_cases hs w with ⟨reason, h⟩ | h <;> rw [h]
    · rw [World.beginnings_refusing]
      exact List.Subset.refl _
    · rw [beginnings_begunWorld]
      exact List.subset_append_left _ _

theorem beginnings_finish (x : Context) (w : World α) :
    (x.finish w).2.2.beginnings = w.beginnings := by
  cases hs : x.status with
  | none => rw [finish_of_none hs]
  | some status =>
    obtain ⟨w', hq, h⟩ := finish_of_some hs w
    rw [h, hq.beginnings, ending, World.beginnings_finish]
    exact (World.Quiet.report _ w).beginnings

/-- A context that starts or ends its transaction keeps a handle that its manager has given out. -/
theorem Sourced.start (h : x.Sourced w) : (x.start w).2.1.Sourced (x.start w).2.2 := by
  cases hs : x.status with
  | some status =>
    rw [start_of_some hs]
    exact h
  | none =>
    rcases start_cases hs w with ⟨reason, hr⟩ | hr <;> rw [hr]
    · exact sourced_of_none hs _
    · exact sourced_begun x w

theorem sourced_finish (x : Context) (w : World α) :
    (x.finish w).2.1.Sourced (x.finish w).2.2 := by
  cases hs : x.status with
  | none =>
    rw [finish_of_none hs]
    exact sourced_of_none hs w
  | some status =>
    obtain ⟨w', -, h⟩ := finish_of_some hs w
    rw [h]
    exact sourced_of_none rfl w'

end Context

theorem Deed.sourced {w w' : World α} (h : Deed w w') (hw : w.Sourced) : w'.Sourced := by
  cases h with
  | aside h => exact h.sourced hw
  | start x fresh started =>
    subst started
    exact hw.congr (x.sameSlots_start w).contexts (x.beginnings_start_subset w)
  | finish x sourced finished =>
    subst finished
    refine hw.congr (x.sameSlots_finish w).contexts ?_
    rw [x.beginnings_finish]
    exact List.Subset.refl _

namespace Through

variable {u v w w' : World α} {x : Context}

theorem of_aside (h : Aside w w') : Through w w' := fun _ => .single (.aside h)

theorem refl (w : World α) : Through w w := fun _ => .refl

theorem trans (h : Through u v) (h' : Through v w) : Through u w := by
  intro hu
  have hv : v.Sourced := by
    have hdeeds := h hu
    clear h h'
    induction hdeeds with
    | refl => exact hu
    | tail _ deed ih => exact deed.sourced ih
  exact (h hu).trans (h' hv)

/-- A context in a slot is ended, or a context of one's own. -/
theorem finish (h : x.Sourced w) : Through w (x.finish w).2.2 := fun _ => .single (.finish x h rfl)

theorem start (x : Context) (w : World α) : Through w (x.start w).2.2 := by
  cases hs : x.status with
  | some status =>
    rw [Context.start_of_some hs]
    exact .refl w
  | none => exact fun _ => .single (.start x hs rfl)

theorem composable : Composable fun _ (f : World α → _ × World α) => ∀ w, Through w (f w).2 where
  pure _ := refl
  bind hf hg w := (hf w).trans (hg _ _)

theorem rollBackUnpublished (h : x.Sourced w) :
    Through w (Controller.rollBackUnpublished x w) := by
  have hfinish : Through w (Context.finish { x with flaggedForRollback := true } w).2.2 :=
    finish h
  unfold Controller.rollBackUnpublished
  split
  · split <;> rename_i hr <;> rw [hr] at hfinish
    · exact hfinish
    · exact hfinish.trans (of_aside (.report rfl _))
  · exact refl w

theorem publish (h : x.Sourced w) (key : ExecutionKey) :
    Through w (Controller.publish key x w).2 := by
  unfold Controller.publish World.tryPublish
  cases w.context? key with
  | none => exact of_aside (.setContext h key)
  | some y => exact rollBackUnpublished h

theorem launch (key : ExecutionKey) (hs : x.status = none) (w : World α) :
    Through w (Controller.launch key x w).2 := by
  have hstart := start x w
  have hx := (Context.sourced_of_none hs w).start
  unfold Controller.launch
  rcases h : x.start w with ⟨e | _, y, w₁⟩ <;> rw [h] at hstart hx
  · exact hstart
  · exact hstart.trans (publish hx key)

theorem endTaken (t : TestRun α) (w : World α) : Through w (Controller.endTaken t w).2 := by
  have htaken : Aside w (Controller.taken t w) :=
    (Aside.report rfl w).trans (.take t.key _)
  intro hw
  unfold Controller.endTaken
  cases hx : w.context? t.key with
  | none => exact of_aside htaken hw
  | some x =>
    -- the context comes from its slot, and is the only one that is ended
    have hsourced : x.Sourced (Controller.taken t w) := by
      intro status hs
      rw [htaken.beginnings]
      exact hw t.key x hx status hs
    have hended : Through (Controller.taken t w)
        (Controller.finishTaken t x (Controller.taken t w)).2 := by
      unfold Controller.finishTaken
      split
      · exact finish hsourced
      · exact of_aside (.report rfl _)
    exact (of_aside htaken).trans hended hw

end Through

namespace Controller

variable {t : TestRun α}

/-- The steps of the phases of a test begin and end transactions through contexts alone, if its
hooks do. -/
theorem through_steps (c : Controller) (ht : t.subject.Within Through) :
    c.Steps t fun _ f => ∀ w, Through w (f w).2 where
  toComposable := Through.composable
  report _ h w := .of_aside (.report h w)
  hook := ht
  invoked _ _ w := .of_aside (.record rfl w)
  hooksFor phase w := .of_aside (.hooksFor c.runner t.cls phase w)
  isRollback w := by
    have hresolve := Aside.resolve c.resolver t.cls w
    unfold isRollback
    cases t.cls.rollbackOf? t.method with
    | none => exact .of_aside (hresolve.trans (.report rfl _))
    | some rollback => exact .of_aside (hresolve.trans (.report rfl _))
  transactionManager qualifier w :=
    .of_aside ((Aside.resolve c.resolver t.cls w).trans (.lookup ..))
  isBusy := .refl
  state := .refl
  setState s w := .of_aside (.setState c t.key s w)
  launch _ hs := .launch t.key hs
  endTaken := .endTaken t

theorem through_beforeTest (c : Controller) (ht : t.subject.Within Through) (w : World α) :
    Through w (c.beforeTest t w).2 :=
  (c.through_steps ht).beforeTest w

theorem through_afterTest (c : Controller) (ht : t.subject.Within Through) (w : World α) :
    Through w (c.afterTest t w).2 :=
  (c.through_steps ht).afterTest w

end Controller

/-- Work on a published context is work through contexts, if it leaves the context with a handle that
its manager has given out. -/
theorem InTest.through_withContext {ρ : Type} {key : ExecutionKey}
    {f : Context → World α → Except LifecycleError ρ × Context × World α}
    (hf : ∀ x w, x.Sourced w → Through w (f x w).2.2 ∧ (f x w).2.1.Sourced (f x w).2.2)
    (w : World α) : Through w (withContext key f w).2 := by
  intro hw
  cases hx : w.context? key with
  | none => rw [withContext_of_none hx]
  | some x =>
    rw [withContext_of_some hx]
    obtain ⟨hthrough, hsourced⟩ := hf x w (hw key x hx)
    exact hthrough.trans (.of_aside (.setContext hsourced key)) hw

theorem BodyStep.through_run (key : ExecutionKey) (step : BodyStep) (w : World α) :
    Through w (step.run key w).2 := by
  cases step with
  | isActive => exact .refl w
  | isFlaggedForRollback =>
    exact InTest.through_withContext (fun x w hx => ⟨.refl w, hx⟩) w
  | flagForRollback | flagForCommit =>
    refine InTest.through_withContext (fun x w hx => ?_) w
    split <;> exact ⟨.refl w, hx⟩
  | finish =>
    exact InTest.through_withContext (fun x w hx => ⟨.finish hx, x.sourced_finish w⟩) w
  | start => exact InTest.through_withContext (fun x w hx => ⟨.start x w, hx.start⟩) w
  | write k v =>
    simp only [run, World.writeCurrent]
    split
    · exact .refl w
    · split
      · exact .refl w
      · exact .of_aside (.write ..)
  | failNextBegin m reason | failNextFinish m reason =>
    exact .of_aside (.setStore rfl fun _ t ht => ⟨t, ht, rfl⟩)

/-- Every operation of a run begins and ends transactions through contexts alone. -/
theorem Operation.through_run {ι : Type} (controllers : ι → Controller)
    (op : Operation ι (@Through α)) (w : World α) : Through w (op.run controllers w).2 := by
  cases op with
  | before i t => exact (controllers i).through_beforeTest t.within w
  | after i t => exact (controllers i).through_afterTest t.within w
  | body key step => exact step.through_run key w
  | stage m status k v => exact .of_aside (.write ..)
  | register r =>
    simp only [run, World.register]
    split
    · exact .of_aside ((Aside.report rfl w).trans (.of_eq rfl rfl rfl rfl))
    · exact .refl w
  | addSelector m => exact .of_aside (.of_eq rfl rfl rfl rfl)

/-! ### One deed -/

/-- The records agree; and a handle that has been given out bears the name under which its
transaction is open, and an identifier that will not be given out again. -/
structure World.Booked (w : World α) : Prop extends w.Agrees where
  serial : ∀ b ∈ w.beginnings, ∃ n ≤ w.beginCount, b.2.id = .serial n
  named : ∀ b ∈ w.beginnings, ∀ t, (w.store b.1).opened.find? b.2.id = some t → t.name = b.2.name

namespace World.Booked

variable {w w' : World α}

/-- A change that begins no transaction. -/
theorem of_agrees (h : w.Booked) (agrees : w'.Agrees)
    (names : ∀ m id t, (w'.store m).opened.find? id = some t →
      ∃ t₀, (w.store m).opened.find? id = some t₀ ∧ t₀.name = t.name)
    (beginCount : w'.beginCount = w.beginCount) (beginnings : w'.beginnings = w.beginnings) :
    w'.Booked := by
  refine { agrees with serial := ?_, named := ?_ }
  · rw [beginnings, beginCount]
    exact h.serial
  · rw [beginnings]
    intro b hb t ht
    obtain ⟨t₀, ht₀, hn⟩ := names b.1 b.2.id t ht
    exact hn ▸ h.named b hb t₀ ht₀

/-- A change that writes into neither record. -/
theorem agrees_of_unwritten (h : w.Booked)
    (events : ∀ m, (w'.store m).events = (w.store m).events)
    (managerEvents : w'.managerEvents = w.managerEvents)
    (boundaryReports : w'.boundaryReports = w.boundaryReports) : w'.Agrees := by
  refine ⟨?_, fun m => ?_⟩
  · rw [boundaryReports, managerEvents]
    exact h.told
  · rw [eventsOf, managerEvents, events]
    exact h.listed m

theorem aside (h : w.Booked) (ha : Aside w w') : w'.Booked :=
  h.of_agrees (h.agrees_of_unwritten ha.events ha.managerEvents ha.boundaryReports) ha.names
    ha.beginCount ha.beginnings

/-- A change that writes an event and its report. -/
theorem agrees_of_written (h : w.Booked) {m : Manager} {e : ManagerEvent} {r : LogEvent}
    (managerEvents : w'.managerEvents = w.managerEvents ++ [(m, e)])
    (boundaryReports : w'.boundaryReports = w.boundaryReports ++ [r]) (tells : r.Tells (m, e))
    (own : (w'.store m).events = (w.store m).events ++ [e])
    (others : ∀ n, n ≠ m → (w'.store n).events = (w.store n).events) : w'.Agrees := by
  refine ⟨?_, fun n => ?_⟩
  · rw [managerEvents, boundaryReports]
    exact List.rel_append h.told (.cons tells .nil)
  · rw [eventsOf_of_append managerEvents, h.listed]
    by_cases hn : m = n
    · subst hn
      rw [if_pos rfl, own]
    · rw [if_neg hn, List.append_nil, others n (Ne.symm hn)]

end World.Booked

/-- The text of a handle begins with the name of its transaction. -/
theorem Status.display_of_name {status : Status} {name : String} (h : status.name = some name) :
    ∃ rest, status.display = name ++ rest := by
  refine ⟨" (" ++ status.id.text ++ ")", ?_⟩
  simp [display, h, String.append_assoc]

/-- What the end of a transaction does to the records of a manager. -/
theorem Store.finish_records (status : Status) (rollback : Bool) (s : Store) :
    (∀ id t, (s.finish status rollback).2.opened.find? id = some t →
        s.opened.find? id = some t) ∧
      ((∃ e, (s.finish status rollback).1 = .error e ∧
          (s.finish status rollback).2.events = s.events) ∨
        ∃ t, s.opened.find? status.id = some t ∧ (s.finish status rollback).1 = .ok () ∧
          (s.finish status rollback).2.events = s.events ++ [.ended t.name rollback]) := by
  rcases s.refused_or_open status.id with ⟨e, he⟩ | ⟨hc, t, ht⟩
  · rw [finish_of_refused he]
    exact ⟨fun _ _ ht => ht, .inl ⟨e, rfl, rfl⟩⟩
  · have hr := finish_released hc ht rollback
    refine ⟨fun id t' ht' => ?_, ?_⟩
    · by_cases hid : id = status.id
      · rw [hr.opened, hid, Table.find?_erase_self] at ht'
        cases ht'
      · rwa [hr.opened, Table.find?_erase_of_ne hid] at ht'
    · rcases hout : (s.finish status rollback).1 with e | _
      · refine .inl ⟨e, rfl, ?_⟩
        rw [hr.events, hout]
        exact List.append_nil _
      · refine .inr ⟨t, ht, rfl, ?_⟩
        rw [hr.events, hout]
        rfl

namespace Context

variable {x : Context} {w : World α} {status : Status}

theorem chronicle_opening (x : Context) (w : World α) :
    (w.opening x.manager x.intent).chronicle =
      w.chronicle ++ [.begun x.manager x.intent (.ok (w.nextHandle x.intent))] :=
  rfl

theorem managerEvents_begunWorld (x : Context) (w : World α) : (x.begunWorld w).managerEvents =
    w.managerEvents ++ [(x.manager, .began x.intent.name x.intent.readOnly)] :=
  (World.managerEvents_report ..).trans (World.managerEvents_of_append (x.chronicle_opening w))

theorem boundaryReports_begunWorld (x : Context) (w : World α) : (x.begunWorld w).boundaryReports =
    w.boundaryReports ++ [.transaction Operation.transactionStarted x.testName x.manager.name
      x.flaggedForRollback (w.nextHandle x.intent).display] := by
  have hreports := World.boundaryReports_report
    (LogEvent.isBoundary_operation (.began none false) x.testName (some x.manager.name)
      (some x.flaggedForRollback) (some (w.nextHandle x.intent).display))
    (w.opening x.manager x.intent)
  have hsilent : (w.opening x.manager x.intent).boundaryReports = w.boundaryReports :=
    (World.boundaryReports_of_append (x.chronicle_opening w)).trans (List.append_nil _)
  rwa [hsilent] at hreports

theorem store_begunWorld_of_ne (x : Context) {m : Manager} (hm : m ≠ x.manager) (w : World α) :
    (x.begunWorld w).store m = w.store m :=
  ((x.quiet_begunWorld w).store m).trans (World.store_opening_of_ne hm ..)

/-- A begin that is granted writes an event, and the context reports it. -/
theorem agrees_begunWorld (h : w.Booked) (x : Context) : (x.begunWorld w).Agrees := by
  refine h.agrees_of_written (x.managerEvents_begunWorld w) (x.boundaryReports_begunWorld w) ?_ ?_
    fun n hn => congrArg Store.events (x.store_begunWorld_of_ne hn w)
  · exact ⟨_, _, _, rfl, nofun, fun name hname => Status.display_of_name hname⟩
  · rw [store_begunWorld_self]

/-- The new handle is told apart from all older ones. -/
theorem booked_begunWorld (h : w.Booked) (x : Context) : (x.begunWorld w).Booked := by
  have hnew : ∀ b ∈ w.beginnings, b.2.id ≠ (w.nextHandle x.intent).id := by
    intro b hb heq
    obtain ⟨n, hn, hid⟩ := h.serial b hb
    have hserial := TransactionId.serial.inj (hid.symm.trans heq)
    omega
  refine { agrees_begunWorld h x with serial := ?_, named := ?_ }
  · rw [beginnings_begunWorld]
    intro b hb
    rcases List.mem_append.1 hb with hb | hb
    · obtain ⟨n, hn, hid⟩ := h.serial b hb
      exact ⟨n, Nat.le_succ_of_le hn, hid⟩
    · rw [List.mem_singleton.1 hb]
      exact ⟨w.beginCount + 1, Nat.le_refl _, rfl⟩
  · rw [beginnings_begunWorld]
    intro b hb t ht
    rcases List.mem_append.1 hb with hb | hb
    · -- an older transaction has another identifier
      by_cases hm : b.1 = x.manager
      · rw [hm, store_begunWorld_self, Table.find?_insert_of_ne (hnew b hb), ← hm] at ht
        exact h.named b hb t ht
      · rw [store_begunWorld_of_ne x hm] at ht
        exact h.named b hb t ht
    · rw [List.mem_singleton.1 hb] at ht ⊢
      rw [store_begunWorld_self, Table.find?_insert_self] at ht
      cases ht
      rfl

/-- A begin that is refused writes nothing. -/
theorem booked_refusing (h : w.Booked) (m : Manager) (a : Attribute) (reason : String) :
    (w.refusing m a reason).Booked := by
  have hchronicle : (w.refusing m a reason).chronicle =
      w.chronicle ++ [.begun m a (.error (.begin reason))] := rfl
  have hstore : ∀ n, ((w.refusing m a reason).store n).events = (w.store n).events ∧
      ((w.refusing m a reason).store n).opened = (w.store n).opened := by
    intro n
    by_cases hn : n = m
    · subst hn
      rw [World.store_refusing_self]
      exact ⟨rfl, rfl⟩
    · rw [World.store_refusing_of_ne hn]
      exact ⟨rfl, rfl⟩
  have hagrees := h.agrees_of_unwritten (fun n => (hstore n).1)
    ((World.managerEvents_of_append hchronicle).trans (List.append_nil _))
    ((World.boundaryReports_of_append hchronicle).trans (List.append_nil _))
  refine h.of_agrees hagrees (fun n id t ht => ?_) rfl (World.beginnings_refusing ..)
  rw [(hstore n).2] at ht
  exact ⟨t, ht, rfl⟩

/-- An end is reported if the manager has granted it. -/
theorem finish_snd (hs : x.status = some status) (w : World α) :
    (x.finish w).2.2 = match (x.ending status w).1 with
      | .ok () => x.reportOperation (if x.flaggedForRollback then Operation.transactionRolledBack
          else Operation.transactionCommitted) status (x.ending status w).2
      | .error _ => (x.ending status w).2 := by
  unfold finish ending
  simp only [hs]
  rcases World.finish x.manager status x.flaggedForRollback _ with ⟨_ | _, _⟩ <;> rfl

theorem chronicle_ending (x : Context) (status : Status) (w : World α) :
    (x.ending status w).2.chronicle = w.chronicle ++
      [.reported (.transactionEnding status x.testName x.flaggedForRollback),
        .finished x.manager status x.flaggedForRollback (x.ending status w).1] :=
  List.append_assoc ..

theorem managerEvents_ending (x : Context) (status : Status) (w : World α) :
    (x.ending status w).2.managerEvents = w.managerEvents ++ (Occurrence.finished x.manager status
      x.flaggedForRollback (x.ending status w).1).managerEvent?.toList := by
  rw [World.managerEvents_of_append (x.chronicle_ending status w)]
  rcases (x.ending status w).1 with _ | _ <;> rfl

/-- The report that an end is asked for is none of its being granted. -/
theorem boundaryReports_ending (x : Context) (status : Status) (w : World α) :
    (x.ending status w).2.boundaryReports = w.boundaryReports :=
  (World.boundaryReports_of_append (x.chronicle_ending status w)).trans (List.append_nil _)

theorem store_ending_of_ne (x : Context) {m : Manager} (hm : m ≠ x.manager) (status : Status)
    (w : World α) : (x.ending status w).2.store m = w.store m :=
  World.store_finish_of_ne hm ..

/-- An end that the manager refuses or fails writes nothing. -/
theorem agrees_ending_of_error (h : w.Booked) (x : Context) {e : TransactionError}
    (he : (x.ending status w).1 = .error e)
    (hevents : ((x.ending status w).2.store x.manager).events = (w.store x.manager).events) :
    (x.ending status w).2.Agrees := by
  have hlisted := x.managerEvents_ending status w
  rw [he] at hlisted
  refine h.agrees_of_unwritten (fun n => ?_) (hlisted.trans (List.append_nil _))
    (x.boundaryReports_ending status w)
  by_cases hn : n = x.manager
  · subst hn
    exact hevents
  · rw [store_ending_of_ne x hn]

/-- An end that is granted writes an event, and the context reports it. -/
theorem agrees_ending_of_ok (h : w.Booked) (x : Context)
    (hok : (x.ending status w).1 = .ok ())
    (hevents : ((x.ending status w).2.store x.manager).events =
      (w.store x.manager).events ++ [.ended status.name x.flaggedForRollback]) :
    (x.reportOperation (if x.flaggedForRollback then Operation.transactionRolledBack
      else Operation.transactionCommitted) status (x.ending status w).2).Agrees := by
  have hoperation : (if x.flaggedForRollback then Operation.transactionRolledBack
      else Operation.transactionCommitted) =
        (ManagerEvent.ended status.name x.flaggedForRollback).operation := by
    cases x.flaggedForRollback <;> rfl
  have hlisted := x.managerEvents_ending status w
  rw [hok] at hlisted
  have hreports := World.boundaryReports_report
    (LogEvent.isBoundary_operation (.ended status.name x.flaggedForRollback) x.testName
      (some x.manager.name) (some x.flaggedForRollback) (some status.display))
    (x.ending status w).2
  rw [x.boundaryReports_ending status w] at hreports
  rw [hoperation]
  refine h.agrees_of_written ((World.managerEvents_report ..).trans hlisted) hreports ?_ hevents
    fun n hn => congrArg Store.events (store_ending_of_ne x hn status w)
  refine ⟨_, _, _, rfl, fun b hb => ?_, fun name hname => ?_⟩
  · cases hf : x.flaggedForRollback <;> rw [hf] at hb <;> cases hb <;> rfl
  · refine Status.display_of_name ?_
    cases hf : x.flaggedForRollback <;> rw [hf] at hname <;> exact hname

/-- The end of a context's transaction writes the same into both records. -/
theorem booked_finish (h : w.Booked) (hx : x.Sourced w) : (x.finish w).2.2.Booked := by
  cases hs : x.status with
  | none =>
    rw [finish_of_none hs]
    exact h
  | some status =>
    obtain ⟨hopened, hevents⟩ :=
      Store.finish_records status x.flaggedForRollback (w.store x.manager)
    rw [← store_ending_self x status w] at hopened hevents
    have hnames : ∀ m id t, ((x.ending status w).2.store m).opened.find? id = some t →
        ∃ t₀, (w.store m).opened.find? id = some t₀ ∧ t₀.name = t.name := by
      intro m id t ht
      by_cases hm : m = x.manager
      · subst hm
        exact ⟨t, hopened id t ht, rfl⟩
      · rw [store_ending_of_ne x hm] at ht
        exact ⟨t, ht, rfl⟩
    have hbeginnings := x.beginnings_finish w
    rw [finish_snd hs] at hbeginnings ⊢
    rcases hevents with ⟨e, he, hsame⟩ | ⟨t, ht, hok, hnew⟩
    · have hanswer : (x.ending status w).1 = .error e := he
      rw [hanswer] at hbeginnings ⊢
      exact h.of_agrees (agrees_ending_of_error h x hanswer hsame) hnames rfl hbeginnings
    · have hanswer : (x.ending status w).1 = .ok () := hok
      have hname : t.name = status.name := h.named (x.manager, status) (hx status hs) t ht
      rw [hname] at hnew
      rw [hanswer] at hbeginnings ⊢
      exact h.of_agrees (agrees_ending_of_ok h x hanswer hnew) hnames rfl hbeginnings

end Context

/-- **One deed writes the same into both records.** -/
theorem Deed.booked {w w' : World α} (hd : Deed w w') (h : w.Booked) : w'.Booked := by
  cases hd with
  | aside ha => exact h.aside ha
  | start x fresh started =>
    subst started
    rcases Context.start_cases fresh w with ⟨reason, hr⟩ | hr <;> rw [hr]
    · exact Context.booked_refusing h ..
    · exact Context.booked_begunWorld h x
  | finish x sourced finished =>
    subst finished
    exact Context.booked_finish h sourced

/-! ### Runs -/

/-- Nothing has been written down, and no context is published. -/
structure World.Unwritten (w : World α) : Prop where
  contexts : w.contexts = []
  chronicle : w.chronicle = []
  events : ∀ m, (w.store m).events = []

namespace World.Unwritten

variable {w : World α}

theorem sourced (h : w.Unwritten) : w.Sourced := by
  intro key x hx
  rw [context?, h.contexts] at hx
  cases hx

theorem booked (h : w.Unwritten) : w.Booked := by
  have hnone : w.beginnings = [] := by rw [beginnings, h.chronicle]; rfl
  refine ⟨⟨?_, fun m => ?_⟩, ?_, ?_⟩
  · rw [boundaryReports, reports, managerEvents, h.chronicle]
    exact .nil
  · rw [eventsOf, managerEvents, h.chronicle, h.events]
    rfl
  · rw [hnone]
    exact List.forall_mem_nil _
  · rw [hnone]
    exact List.forall_mem_nil _

end World.Unwritten

/-- Work that begins and ends transactions through contexts alone leaves records that agree. -/
theorem Through.booked {w w' : World α} (ht : Through w w') (hs : w.Sourced) (h : w.Booked) :
    w'.Sourced ∧ w'.Booked := by
  have hdeeds := ht hs
  clear ht
  induction hdeeds with
  | refl => exact ⟨hs, h⟩
  | tail _ deed ih => exact ⟨deed.sourced ih.1, deed.booked ih.2⟩

/-- **The transaction log and the records of the managers agree.**  Before the first test nothing is
written down.  After any run of the phases of tests, on any controllers and keys, of steps of test
bodies and of failures of managers, with hooks that begin and end transactions through contexts
alone: the reports of the log that a transaction has been started, committed or rolled back tell,
one to one and in order, of what the managers did; each names the manager, says of an end whether
it was a rollback, and begins its details with the name of the transaction; and what the managers
did is, for each of them, the list of events that it keeps itself.  A begin or an end that a manager
refuses is in neither record. -/
theorem Operation.agrees_runAll {ι : Type} (controllers : ι → Controller) {w : World α}
    (h : w.Unwritten) (ops : List (Operation ι (@Through α))) :
    (runAll controllers ops w).Agrees := by
  have hrun : (runAll controllers ops w).Sourced ∧ (runAll controllers ops w).Booked := by
    refine runAll_induction (P := fun w => w.Sourced ∧ w.Booked) ?_ ops ⟨h.sourced, h.booked⟩
    rintro op v ⟨hs, hb⟩
    exact (op.through_run controllers v).booked hs hb
  exact hrun.2.toAgrees

namespace Sample

/-- A hook that does its work in a transaction of its own. -/
def audit : HookBody Unit := fun w =>
  let x : Context := { testName := "Audit", manager := accounts, intent := {},
                       flaggedForRollback := false }
  let (_, x, w) := x.start w
  let (_, _, w) := x.finish w
  (.ok (), w)

theorem through_audit (w : World Unit) : Through w (audit w).2 := by
  let x : Context := { testName := "Audit", manager := accounts, intent := {},
                       flaggedForRollback := false }
  have hfresh : x.Sourced w := Context.sourced_of_none rfl w
  exact (Through.start x w).trans (.finish hfresh.start)

/-- The test, with this hook. -/
def auditingRun : GuardedRun (@Through Unit) where
  toTestRun := run audit
  within := run_within .refl through_audit

theorem unwritten_start : start.Unwritten where
  contexts := rfl
  chronicle := rfl
  events _ := rfl

end Sample

/-- The body of the test ends its transaction and starts another one, which the manager refuses at
first; and the end of that one, after the test, fails. -/
theorem Operation.agrees_runAll_refused :
    let key := ExecutionKey.thread 0
    let ops : List (Operation Bool (@Through Unit)) :=
      [.before false Sample.auditingRun, .body key .finish,
        .body key (.failNextBegin Sample.accounts "pool exhausted"), .body key .start,
        .body key .start, .body key (.failNextFinish Sample.accounts "disk full"),
        .after false Sample.auditingRun]
    let v := runAll Sample.pair ops Sample.start
    let name := some "AccountTest.transfer"
    v.Agrees ∧ v.boundaryReports.length = 5 ∧ v.eventsOf Sample.accounts =
      [.began none false, .committed none, .began name false, .rolledBack name,
        .began name false] := by
  intro key ops v name
  exact ⟨agrees_runAll Sample.pair Sample.unwritten_start ops, by decide +kernel, by decide +kernel⟩

end TransactionalTest
