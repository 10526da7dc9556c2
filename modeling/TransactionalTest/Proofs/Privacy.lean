import TransactionalTest.Proofs.Ownership
import TransactionalTest.Proofs.Remembered
import TransactionalTest.Proofs.Steps

/-!
# What one key sees

Registry, holder, states, caches and managers are shared by all keys.  A function of the world is
private to a key if it leaves what every other key sees as it is, and if its answer and what it
makes of its own key are decided by what that key sees.

* `View`, `Controller.view` : what a key sees of a world;
* `Controller.Calm` : the caches are right, no failure is armed, and handles are open;
* `Private` : a function that is private to a key, and `Private.bind`, two of them in a row;
* `Private.of_quiet`, `Private.of_onlyContext` : bookkeeping, and work on the context of the key.
-/

namespace TransactionalTest

variable {α β : Type}

/-! ### Views -/

/-- The handle without its identifier. -/
def Status.anonymous (s : Status) : Status := { s with id := .serial 0 }

/-- The context without the identifier of its transaction. -/
def Context.anonymous (x : Context) : Context := { x with status := x.status.map Status.anonymous }

/-- The hook and its answer, if the entry is the call of a hook for this key. -/
def Occurrence.callFor? (key : ExecutionKey) :
    Occurrence → Option (HookMethod × Except HookError Unit)
  | invoked j hook r => if j = key then some (hook, r) else none
  | _ => none

/-- The hooks that have been called for a key, oldest first, with their answers. -/
def World.callsFor (key : ExecutionKey) (w : World α) : List (HookMethod × Except HookError Unit) :=
  w.chronicle.filterMap (Occurrence.callFor? key)

/-- What a key sees: the registry, its state, its context, whether that is active, the hooks that
have been called for it, and its own part of the application. -/
structure View (β : Type) where
  registry : Registry
  state : LifecycleState
  context : Option Context
  active : Bool
  calls : List (HookMethod × Except HookError Unit)
  own : β

/-- What a key sees of a world; `own` picks its part of the application. -/
def Controller.view (c : Controller) (own : ExecutionKey → α → β) (key : ExecutionKey)
    (w : World α) : View β where
  registry := w.registry
  state := c.state key w
  context := (w.context? key).map Context.anonymous
  active := InTest.isActive key w
  calls := w.callsFor key
  own := own key w.app

/-! ### Calm worlds -/

namespace World

variable {w w' : World α} {m : Manager} {status : Status}

/-- No failure is armed. -/
structure Unarmed (w : World α) : Prop where
  beginFailure : ∀ m, (w.store m).beginFailure = none
  finishFailure : ∀ m, (w.store m).finishFailure = none

namespace Unarmed

theorem congr (h : w.Unarmed) (hs : ∀ m, w'.store m = w.store m) : w'.Unarmed :=
  ⟨fun m => hs m ▸ h.beginFailure m, fun m => hs m ▸ h.finishFailure m⟩

theorem setStore (h : w.Unarmed) {s : Store} (hb : s.beginFailure = none)
    (hf : s.finishFailure = none) : (w.setStore m s).Unarmed := by
  constructor <;> intro n <;> by_cases hn : n = m
  · rwa [hn, store_setStore_self]
  · rw [store_setStore_of_ne hn]
    exact h.beginFailure n
  · rwa [hn, store_setStore_self]
  · rw [store_setStore_of_ne hn]
    exact h.finishFailure n

theorem opening (h : w.Unarmed) (m : Manager) (a : Attribute) : (w.opening m a).Unarmed := by
  refine (h.setStore (m := m) (s := { w.store m with
    opened := (w.store m).opened.insert (w.nextHandle a).id ⟨a.name, []⟩
    events := (w.store m).events ++ [.began a.name a.readOnly] })
    (h.beginFailure m) (h.finishFailure m)).congr fun _ => rfl

theorem write (h : w.Unarmed) (m : Manager) (status : Status) (k v : String) :
    (w.write m status k v).2.Unarmed := by
  have hs : ((w.store m).write status k v).2.beginFailure = none ∧
      ((w.store m).write status k v).2.finishFailure = none := by
    rcases Store.write_cases status k v (w.store m) with ⟨e, hw⟩ | ⟨t, -, -, hw⟩ <;> rw [hw] <;>
      exact ⟨h.beginFailure m, h.finishFailure m⟩
  exact h.setStore hs.1 hs.2

/-- An open transaction is ended as asked. -/
theorem finish_fst (h : w.Unarmed) (ho : w.IsOpen m status) (rollback : Bool) :
    (w.finish m status rollback).1 = .ok () := by
  obtain ⟨t, ht⟩ := ho.released rollback
  rw [ht.outcome, h.finishFailure]

theorem finish (h : w.Unarmed) (ho : w.IsOpen m status) (rollback : Bool) :
    (w.finish m status rollback).2.Unarmed := by
  obtain ⟨t, ht⟩ := ho.released rollback
  rw [store_finish_self] at ht
  exact (h.setStore (m := m) (ht.beginFailure.trans (h.beginFailure m))
    ht.finishFailure).congr fun _ => rfl

end Unarmed

end World

namespace Controller

variable {c : Controller} {own : ExecutionKey → α → β} {key : ExecutionKey} {w w' : World α}

/-- The caches say what is declared, no failure is armed, and what a key holds is open. -/
structure Calm (c : Controller) (w : World α) : Prop where
  recalls : c.Recalls w
  unarmed : w.Unarmed
  secure : w.ledger.Secure

theorem Calm.quiet (h : c.Calm w) (q : w.Quiet w') (hr : c.Recalls w') : c.Calm w' :=
  ⟨hr, h.unarmed.congr q.store, q.ledger.symm ▸ h.secure⟩

theorem Calm.isOpen (h : c.Calm w) {x : Context} (hx : w.context? key = some x) {status : Status}
    (hs : x.status = some status) : w.IsOpen x.manager status :=
  h.secure.isOpen (World.held_eq_some.2 ⟨x, hx, rfl, hs⟩)

/-- In a calm world a published context is active if it has a handle. -/
theorem Calm.isActive (h : c.Calm w) {x : Context} (hx : w.context? key = some x) :
    x.isActive w = x.status.isSome :=
  h.secure.isActive hx

theorem Calm.isActive_key (h : c.Calm w) (key : ExecutionKey) : InTest.isActive key w =
    ((w.context? key).map Context.anonymous).any (·.status.isSome) := by
  unfold InTest.isActive
  cases hx : w.context? key with
  | none => rfl
  | some x => simp [h.isActive hx, Context.anonymous]

/-- In calm worlds, what a key sees of its context settles whether that is active. -/
theorem view_eq (h : c.Calm w) (h' : c.Calm w') (hr : w.registry = w'.registry)
    (hs : c.state key w = c.state key w')
    (hx : (w.context? key).map Context.anonymous = (w'.context? key).map Context.anonymous)
    (hc : w.callsFor key = w'.callsFor key) (ho : own key w.app = own key w'.app) :
    c.view own key w = c.view own key w' := by
  simp only [view, hr, hs, hx, hc, ho, h.isActive_key, h'.isActive_key]

end Controller

theorem World.Quiet.callsFor {w w' : World α} (q : w.Quiet w') (key : ExecutionKey) :
    w'.callsFor key = w.callsFor key := by
  obtain ⟨es, he⟩ := q.chronicle
  have hes : (es.map Occurrence.reported).filterMap (Occurrence.callFor? key) = [] := by
    simp [List.filterMap_eq_nil_iff, Occurrence.callFor?]
  rw [World.callsFor, he, List.filterMap_append, hes, List.append_nil, World.callsFor]

/-- Bookkeeping changes nothing that a key sees. -/
theorem World.Quiet.view {w w' : World α} (q : w.Quiet w') (c : Controller)
    (own : ExecutionKey → α → β) (key : ExecutionKey) :
    c.view own key w' = c.view own key w := by
  have hactive : InTest.isActive key w' = InTest.isActive key w := by
    simp only [InTest.isActive, q.context?, Context.isActive, q.store]
  simp only [Controller.view, q.registry, Controller.state_congr q.states, q.context?, hactive,
    q.callsFor, q.app]

/-! ### Private functions -/

/-- A function of the world that is private to a key, as long as the world is calm. -/
structure Private (c : Controller) (own : ExecutionKey → α → β) (key : ExecutionKey) {ρ : Type}
    (f : World α → ρ × World α) : Prop where
  calm : ∀ w, c.Calm w → c.Calm (f w).2
  /-- The other keys see nothing of it. -/
  apart : ∀ w j, c.Calm w → j ≠ key → c.view own j (f w).2 = c.view own j w
  /-- What the key sees settles the answer and what the key sees next. -/
  alike : ∀ w w', c.Calm w → c.Calm w' → c.view own key w = c.view own key w' →
    (f w).1 = (f w').1 ∧ c.view own key (f w).2 = c.view own key (f w').2

namespace Private

variable {c : Controller} {own : ExecutionKey → α → β} {key : ExecutionKey} {ρ σ : Type}
  {f : World α → ρ × World α}

/-- One after the other, the second chosen by the answer of the first. -/
theorem bind {g : ρ → World α → σ × World α} (hf : Private c own key f)
    (hg : ∀ r, Private c own key (g r)) : Private c own key fun w => g (f w).1 (f w).2 where
  calm w hw := (hg _).calm _ (hf.calm w hw)
  apart w j hw hj := ((hg _).apart _ j (hf.calm w hw) hj).trans (hf.apart w j hw hj)
  alike w w' hw hw' hv := by
    obtain ⟨hr, hv'⟩ := hf.alike w w' hw hw' hv
    rw [hr]
    exact (hg _).alike _ _ (hf.calm w hw) (hf.calm w' hw') hv'

theorem pure (r : ρ) : Private c own key fun w : World α => (r, w) where
  calm _ hw := hw
  apart _ _ _ _ := rfl
  alike _ _ _ _ hv := ⟨rfl, hv⟩

theorem composable : Composable fun _ f => Private c own key f where
  pure := pure
  bind := bind

/-- A look at what the key sees. -/
theorem look {g : World α → ρ} (h : ∀ w w', c.Calm w → c.Calm w' →
    c.view own key w = c.view own key w' → g w = g w') :
    Private c own key fun w => (g w, w) where
  calm _ hw := hw
  apart _ _ _ _ := rfl
  alike w w' hw hw' hv := ⟨h w w' hw hw' hv, hv⟩

/-- Bookkeeping, with an answer that is the same for equal views. -/
theorem of_quiet (hq : ∀ w : World α, w.Quiet (f w).2) (hr : ∀ w, c.Calm w → c.Recalls (f w).2)
    (ha : ∀ w w', c.Calm w → c.Calm w' → c.view own key w = c.view own key w' →
      (f w).1 = (f w').1) : Private c own key f where
  calm w hw := hw.quiet (hq w) (hr w hw)
  apart w j _ _ := (hq w).view c own j
  alike w w' hw hw' hv := ⟨ha w w' hw hw' hv,
    ((hq w).view c own key).trans (hv.trans ((hq w').view c own key).symm)⟩

theorem report (event : LogEvent) :
    Private c own key fun w : World α => ((), w.report event) :=
  of_quiet (World.Quiet.report event) (fun _ hw => hw.recalls.congr ⟨rfl, rfl⟩)
    fun _ _ _ _ _ => rfl

end Private

/-! ### Changes of one key -/

namespace Private

variable {c : Controller} {own : ExecutionKey → α → β} {key : ExecutionKey}

theorem invoked (hook : HookMethod) (r : Except HookError Unit) :
    Private c own key fun w : World α => ((), w.record (.invoked key hook r)) where
  calm w hw := ⟨hw.recalls.congr ⟨rfl, rfl⟩, hw.unarmed.congr fun _ => rfl,
    (frame_sameLedger.invoked key hook r w).symm ▸ hw.secure⟩
  apart w j hw hj := by
    have hcalls : (w.record (.invoked key hook r)).callsFor j = w.callsFor j := by
      simp [World.callsFor, World.record, Occurrence.callFor?, Ne.symm hj]
    simp only [Controller.view, hcalls]
    rfl
  alike w w' _ _ hv := by
    have hview : ∀ w : World α, c.view own key (w.record (.invoked key hook r)) =
        { c.view own key w with calls := w.callsFor key ++ [(hook, r)] } := fun w => by
      have hcalls : (w.record (.invoked key hook r)).callsFor key =
          w.callsFor key ++ [(hook, r)] := by
        simp [World.callsFor, World.record, Occurrence.callFor?]
      simp only [Controller.view, hcalls]
      rfl
    have hcalls : w.callsFor key = w'.callsFor key := congrArg View.calls hv
    rw [hview, hview, hv, hcalls]
    exact ⟨rfl, rfl⟩

theorem setState (s : LifecycleState) :
    Private c own key fun w : World α => ((), c.setState key s w) where
  calm w hw := by
    rw [Controller.setState_eq]
    exact ⟨hw.recalls.congr ⟨rfl, rfl⟩, hw.unarmed.congr fun _ => rfl, hw.secure⟩
  apart w j _ hj := by
    have hstate := Controller.state_setState_of_ne (c := c) hj s w
    rw [Controller.setState_eq] at hstate ⊢
    simp only [Controller.view, hstate]
    rfl
  alike w w' _ _ hv := by
    have hview : ∀ w : World α, c.view own key (c.setState key s w) =
        { c.view own key w with state := s } := fun w => by
      have hstate := Controller.state_setState_self c key s w
      rw [Controller.setState_eq] at hstate ⊢
      simp only [Controller.view, hstate]
      rfl
    rw [hview, hview, hv]
    exact ⟨rfl, rfl⟩

end Private

/-! ### Work on the context of a key -/

/-- Nothing that keys see has changed but the context of this key. -/
structure OnlyContext (key : ExecutionKey) (w w' : World α) : Prop extends SameCaches w w' where
  registry : w'.registry = w.registry
  states : w'.states = w.states
  app : w'.app = w.app
  callsFor : ∀ j, w'.callsFor j = w.callsFor j
  others : ∀ j, j ≠ key → w'.context? j = w.context? j

namespace OnlyContext

variable {key : ExecutionKey} {u v w w' : World α}

theorem refl (key : ExecutionKey) (w : World α) : OnlyContext key w w :=
  ⟨.refl w, rfl, rfl, rfl, fun _ => rfl, fun _ _ => rfl⟩

theorem trans (h : OnlyContext key u v) (h' : OnlyContext key v w) : OnlyContext key u w where
  toSameCaches := h.toSameCaches.trans h'.toSameCaches
  registry := h'.registry.trans h.registry
  states := h'.states.trans h.states
  app := h'.app.trans h.app
  callsFor j := (h'.callsFor j).trans (h.callsFor j)
  others j hj := (h'.others j hj).trans (h.others j hj)

/-- Bookkeeping does not count, if the caches are in the end as they were. -/
theorem of_caches (h : OnlyContext key u v) (q : v.Quiet w) (hc : SameCaches u w) :
    OnlyContext key u w where
  toSameCaches := hc
  registry := q.registry.trans h.registry
  states := q.states.trans h.states
  app := q.app.trans h.app
  callsFor j := (q.callsFor j).trans (h.callsFor j)
  others j hj := (q.context? j).trans (h.others j hj)

theorem setContext (key : ExecutionKey) (x : Context) (w : World α) :
    OnlyContext key w (w.setContext key x) :=
  ⟨⟨rfl, rfl⟩, rfl, rfl, rfl, fun _ => rfl, fun _ hj => World.context?_setContext_of_ne hj x w⟩

theorem refusing (m : Manager) (a : Attribute) (reason : String) (w : World α) :
    OnlyContext key w (w.refusing m a reason) :=
  ⟨⟨rfl, rfl⟩, rfl, rfl, rfl, fun j => by
    simp [World.callsFor, World.refusing, World.record, World.setStore, Occurrence.callFor?],
    fun _ _ => rfl⟩

theorem begunWorld (x : Context) (w : World α) : OnlyContext key w (x.begunWorld w) :=
  ⟨⟨rfl, rfl⟩, rfl, rfl, rfl, fun j => by
    simp [World.callsFor, Context.begunWorld, Context.reportOperation, World.report, World.opening,
      World.record, World.setStore, Occurrence.callFor?], fun _ _ => rfl⟩

theorem ending (x : Context) (status : Status) (w : World α) :
    OnlyContext key w (x.ending status w).2 :=
  ⟨⟨rfl, rfl⟩, rfl, rfl, rfl, fun j => by
    simp [World.callsFor, Context.ending, World.finish, World.report,
      World.record, World.setStore, Occurrence.callFor?], fun _ _ => rfl⟩

theorem finish (x : Context) (w : World α) : OnlyContext key w (x.finish w).2.2 := by
  have hcaches := x.sameCaches_finish w
  cases hs : x.status with
  | none =>
    rw [Context.finish_of_none hs]
    exact refl key w
  | some status =>
    obtain ⟨w', hq, h⟩ := Context.finish_of_some hs w
    rw [h] at hcaches ⊢
    exact (ending x status w).of_caches hq hcaches

theorem start (x : Context) (w : World α) : OnlyContext key w (x.start w).2.2 := by
  cases hs : x.status with
  | some status =>
    rw [Context.start_of_some hs]
    exact refl key w
  | none =>
    rcases Context.start_cases hs w with ⟨reason, h⟩ | h <;> rw [h]
    · exact refusing ..
    · exact begunWorld x w

theorem rollBackUnpublished (x : Context) (w : World α) :
    OnlyContext key w (Controller.rollBackUnpublished x w) := by
  by_cases ha : x.isActive w = true
  · obtain ⟨status, hs, hc⟩ := Context.isActive_iff.1 ha
    exact (ending _ status w).of_caches (Controller.quiet_rollBackUnpublished hs hc)
      (Controller.sameCaches_rollBackUnpublished x w)
  · rw [Controller.rollBackUnpublished, if_neg ha]
    exact refl key w

end OnlyContext

/-- A function that touches nothing but managers and the context of the key is private to the key,
if what it makes of the context is settled by what the key sees of it. -/
theorem Private.of_onlyContext {c : Controller} {own : ExecutionKey → α → β} {key : ExecutionKey}
    {ρ : Type} {f : World α → ρ × World α} {F : Option Context → ρ × Option Context}
    (honly : ∀ w, c.Calm w → OnlyContext key w (f w).2)
    (hunarmed : ∀ w, c.Calm w → (f w).2.Unarmed)
    (hsecure : ∀ w, c.Calm w → (f w).2.ledger.Secure)
    (hF : ∀ w, c.Calm w → ((f w).1, ((f w).2.context? key).map Context.anonymous) =
      F ((w.context? key).map Context.anonymous)) : Private c own key f := by
  have hcalm : ∀ w, c.Calm w → c.Calm (f w).2 := fun w hw =>
    ⟨hw.recalls.congr (honly w hw).toSameCaches, hunarmed w hw, hsecure w hw⟩
  refine ⟨hcalm, fun w j hw hj => ?_, fun w w' hw hw' hv => ?_⟩
  · have ho := honly w hw
    exact Controller.view_eq (hcalm w hw) hw ho.registry (Controller.state_congr ho.states)
      (by rw [ho.others j hj]) (ho.callsFor j) (by rw [ho.app])
  · have ho := honly w hw
    have ho' := honly w' hw'
    simp only [Controller.view, View.mk.injEq] at hv
    obtain ⟨hr, hs, hx, -, hc, happ⟩ := hv
    obtain ⟨hfst, hcontext⟩ := Prod.mk.inj ((hF w hw).trans (hx ▸ (hF w' hw').symm))
    refine ⟨hfst, Controller.view_eq (hcalm w hw) (hcalm w' hw') ?_ ?_ hcontext ?_ ?_⟩
    · rw [ho.registry, ho'.registry, hr]
    · rw [Controller.state_congr ho.states, Controller.state_congr ho'.states, hs]
    · rw [ho.callsFor, ho'.callsFor, hc]
    · rw [ho.app, ho'.app, happ]

end TransactionalTest
