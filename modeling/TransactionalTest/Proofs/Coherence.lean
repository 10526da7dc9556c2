import Mathlib.Algebra.BigOperators.Group.Finset.Sigma
import Mathlib.Data.Finset.Card
import Mathlib.Data.List.Nodup
import TransactionalTest.Proofs.Ownership
import TransactionalTest.Proofs.Slots

/-!
# Slots, states and open transactions agree

With one controller on its own holder, and hooks that keep away from both, four stores that are
changed at different moments always say the same: the states of the controller, the slots of the
holder, the handles of the contexts and the open transactions of the managers.

* `Aloof` : hooks that may write, arm failures, record and use the application, but neither begin
  nor end transactions, nor touch the holder or the states;
* `Controller.Posted` : the state of a key is `active` if its slot is taken, and else `idle`;
* `Controller.Coherent` : the four stores agree;
* `Controller.coherent_runAll` : they do after every run.
-/

namespace TransactionalTest

variable {α : Type}

/-! ### Hooks that keep away -/

/-- No transaction has begun or ended in between, and holder and states are as they were. -/
structure Aloof (w w' : World α) : Prop extends SameSlots w w' where
  ledger : SameLedger w w'

theorem frame_aloof : World.Frame (Aloof : World α → World α → Prop) where
  refl w := ⟨.refl w, frame_sameLedger.refl w⟩
  trans h h' := ⟨h.toSameSlots.trans h'.toSameSlots, frame_sameLedger.trans h.ledger h'.ledger⟩
  quiet q := ⟨.quiet q, frame_sameLedger.quiet q⟩
  invoked key hook r w := ⟨⟨rfl, rfl⟩, frame_sameLedger.invoked key hook r w⟩

namespace Aloof

theorem write (m : Manager) (status : Status) (k v : String) (w : World α) :
    Aloof w (w.write m status k v).2 := ⟨⟨rfl, rfl⟩, World.ledger_write ..⟩

theorem failNextBegin (m : Manager) (reason : String) (w : World α) :
    Aloof w (w.failNextBegin m reason) := ⟨⟨rfl, rfl⟩, World.ledger_failNextBegin ..⟩

theorem failNextFinish (m : Manager) (reason : String) (w : World α) :
    Aloof w (w.failNextFinish m reason) := ⟨⟨rfl, rfl⟩, World.ledger_failNextFinish ..⟩

end Aloof

/-! ### States and slots -/

namespace Controller

variable {c : Controller} {t : TestRun α} {m : Manager} {a : Attribute} {w w' : World α}
  {key : ExecutionKey}

/-- The state of a key is `active` if its slot is taken, and else `idle`. -/
structure Posted (c : Controller) (w : World α) : Prop where
  /-- No key has two slots. -/
  keys : w.contexts.keys.Nodup
  state : ∀ key, c.state key w = if (w.context? key).isSome then .active else .idle

namespace Posted

theorem congr (h : c.Posted w) (hs : SameSlots w w') : c.Posted w' :=
  ⟨hs.contexts ▸ h.keys, fun key => by rw [state_congr hs.states, h.state, hs.context?]⟩

/-- A change of one key, after which its state agrees with its slot again. -/
theorem change (key : ExecutionKey) (h : c.Posted w) (hkeys : w'.contexts.keys.Nodup)
    (hother : ∀ j, j ≠ key → c.state j w' = c.state j w ∧ w'.context? j = w.context? j)
    (hself : c.state key w' = if (w'.context? key).isSome then .active else .idle) :
    c.Posted w' := by
  refine ⟨hkeys, fun j => ?_⟩
  by_cases hj : j = key
  · rw [hj, hself]
  · rw [(hother j hj).1, (hother j hj).2, h.state]

/-- A context whose slot is taken is replaced by another. -/
theorem setContext (h : c.Posted w) {x : Context} (hx : w.context? key = some x)
    (hs : SameSlots w w') (y : Context) : c.Posted (w'.setContext key y) := by
  have h' := h.congr hs
  -- the slot was taken and still is, so the state of its key need not change
  refine h'.change key (Table.nodup_keys_insert h'.keys ..)
    (fun j hj => ⟨rfl, World.context?_setContext_of_ne hj ..⟩) ?_
  rw [World.context?_setContext_self, show c.state key (w'.setContext key y) = c.state key w' from
    rfl, h'.state, hs.context?, hx]
  rfl

theorem withContext {ρ : Type} (h : c.Posted w)
    {f : Context → World α → Except LifecycleError ρ × Context × World α}
    (hf : ∀ x w, SameSlots w (f x w).2.2) : c.Posted (InTest.withContext key f w).2 := by
  cases hx : w.context? key with
  | none =>
    rw [InTest.withContext_of_none hx]
    exact h
  | some x =>
    rw [InTest.withContext_of_some hx]
    exact h.setContext hx (hf x w) _

theorem body (h : c.Posted w) (step : BodyStep) : c.Posted (step.run key w).2 := by
  cases step with
  | isActive => exact h
  | isFlaggedForRollback => exact h.withContext fun x w => .refl w
  | flagForRollback =>
    refine h.withContext fun x w => ?_
    split <;> exact .refl w
  | flagForCommit =>
    refine h.withContext fun x w => ?_
    split <;> exact .refl w
  | finish => exact h.withContext Context.sameSlots_finish
  | start => exact h.withContext Context.sameSlots_start
  | write k v =>
    refine h.congr ?_
    simp only [BodyStep.run, World.writeCurrent]
    split
    · exact .refl w
    · split
      · exact .refl w
      · exact (Aloof.write ..).toSameSlots
  | failNextBegin m reason => exact h.congr (Aloof.failNextBegin ..).toSameSlots
  | failNextFinish m reason => exact h.congr (Aloof.failNextFinish ..).toSameSlots

/-- The state of one key is set anew, so that it agrees with the slot of the key. -/
theorem setState (h : c.Posted w) {w₁ : World α} (q : w₁.Quiet w')
    (hkeys : w₁.contexts.keys.Nodup) (hstate : ∀ j, j ≠ key → c.state j w₁ = c.state j w)
    (hslot : ∀ j, j ≠ key → w₁.context? j = w.context? j) {s : LifecycleState}
    (hs : s = if (w₁.context? key).isSome then .active else .idle) :
    c.Posted (c.setState key s w') := by
  have hcontexts : (c.setState key s w').contexts = w₁.contexts := by
    rw [setState_eq]
    exact q.contexts
  have hcontext : ∀ j, (c.setState key s w').context? j = w₁.context? j := fun j => by
    rw [World.context?, hcontexts, World.context?]
  refine h.change key (hcontexts ▸ hkeys) (fun j hj => ⟨?_, ?_⟩) ?_
  · rw [state_setState_of_ne hj, state_congr q.states, hstate j hj]
  · rw [hcontext, hslot j hj]
  · rw [state_setState_self, hcontext, hs]

/-! ### The phases of a test -/

variable (ht : t.subject.Within Aloof)
include ht

theorem enter (h : c.Posted w) (hfree : w.context? t.key = none) (m : Manager) (a : Attribute) :
    c.Posted (c.enter t m a w).2 := by
  have hslots : t.subject.Within SameSlots := ht.mono fun _ _ ha => ha.toSameSlots
  have hidle : c.state t.key w = .idle := by
    rw [h.state, hfree]
    rfl
  have hreq : (c.requested t.key w).contexts = w.contexts := by
    rw [requested, setState_eq]
    rfl
  -- the other keys keep their states
  have hstate : ∀ j, j ≠ t.key →
      c.state j (c.setUp t m a (c.requested t.key w)).2 = c.state j w := by
    intro j hj
    rw [state_congr ((c.states_setUp t m a (c.requested t.key w)).trans
      (HookRunner.runBefore_within frame_aloof ht c.runner _).states), requested,
      state_setState_of_ne hj]
    rfl
  rcases enter_of_idle hidle (ht.mono fun _ _ hw => state_congr hw.states) m a with
    ⟨w₁, hset, he⟩ | ⟨e, w₁, hset, he⟩ <;> rw [he] <;> simp only [hset] at hstate ⊢
  · obtain ⟨x, hx⟩ := contexts_setUp_of_ok hslots (by rw [hset])
    rw [hset, hreq] at hx
    refine h.setState (.report _ w₁) ?_ hstate (fun j hj => ?_) ?_
    · exact hx ▸ Table.nodup_keys_insert h.keys x
    · exact (congrArg (Table.find? j) hx).trans (Table.find?_insert_of_ne hj ..)
    · rw [show w₁.context? t.key = some x from
        (congrArg (Table.find? t.key) hx).trans (Table.find?_insert_self ..)]
      rfl
  · have hx := contexts_setUp_of_error hslots (by rw [hset])
    rw [hset, hreq] at hx
    have hslot : ∀ j, w₁.context? j = w.context? j := fun j => congrArg (Table.find? j) hx
    refine h.setState (.report _ w₁) (hx ▸ h.keys) hstate (fun j _ => hslot j) ?_
    rw [hslot, hfree]
    rfl

theorem beforeTest (h : c.Posted w) : c.Posted (c.beforeTest t w).2 := by
  rcases c.beforeTest_cases t w with hq | ⟨m, a, w₁, hq, hfree, -, he⟩
  · exact h.congr (.quiet hq)
  · rw [he]
    exact (h.congr (.quiet hq)).enter ht ((hq.context? t.key).trans hfree) m a

theorem afterTest (h : c.Posted w) : c.Posted (c.afterTest t w).2 := by
  have hkeys : (taken t w).contexts.keys.Nodup := Table.nodup_keys_erase h.keys t.key
  have hgone : (taken t w).context? t.key = none := Table.find?_erase_self ..
  have hslot : ∀ j, j ≠ t.key → (taken t w).context? j = w.context? j := fun j hj =>
    Table.find?_erase_of_ne hj ..
  cases hx : w.context? t.key with
  | none =>
    rw [afterTest_of_none hx]
    dsimp only
    refine h.setState (.refl _) hkeys (fun _ _ => rfl) hslot ?_
    rw [hgone]
    rfl
  | some x =>
    have hs := (sameSlots_finishTaken t x (taken t w)).trans
      (HookRunner.runAfter_within frame_aloof ht c.runner _).toSameSlots
    have hactive : c.state t.key (c.runner.runAfter t (finishTaken t x (taken t w)).2).2 =
        .active := by
      rw [state_congr hs.states, show c.state t.key (taken t w) = c.state t.key w from rfl,
        h.state, hx]
      rfl
    -- the key is still active when the hooks are through, so `testFinished` is legal
    rw [afterTest_of_some hx]
    simp only [transition_of_next hactive
      (show LifecycleState.active.next? .testFinished = some .idle from rfl)]
    refine congr ?_ (.quiet (quiet_settle ..))
    refine h.setState (.report _ _) (hs.contexts ▸ hkeys) (fun j hj => ?_) (fun j hj => ?_) ?_
    · exact state_congr (w := taken t w) hs.states
    · exact (hs.context? j).trans (hslot j hj)
    · rw [hs.context?, hgone]
      rfl

end Posted

end Controller

/-! ### Four stores that agree -/

/-- The transaction that a context has a handle of. -/
def Context.transaction? (x : Context) : Option (Manager × TransactionId) :=
  x.status.map fun status => (x.manager, status.id)

namespace World

variable {w : World α} {key : ExecutionKey} {m : Manager} {id : TransactionId}

/-- The transaction that the context published for a key has a handle of. -/
def transaction? (key : ExecutionKey) (w : World α) : Option (Manager × TransactionId) :=
  (w.context? key).bind Context.transaction?

theorem transaction?_eq_some : w.transaction? key = some (m, id) ↔
    ∃ status, w.held key = some (m, status) ∧ status.id = id := by
  simp only [transaction?, held, Context.transaction?, Option.bind_eq_some_iff,
    Option.map_eq_some_iff, Prod.mk.injEq]
  constructor
  · rintro ⟨x, hx, status, hs, rfl, rfl⟩
    exact ⟨status, ⟨x, hx, status, hs, rfl, rfl⟩, rfl⟩
  · rintro ⟨status, ⟨x, hx, _, hs, rfl, rfl⟩, rfl⟩
    exact ⟨x, hx, _, hs, rfl, rfl⟩

/-- How many published contexts have a handle. -/
def handleCount (w : World α) : Nat := w.contexts.countP fun e => e.2.status.isSome

/-- How many published contexts have an active transaction. -/
def activeCount (w : World α) : Nat := w.contexts.countP fun e => e.2.isActive w

end World

namespace Controller

/-- States, slots, handles and open transactions agree. -/
structure Coherent (c : Controller) (w : World α) : Prop where
  not_pending : ∀ key, c.state key w ≠ .pending
  active_iff : ∀ key, c.state key w = .active ↔ (w.context? key).isSome = true
  /-- A published context has a handle if and only if the transaction of that handle is open. -/
  handle_iff : ∀ key x, w.context? key = some x →
    (x.status.isSome = true ↔
      ∃ status, x.status = some status ∧ (w.store x.manager).IsOpen status.id)
  /-- No two contexts have a handle of the same transaction. -/
  injective : ∀ key key' p, w.transaction? key = some p → w.transaction? key' = some p →
    key = key'
  /-- Every open transaction is that of a context. -/
  covered : ∀ m id, (w.store m).IsOpen id → ∃ key, w.transaction? key = some (m, id)
  /-- Finitely many managers have open transactions. -/
  finite : ∃ S : Finset Manager, ∀ m, (w.store m).openCount ≠ 0 → m ∈ S
  /-- Together the managers have as many open transactions as there are contexts with a handle,
  and these are the active ones. -/
  counted : ∀ S : Finset Manager, (∀ m, (w.store m).openCount ≠ 0 → m ∈ S) →
    ∑ m ∈ S, (w.store m).openCount = w.handleCount ∧ w.handleCount = w.activeCount

section

variable {c : Controller} {w : World α}

theorem isOpen_of_transaction? (h : w.ledger.Sound) {key : ExecutionKey} {m : Manager}
    {id : TransactionId} (hk : w.transaction? key = some (m, id)) : (w.store m).IsOpen id := by
  obtain ⟨status, hheld, rfl⟩ := World.transaction?_eq_some.1 hk
  exact (h.isOpen hheld).opened

theorem transaction?_injective (h : w.ledger.Sound) {key key' : ExecutionKey}
    {p : Manager × TransactionId} (hk : w.transaction? key = some p)
    (hk' : w.transaction? key' = some p) : key = key' := by
  obtain ⟨m, id⟩ := p
  obtain ⟨status, hheld, rfl⟩ := World.transaction?_eq_some.1 hk
  obtain ⟨status', hheld', hid⟩ := World.transaction?_eq_some.1 hk'
  exact h.unique key key' m status status' hheld hheld' hid.symm

theorem transaction?_of_isOpen (h : w.ledger.Sound) {m : Manager} {id : TransactionId}
    (hid : (w.store m).IsOpen id) : ∃ key, w.transaction? key = some (m, id) := by
  obtain ⟨key, status, hheld, rfl⟩ := h.opened_held m id hid
  exact ⟨key, World.transaction?_eq_some.2 ⟨status, hheld, rfl⟩⟩

/-- The transactions of the published contexts. -/
def transactions (w : World α) : List (Manager × TransactionId) :=
  w.contexts.filterMap fun e => e.2.transaction?

theorem mem_transactions (h : w.contexts.keys.Nodup) {p : Manager × TransactionId} :
    p ∈ transactions w ↔ ∃ key, w.transaction? key = some p := by
  simp only [transactions, List.mem_filterMap, World.transaction?, Option.bind_eq_some_iff]
  constructor
  · rintro ⟨⟨key, x⟩, he, hp⟩
    exact ⟨key, x, Table.find?_of_mem h he, hp⟩
  · rintro ⟨key, x, hx, hp⟩
    exact ⟨(key, x), Table.mem_of_find? hx, hp⟩

theorem nodup_transactions (h : w.ledger.Sound) (hkeys : w.contexts.keys.Nodup) :
    (transactions w).Nodup := by
  have hp : w.contexts.Pairwise fun e e' => e.1 ≠ e'.1 := List.pairwise_map.1 hkeys
  have htransaction : ∀ e ∈ w.contexts, ∀ p, e.2.transaction? = some p →
      w.transaction? e.1 = some p := by
    intro e he p hp
    rw [World.transaction?, World.context?, Table.find?_of_mem hkeys he]
    exact hp
  refine List.pairwise_filterMap.2 (hp.imp_of_mem fun he he' hne p hp p' hp' hpp => hne ?_)
  exact transaction?_injective h (htransaction _ he p hp) (htransaction _ he' p (hpp ▸ hp'))

/-- The open transactions are counted manager by manager and context by context. -/
theorem sum_openCount (h : w.ledger.Sound) (hkeys : w.contexts.keys.Nodup) {S : Finset Manager}
    (hS : ∀ m, (w.store m).openCount ≠ 0 → m ∈ S) :
    ∑ m ∈ S, (w.store m).openCount = w.handleCount := by
  have hopen : ∀ m id, (m, id) ∈ transactions w ↔ id ∈ (w.store m).opened.keys := fun m id =>
    (mem_transactions hkeys).trans
      ⟨fun ⟨_, hk⟩ => isOpen_of_transaction? h hk, transaction?_of_isOpen h⟩
  have hmem : ∀ m id, (m, id) ∈ transactions w → m ∈ S := by
    intro m id hp
    refine hS m ?_
    rw [Store.openCount_eq_length_keys]
    exact Nat.ne_of_gt (List.length_pos_of_mem ((hopen m id).1 hp))
  -- each manager's part of the transactions is what it has open
  have hpart : ∀ m, ((transactions w).toFinset.filter fun p => p.1 = m).card =
      (w.store m).openCount := by
    intro m
    have himage : (transactions w).toFinset.filter (fun p => p.1 = m) =
        (w.store m).opened.keys.toFinset.map ⟨Prod.mk m, Prod.mk_right_injective m⟩ := by
      ext ⟨n, id⟩
      simp only [Finset.mem_filter, List.mem_toFinset, Finset.mem_map,
        Function.Embedding.coeFn_mk, Prod.mk.injEq]
      constructor
      · rintro ⟨hp, rfl⟩
        exact ⟨id, (hopen n id).1 hp, rfl, rfl⟩
      · rintro ⟨_, hid, rfl, rfl⟩
        exact ⟨(hopen m _).2 hid, rfl⟩
    have hkeys : (w.store m).opened.keys.Nodup := (List.nodup_append.1 (h.nodup m)).1
    rw [himage, Finset.card_map, List.toFinset_card_of_nodup hkeys,
      Store.openCount_eq_length_keys]
  calc ∑ m ∈ S, (w.store m).openCount
      = ∑ m ∈ S, ((transactions w).toFinset.filter fun p => p.1 = m).card :=
        Finset.sum_congr rfl fun m _ => (hpart m).symm
    _ = (transactions w).toFinset.card :=
        (Finset.card_eq_sum_card_fiberwise fun p hp =>
          hmem p.1 p.2 (List.mem_toFinset.1 hp)).symm
    _ = (transactions w).length := List.toFinset_card_of_nodup (nodup_transactions h hkeys)
    _ = w.handleCount := by
        simp [transactions, World.handleCount, List.length_filterMap_eq_countP,
          Context.transaction?]

theorem mem_stores_of_openCount_ne_zero {m : Manager} (h : (w.store m).openCount ≠ 0) :
    m ∈ w.stores.keys.toFinset := by
  rw [List.mem_toFinset]
  by_contra hm
  refine h ?_
  rw [World.store, Table.find?_eq_none_iff.2 hm]
  rfl

/-- A context with a handle is active. -/
theorem handleCount_eq_activeCount (h : w.ledger.Sound) (hkeys : w.contexts.keys.Nodup) :
    w.handleCount = w.activeCount := by
  refine List.countP_congr fun e he => ?_
  have hx : w.context? e.1 = some e.2 := Table.find?_of_mem hkeys he
  rw [Context.isActive_iff, Option.isSome_iff_exists]
  constructor
  · rintro ⟨status, hs⟩
    exact ⟨status, hs, (h.isOpen (World.held_eq_some.2 ⟨e.2, hx, rfl, hs⟩)).running⟩
  · rintro ⟨status, hs, -⟩
    exact ⟨status, hs⟩

theorem coherent_of_posted (hp : c.Posted w) (h : w.ledger.Sound) : c.Coherent w := by
  constructor
  case not_pending =>
    intro key
    rw [hp.state]
    split <;> exact LifecycleState.noConfusion
  case active_iff =>
    intro key
    rw [hp.state]
    split <;> simp_all
  case handle_iff =>
    intro key x hx
    rw [Option.isSome_iff_exists]
    constructor
    · rintro ⟨status, hs⟩
      exact ⟨status, hs, (h.isOpen (World.held_eq_some.2 ⟨x, hx, rfl, hs⟩)).opened⟩
    · rintro ⟨status, hs, -⟩
      exact ⟨status, hs⟩
  case injective => exact fun key key' p => transaction?_injective h
  case covered => exact fun m id => transaction?_of_isOpen h
  case finite => exact ⟨w.stores.keys.toFinset, fun m => mem_stores_of_openCount_ne_zero⟩
  case counted =>
    exact fun S hS => ⟨sum_openCount h hp.keys hS, handleCount_eq_activeCount h hp.keys⟩

/-- One operation keeps states and slots in agreement. -/
theorem posted_run (h : c.Posted w) (op : Operation Unit (Aloof : World α → World α → Prop)) :
    c.Posted (op.run (fun _ => c) w).2 := by
  cases op with
  | before i t => exact h.beforeTest t.within
  | after i t => exact h.afterTest t.within
  | body key step => exact h.body step
  | stage m status k v => exact h.congr (Aloof.write ..).toSameSlots
  | register r =>
    refine h.congr ?_
    simp only [Operation.run, World.register]
    split
    · exact ⟨rfl, rfl⟩
    · exact .refl w
  | addSelector m => exact h.congr ⟨rfl, rfl⟩

/-- **States, slots, handles and open transactions agree after every run** of one controller on
its own holder, with hooks that keep away from both. -/
theorem coherent_runAll (hw : w.Unopened) (hidle : ∀ key, c.state key w = .idle)
    (ops : List (Operation Unit (Aloof : World α → World α → Prop))) :
    c.Coherent (Operation.runAll (fun _ => c) ops w) := by
  have hp : c.Posted w := by
    refine ⟨hw.contexts ▸ List.nodup_nil, fun key => ?_⟩
    rw [hidle, World.context?, hw.contexts]
    rfl
  exact coherent_of_posted
    (Operation.runAll_induction (P := c.Posted) (fun op _ h => posted_run h op) ops hp)
    (Operation.sound_runAll (fun _ _ ha => ha.ledger) _ ops hw.sound)

end

/-- The hook makes the end of the test's first transaction fail, and the test opens another. -/
theorem coherent_runAll_sample :
    Sample.controller.Coherent (Operation.runAll (fun _ => Sample.controller)
      [.before () ⟨Sample.run fun w => (.ok (), w.failNextFinish Sample.accounts "disk full"),
          Sample.run_within frame_aloof.refl fun _ => .failNextFinish ..⟩,
        .body (.thread 0) (.write "balance" "10"), .body (.thread 0) .finish,
        .body (.thread 0) .start]
      Sample.start) :=
  coherent_runAll Sample.unopened_start (fun _ => rfl) _

end Controller

end TransactionalTest
