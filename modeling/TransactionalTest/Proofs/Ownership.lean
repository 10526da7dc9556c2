import TransactionalTest.Proofs.Ledger
import TransactionalTest.Proofs.Run

/-!
# Who owns the open transactions

The ledger of a world, and every operation of a run as one move of it.

* `World.ledger` : what a world says about the life of handles;
* `SameLedger` : hooks that neither begin nor end a transaction and leave every handle where it
  is;
* `Operation.move` : an operation on a key is one move on that key;
* `Operation.ledger_runAll` : what every move keeps of a sound ledger, a run keeps.
-/

namespace TransactionalTest

open Function

variable {α : Type}

namespace World

variable {w w' : World α} {key : ExecutionKey} {m : Manager} {status : Status}

/-- The transaction whose handle the context of a key has. -/
def held (key : ExecutionKey) (w : World α) : Option (Manager × Status) :=
  (w.context? key).bind fun x => x.status.map fun status => (x.manager, status)

/-- What the world says about the life of handles. -/
def ledger (w : World α) : Ledger where
  held key := w.held key
  opened m := (w.store m).opened.keys
  completed m := (w.store m).completed
  minted := w.beginCount
  beginnings := w.beginnings
  endings := w.endings

theorem held_of_context {x : Context} (h : w.context? key = some x) :
    w.held key = x.status.map fun status => (x.manager, status) := by
  rw [held, h]
  rfl

theorem held_of_free (h : w.context? key = none) : w.held key = none := by
  rw [held, h]
  rfl

theorem held_eq_some : w.held key = some (m, status) ↔
    ∃ x, w.context? key = some x ∧ x.manager = m ∧ x.status = some status := by
  simp only [held, Option.bind_eq_some_iff, Option.map_eq_some_iff, Prod.mk.injEq]
  constructor
  · rintro ⟨x, hx, st, hst, rfl, rfl⟩
    exact ⟨x, hx, rfl, hst⟩
  · rintro ⟨x, hx, rfl, hst⟩
    exact ⟨x, hx, status, hst, rfl, rfl⟩

/-! ### The ledger after each change -/

theorem ledger_congr (hh : ∀ key, w'.held key = w.held key)
    (hs : ∀ m, (w'.store m).opened.keys = (w.store m).opened.keys ∧
      (w'.store m).completed = (w.store m).completed)
    (hn : w'.beginCount = w.beginCount) (hb : w'.beginnings = w.beginnings)
    (he : w'.endings = w.endings) : w'.ledger = w.ledger := by
  simp only [ledger, hn, hb, he, Ledger.mk.injEq, and_true]
  exact ⟨funext hh, funext fun m => (hs m).1, funext fun m => (hs m).2⟩

theorem Quiet.ledger (q : w.Quiet w') : w'.ledger = w.ledger :=
  ledger_congr (fun key => by rw [held, held, q.context?]) (fun m => by simp [q.store])
    q.beginCount q.beginnings q.endings

/-- A change of one store that neither opens nor completes a transaction. -/
theorem ledger_setStore {s : Store} (ho : s.opened.keys = (w.store m).opened.keys)
    (hc : s.completed = (w.store m).completed) : (w.setStore m s).ledger = w.ledger := by
  refine ledger_congr (fun _ => rfl) (fun n => ?_) rfl rfl rfl
  by_cases hn : n = m
  · subst hn
    simp [ho, hc]
  · simp [store_setStore_of_ne hn]

theorem ledger_write (m : Manager) (status : Status) (k v : String) (w : World α) :
    (w.write m status k v).2.ledger = w.ledger :=
  ledger_setStore (Store.keys_write ..) (Store.completed_write ..)

theorem ledger_refusing (m : Manager) (a : Attribute) (reason : String) (w : World α) :
    (w.refusing m a reason).ledger = w.ledger := by
  refine ledger_congr (fun _ => rfl) (fun n => ?_) rfl (beginnings_refusing ..)
    (endings_refusing ..)
  by_cases hn : n = m
  · subst hn
    simp [store_refusing_self]
  · simp [store_refusing_of_ne hn]

theorem ledger_opening (h : w.Minted) (m : Manager) (a : Attribute) :
    (w.opening m a).ledger = w.ledger.begin m (w.nextHandle a) := by
  have hopened : (fun n => ((w.opening m a).store n).opened.keys) =
      update (fun n => (w.store n).opened.keys) m
        ((w.store m).opened.keys ++ [(w.nextHandle a).id]) := by
    funext n
    by_cases hn : n = m
    · subst hn
      simp [store_opening_self, Table.keys_insert_of_notMem (h.not_opened n a)]
    · simp [store_opening_of_ne hn, hn]
  have hcompleted : (fun n => ((w.opening m a).store n).completed) =
      fun n => (w.store n).completed := by
    funext n
    by_cases hn : n = m
    · subst hn
      simp [store_opening_self]
    · simp [store_opening_of_ne hn]
  simp only [ledger, Ledger.begin, hopened, hcompleted, beginnings_opening, endings_opening]
  rfl

/-- The handle of an open transaction, as its manager sees it. -/
structure IsOpen (m : Manager) (status : Status) (w : World α) : Prop where
  opened : (w.store m).IsOpen status.id
  running : status.id ∉ (w.store m).completed

theorem IsOpen.find? (h : w.IsOpen m status) :
    ∃ t, (w.store m).opened.find? status.id = some t :=
  Store.IsOpen.find? h.opened

theorem IsOpen.released (h : w.IsOpen m status) (rollback : Bool) :
    ∃ t, Store.Released (w.store m) status rollback t (w.finish m status rollback).1
      ((w.finish m status rollback).2.store m) := by
  obtain ⟨t, ht⟩ := h.find?
  refine ⟨t, ?_⟩
  rw [store_finish_self]
  exact Store.finish_released h.running ht rollback

theorem ledger_finish (h : w.IsOpen m status) (rollback : Bool) :
    (w.finish m status rollback).2.ledger =
      w.ledger.finish ⟨m, status, rollback, (w.finish m status rollback).1⟩ := by
  obtain ⟨t, ht⟩ := h.released rollback
  have hopened : (fun n => ((w.finish m status rollback).2.store n).opened.keys) =
      update (fun n => (w.store n).opened.keys) m
        ((w.store m).opened.keys.filter (· ≠ status.id)) := by
    funext n
    by_cases hn : n = m
    · subst hn
      rw [ht.opened, Table.keys_erase, update_self]
    · simp [store_finish_of_ne hn, hn]
  have hcompleted : (fun n => ((w.finish m status rollback).2.store n).completed) =
      update (fun n => (w.store n).completed) m ((w.store m).completed ++ [status.id]) := by
    funext n
    by_cases hn : n = m
    · subst hn
      rw [ht.completed, update_self]
    · simp [store_finish_of_ne hn, hn]
  simp only [ledger, Ledger.finish, hopened, hcompleted, beginnings_finish, endings_finish]
  rfl

theorem IsOpen.not_refused (h : w.IsOpen m status) (rollback : Bool) (err : TransactionError)
    (he : (w.finish m status rollback).1 = .error err) : err.isRefusal = false := by
  obtain ⟨t, ht⟩ := h.released rollback
  rw [ht.outcome] at he
  split at he
  · cases he
  · cases rollback <;> cases he <;> rfl

theorem ledger_setContext (key : ExecutionKey) (x : Context) (w : World α) :
    (w.setContext key x).ledger =
      w.ledger.hold key (x.status.map fun status => (x.manager, status)) := by
  have hheld : (fun j => (w.setContext key x).held j) =
      update (fun j => w.held j) key (x.status.map fun status => (x.manager, status)) := by
    funext j
    by_cases hj : j = key
    · subst hj
      rw [held_of_context (context?_setContext_self ..), update_self]
    · rw [update_of_ne hj, held, context?_setContext_of_ne hj, held]
  simp only [ledger, Ledger.hold, hheld]
  rfl

end World

/-! ### Hooks that leave the ledger alone -/

/-- No transaction has begun or ended in between, and every handle is where it was. -/
def SameLedger (w w' : World α) : Prop := w'.ledger = w.ledger

theorem frame_sameLedger : World.Frame (SameLedger : World α → World α → Prop) :=
  .keeping World.ledger World.Quiet.ledger fun _ _ _ _ =>
    World.ledger_congr (fun _ => rfl) (fun _ => ⟨rfl, rfl⟩) rfl
      ((World.beginnings_record ..).trans (List.append_nil _))
      ((World.endings_record ..).trans (List.append_nil _))

theorem sameLedger_states (w : World α)
    (states : Table (OwnerId × ExecutionKey) LifecycleState) :
    SameLedger w { w with states := states } := rfl

/-! ### What a secure ledger says about the world -/

section

variable {w : World α} {key : ExecutionKey} {m : Manager} {status : Status}

theorem Ledger.Secure.minted (h : w.ledger.Secure) : w.Minted := by
  intro m n hn hk
  refine h.fresh m n hn ?_
  rcases hk with hk | hk
  · exact List.mem_append_left _ hk
  · exact List.mem_append_right _ hk

/-- A handle that a key holds is open. -/
theorem Ledger.Secure.isOpen (h : w.ledger.Secure) (hh : w.held key = some (m, status)) :
    w.IsOpen m status :=
  ⟨h.held_opened key m status hh, h.not_completed hh⟩

/-- A published context is active if it has a handle. -/
theorem Ledger.Secure.isActive (h : w.ledger.Secure) {x : Context}
    (hx : w.context? key = some x) : x.isActive w = x.status.isSome := by
  cases hs : x.status with
  | none => simp [Context.isActive, hs]
  | some status =>
    exact Context.isActive_of_some hs (h.isOpen (World.held_eq_some.2 ⟨x, hx, rfl, hs⟩)).running

/-- The transaction of a key is active if the key holds one. -/
theorem Ledger.Secure.isActive_key (h : w.ledger.Secure) (key : ExecutionKey) :
    InTest.isActive key w = (w.held key).isSome := by
  unfold InTest.isActive
  cases hx : w.context? key with
  | none => rw [World.held_of_free hx]; rfl
  | some x => simp [World.held_of_context hx, h.isActive hx]

theorem Ledger.Sound.minted (h : w.ledger.Sound) : w.Minted := h.secure.minted

theorem Ledger.Sound.isOpen (h : w.ledger.Sound) (hh : w.held key = some (m, status)) :
    w.IsOpen m status :=
  h.secure.isOpen hh

end

/-! ### Contexts -/

namespace Context

variable {w : World α} {x : Context} {status : Status} {key : ExecutionKey}

/-- The request with which a context ends its transaction, as an entry of the ledger. -/
def entry (x : Context) (status : Status) (w : World α) : Ending :=
  ⟨x.manager, status, x.flaggedForRollback, (x.ending status w).1⟩

theorem ledger_ending (h : w.IsOpen x.manager status) :
    (x.ending status w).2.ledger = w.ledger.finish (x.entry status w) := by
  have hopen : (w.report (.transactionEnding status x.testName x.flaggedForRollback)).IsOpen
      x.manager status := ⟨h.opened, h.running⟩
  exact (World.ledger_finish hopen x.flaggedForRollback).trans
    (by rw [(World.Quiet.report _ w).ledger]; rfl)

theorem entry_proper (h : w.IsOpen x.manager status) (err : TransactionError)
    (he : (x.entry status w).outcome = .error err) : err.isRefusal = false :=
  World.IsOpen.not_refused
    (w := w.report (.transactionEnding status x.testName x.flaggedForRollback))
    ⟨h.opened, h.running⟩ x.flaggedForRollback err he

theorem ledger_begunWorld (h : w.Minted) (x : Context) :
    (x.begunWorld w).ledger = w.ledger.begin x.manager (w.nextHandle x.intent) := by
  rw [(quiet_begunWorld x w).ledger, World.ledger_opening h]

/-- A transaction that has just begun is open. -/
theorem isOpen_begunWorld (h : w.Minted) (x : Context) :
    (x.begunWorld w).IsOpen x.manager (w.nextHandle x.intent) := by
  constructor
  · rw [store_begunWorld_self, Store.IsOpen,
      Table.keys_insert_of_notMem (h.not_opened x.manager x.intent)]
    simp
  · rw [store_begunWorld_self]
    exact h.not_completed x.manager x.intent

/-- A context that has begun a transaction and stands in a slot that held none. -/
theorem move_begun (h : w.Minted) (hfree : w.held key = none) (x : Context) :
    Ledger.Move key w.ledger ((x.begunWorld w).setContext key (x.begun w)).ledger := by
  rw [World.ledger_setContext, ledger_begunWorld h]
  exact .opened x.manager (w.nextHandle x.intent) hfree rfl

end Context

/-! ### Steps of a body -/

namespace InTest

variable {w : World α} {key : ExecutionKey}

theorem ledger_setContext_of_same {x y : Context} {w' : World α} (hx : w.context? key = some x)
    (hw : w'.ledger = w.ledger) (hm : y.manager = x.manager) (hs : y.status = x.status) :
    (w'.setContext key y).ledger = w.ledger := by
  have hheld : (y.status.map fun status => (y.manager, status)) = w.ledger.held key := by
    rw [hm, hs]
    exact (World.held_of_context hx).symm
  rw [World.ledger_setContext, hw, hheld, Ledger.hold_held]

theorem ledger_isFlaggedForRollback (key : ExecutionKey) (w : World α) :
    (isFlaggedForRollback key w).2.ledger = w.ledger := by
  unfold isFlaggedForRollback
  cases hx : w.context? key with
  | none => rw [withContext_of_none hx]
  | some x =>
    rw [withContext_of_some hx]
    exact ledger_setContext_of_same hx rfl rfl rfl

theorem ledger_setFlag (rollback : Bool) (key : ExecutionKey) (w : World α) :
    (setFlag rollback key w).2.ledger = w.ledger := by
  unfold setFlag
  cases hx : w.context? key with
  | none => rw [withContext_of_none hx]
  | some x =>
    rw [withContext_of_some hx]
    by_cases ha : x.isActive w = true
    · rw [if_pos ha]
      exact ledger_setContext_of_same hx rfl rfl rfl
    · rw [if_neg ha]
      exact ledger_setContext_of_same hx rfl rfl rfl

theorem move_start (h : w.ledger.Secure) (key : ExecutionKey) :
    Ledger.Move key w.ledger (start key w).2.ledger := by
  unfold start
  cases hx : w.context? key with
  | none =>
    rw [withContext_of_none hx]
    exact .kept
  | some x =>
    rw [withContext_of_some hx]
    cases hs : x.status with
    | some status =>
      rw [Context.start_of_some hs, ledger_setContext_of_same hx rfl rfl rfl]
      exact .kept
    | none =>
      have hfree : w.held key = none := by
        rw [World.held_of_context hx, hs]
        rfl
      rcases Context.start_cases hs w with ⟨reason, hstart⟩ | hstart <;> rw [hstart]
      · rw [ledger_setContext_of_same hx (World.ledger_refusing ..) rfl rfl]
        exact .kept
      · exact Context.move_begun h.minted hfree x

theorem move_finish (h : w.ledger.Secure) (key : ExecutionKey) :
    Ledger.Move key w.ledger (finish key w).2.ledger := by
  unfold finish
  cases hx : w.context? key with
  | none =>
    rw [withContext_of_none hx]
    exact .kept
  | some x =>
    rw [withContext_of_some hx]
    cases hs : x.status with
    | none =>
      rw [Context.finish_of_none hs, ledger_setContext_of_same hx rfl rfl rfl]
      exact .kept
    | some status =>
      have hheld : w.held key = some (x.manager, status) :=
        World.held_eq_some.2 ⟨x, hx, rfl, hs⟩
      have hopen := h.isOpen hheld
      obtain ⟨w', hq, hfin⟩ := Context.finish_of_some hs w
      rw [hfin, World.ledger_setContext, hq.ledger, Context.ledger_ending hopen]
      exact .closed (x.entry status w) hheld (Context.entry_proper hopen)

end InTest

theorem World.ledger_writeCurrent (key : ExecutionKey) (k v : String) (w : World α) :
    (w.writeCurrent key k v).2.ledger = w.ledger := by
  unfold writeCurrent
  split
  · rfl
  · split
    · rfl
    · exact ledger_write ..

theorem World.ledger_register (r : Registration) (w : World α) :
    (w.register r).2.ledger = w.ledger := by
  unfold register
  split
  · exact (Quiet.report _ w).ledger
  · rfl

theorem World.ledger_failNextBegin (m : Manager) (reason : String) (w : World α) :
    (w.failNextBegin m reason).ledger = w.ledger :=
  ledger_setStore rfl rfl

theorem World.ledger_failNextFinish (m : Manager) (reason : String) (w : World α) :
    (w.failNextFinish m reason).ledger = w.ledger :=
  ledger_setStore rfl rfl

/-- A step of a body is one move on its key. -/
theorem BodyStep.move {w : World α} (h : w.ledger.Secure) (key : ExecutionKey) (step : BodyStep) :
    Ledger.Move key w.ledger (step.run key w).2.ledger := by
  cases step with
  | isActive => exact .kept
  | isFlaggedForRollback =>
    rw [run, InTest.ledger_isFlaggedForRollback]
    exact .kept
  | flagForRollback =>
    rw [run, InTest.flagForRollback, InTest.ledger_setFlag]
    exact .kept
  | flagForCommit =>
    rw [run, InTest.flagForCommit, InTest.ledger_setFlag]
    exact .kept
  | finish => exact InTest.move_finish h key
  | start => exact InTest.move_start h key
  | write k v =>
    rw [run, World.ledger_writeCurrent]
    exact .kept
  | failNextBegin m reason =>
    rw [run, World.ledger_failNextBegin]
    exact .kept
  | failNextFinish m reason =>
    rw [run, World.ledger_failNextFinish]
    exact .kept

/-! ### The phases of a test -/

namespace Controller

variable {c : Controller} {t : TestRun α} {w : World α}

theorem ledger_transition (c : Controller) (key : ExecutionKey) (event : LifecycleEvent)
    (w : World α) : (c.transition key event w).2.ledger = w.ledger :=
  transition_within frame_sameLedger sameLedger_states c key event w

/-- A rejected context leaves an ended transaction behind, and nothing else. -/
theorem ledger_rollBackUnpublished (h : w.Minted) (x : Context) :
    ∃ e : Ending, e.status.id = .serial (w.ledger.minted + 1) ∧
      (∀ err, e.outcome = .error err → err.isRefusal = false) ∧
      (rollBackUnpublished (x.begun w) (x.begunWorld w)).ledger =
        (w.ledger.begin e.manager e.status).finish e := by
  have hopen := Context.isOpen_begunWorld h x
  refine ⟨Context.entry { x.begun w with flaggedForRollback := true } (w.nextHandle x.intent)
    (x.begunWorld w), rfl, Context.entry_proper hopen, ?_⟩
  rw [(quiet_rollBackUnpublished (x := x.begun w) rfl hopen.running).ledger,
    Context.ledger_ending (x := { x.begun w with flaggedForRollback := true }) hopen,
    Context.ledger_begunWorld h]
  rfl

theorem ledger_taken (t : TestRun α) (w : World α) :
    (taken t w).ledger = w.ledger.hold t.key none := by
  have hheld : (fun j => (taken t w).held j) = update (fun j => w.held j) t.key none := by
    funext j
    by_cases hj : j = t.key
    · subst hj
      rw [update_self, World.held, World.context?, taken, Table.find?_erase_self]
      rfl
    · rw [update_of_ne hj, World.held, World.context?, taken, Table.find?_erase_of_ne hj]
      rfl
  have hq := World.Quiet.report (.phaseEntered Operation.afterTest t.name t.key.display) w
  simp only [World.ledger, Ledger.hold, hheld]
  rw [← hq.beginnings, ← hq.endings]
  rfl

/-- The taken context ends the transaction that its key held, if there was one. -/
theorem move_finishTaken (h : w.ledger.Secure) {x : Context} (hx : w.context? t.key = some x) :
    Ledger.Move t.key w.ledger (finishTaken t x (taken t w)).2.ledger ∧
      (finishTaken t x (taken t w)).2.held t.key = none := by
  have htaken : (taken t w).held t.key = none :=
    (congrFun (congrArg Ledger.held (ledger_taken t w)) t.key).trans (update_self ..)
  cases hs : x.status with
  | none =>
    have hheld : w.ledger.held t.key = none := by
      rw [show w.ledger.held t.key = _ from World.held_of_context hx, hs]
      rfl
    have hkept : (taken t w).ledger = w.ledger := by
      rw [ledger_taken, ← hheld, Ledger.hold_held]
    rw [finishTaken_of_inactive (by simp [Context.isActive, hs]),
      (World.Quiet.report _ (taken t w)).ledger, hkept]
    exact ⟨.kept, htaken⟩
  | some status =>
    have hheld : w.held t.key = some (x.manager, status) := World.held_eq_some.2 ⟨x, hx, rfl, hs⟩
    have hopen : (taken t w).IsOpen x.manager status :=
      ⟨(h.isOpen hheld).opened, (h.isOpen hheld).running⟩
    obtain ⟨w', hq, hfin⟩ := finishTaken_of_active (t := t) hs hopen.running
    rw [hfin, hq.ledger, Context.ledger_ending hopen, ledger_taken]
    refine ⟨.closed (x.entry status (taken t w)) hheld (Context.entry_proper hopen), ?_⟩
    rw [World.held, hq.context?]
    exact htaken

section

variable (h : w.ledger.Sound) (ht : t.subject.Within SameLedger)
include h ht

theorem move_setUp (hfree : w.held t.key = none) (m : Manager) (a : Attribute) :
    Ledger.Move t.key w.ledger (c.setUp t m a w).2.ledger ∧
      ∀ e, (c.setUp t m a w).1 = .error e →
        (c.setUp t m a w).2.ledger.held = w.ledger.held := by
  have hrun := HookRunner.runBefore_within frame_sameLedger ht c.runner w
  have hexit := c.setUp_exit t m a w
  generalize c.setUp t m a w = out at hexit
  -- the hooks leave the ledger as it is, and so does the look at the rollback flag
  have hsame : ∀ {w₁}, c.runner.runBefore t w = (.ok (), w₁) →
      (c.isRollback t w₁).2.ledger = w.ledger := by
    intro w₁ hooks
    rw [hooks] at hrun
    exact (c.quiet_isRollback t w₁).ledger.trans hrun
  cases hexit with
  | hookFailed hooks =>
    rw [hooks] at hrun
    rw [show _ = w.ledger from hrun]
    exact ⟨.kept, fun _ _ => rfl⟩
  | beginFailed hooks =>
    rw [World.ledger_refusing, hsame hooks]
    exact ⟨.kept, fun _ _ => rfl⟩
  | @rejected w₁ hooks taken =>
    have hs := hsame hooks
    obtain ⟨e, hfresh, hproper, hledger⟩ :=
      ledger_rollBackUnpublished (hs ▸ h).minted (c.freshContext t m a w₁)
    rw [hledger, hs]
    exact ⟨.discarded e (hs ▸ hfresh) hproper, fun _ _ => rfl⟩
  | @published w₁ hooks free =>
    have hs := hsame hooks
    have hfree' : (c.isRollback t w₁).2.held t.key = none :=
      (congrFun (congrArg Ledger.held hs) t.key).trans hfree
    refine ⟨?_, fun _ h => nomatch h⟩
    rw [← hs]
    exact Context.move_begun (hs ▸ h).minted hfree' _

theorem move_enter (hfree : w.held t.key = none) (m : Manager) (a : Attribute) :
    Ledger.Move t.key w.ledger (c.enter t m a w).2.ledger := by
  have hreq := c.ledger_transition t.key .transactionRequested w
  rcases c.enter_snd t m a w with he | ⟨event, he⟩
  · rw [he, hreq]
    exact .kept
  · have hfree' := (congrFun (congrArg Ledger.held hreq) t.key).trans hfree
    rw [he, ledger_transition, ← hreq]
    exact (move_setUp (hreq ▸ h) ht hfree' m a).1

/-- The before-test phase of a test is one move on its key. -/
theorem move_beforeTest (c : Controller) :
    Ledger.Move t.key w.ledger (c.beforeTest t w).2.ledger := by
  rcases c.beforeTest_cases t w with hq | ⟨m, a, w₁, hq, hfree, -, he⟩
  · rw [hq.ledger]
    exact .kept
  · rw [he, ← hq.ledger]
    exact move_enter (hq.ledger.symm ▸ h) ht
      (World.held_of_free ((hq.context? t.key).trans hfree)) m a

/-- The after-test phase of a test is one move on its key, which then holds nothing. -/
theorem move_afterTest (c : Controller) :
    Ledger.Move t.key w.ledger (c.afterTest t w).2.ledger ∧
      (c.afterTest t w).2.held t.key = none := by
  -- the hooks, the transition and the answer leave the ledger as the end of the context left it
  suffices hmove : ∃ v : World α, (c.afterTest t w).2.ledger = v.ledger ∧
      Ledger.Move t.key w.ledger v.ledger ∧ v.held t.key = none by
    obtain ⟨v, hv, hm, hn⟩ := hmove
    rw [hv]
    exact ⟨hm, (congrFun (congrArg Ledger.held hv) t.key).trans hn⟩
  cases hx : w.context? t.key with
  | none =>
    have hheld : w.held t.key = none := World.held_of_free hx
    refine ⟨w, ?_, .kept, hheld⟩
    have hset : (c.setState t.key .idle (taken t w)).ledger = (taken t w).ledger := by
      rw [setState_eq]
      rfl
    rw [afterTest_of_none hx, hset, ledger_taken,
      ← show w.ledger.held t.key = none from hheld, Ledger.hold_held]
  | some x =>
    refine ⟨_, ?_, move_finishTaken h.secure hx⟩
    rw [afterTest_of_some hx]
    simp only
    rw [(quiet_settle ..).ledger, ledger_transition]
    exact HookRunner.runAfter_within frame_sameLedger ht c.runner _

end

end Controller

/-! ### Runs -/

namespace Operation

variable {ι : Type} {R : World α → World α → Prop} {w : World α}

section

variable (hR : ∀ w w', R w w' → SameLedger w w') (controllers : ι → Controller)
include hR

/-- An operation is one move on its key, and without a key it leaves the ledger as it is. -/
theorem move (h : w.ledger.Sound) (op : Operation ι R) :
    match op.key? with
    | some key => Ledger.Move key w.ledger (op.run controllers w).2.ledger
    | none => (op.run controllers w).2.ledger = w.ledger := by
  cases op with
  | before i t => exact Controller.move_beforeTest h (t.within.mono hR) _
  | after i t => exact (Controller.move_afterTest h (t.within.mono hR) _).1
  | body key step => exact step.move h.secure key
  | stage m status k v => exact World.ledger_write ..
  | register r => exact World.ledger_register r w
  | addSelector m => rfl

theorem exists_move (h : w.ledger.Sound) (op : Operation ι R) :
    ∃ key, Ledger.Move key w.ledger (op.run controllers w).2.ledger := by
  have hm := move hR controllers h op
  cases hk : op.key? with
  | some key =>
    rw [hk] at hm
    exact ⟨key, hm⟩
  | none =>
    simp only [hk] at hm
    exact ⟨default, hm ▸ .kept⟩

/-- What every move keeps of a sound ledger, a run keeps. -/
theorem ledger_runAll {P : Ledger → Prop}
    (hP : ∀ key L L', Ledger.Move key L L' → L.Sound → P L → P L') (ops : List (Operation ι R))
    (hs : w.ledger.Sound) (h : P w.ledger) :
    (runAll controllers ops w).ledger.Sound ∧ P (runAll controllers ops w).ledger := by
  refine runAll_induction (P := fun w => w.ledger.Sound ∧ P w.ledger) ?_ ops ⟨hs, h⟩
  rintro op w ⟨hs, h⟩
  obtain ⟨key, hm⟩ := exists_move hR controllers hs op
  exact ⟨hm.sound hs, hP key _ _ hm hs h⟩

theorem sound_runAll (ops : List (Operation ι R)) (h : w.ledger.Sound) :
    (runAll controllers ops w).ledger.Sound :=
  (ledger_runAll (P := fun _ => True) hR controllers (fun _ _ _ _ _ _ => trivial) ops h trivial).1

end

end Operation

/-! ### Before the first test -/

/-- No context is published, no transaction is open, and the identifiers to be given out are
new. -/
structure World.Unopened (w : World α) : Prop where
  contexts : w.contexts = []
  opened : ∀ m, (w.store m).opened = []
  completed : ∀ m, (w.store m).completed.Nodup
  minted : w.Minted

namespace World.Unopened

variable {w : World α}

theorem held (h : w.Unopened) (key : ExecutionKey) : w.held key = none :=
  held_of_free (by rw [context?, h.contexts]; rfl)

theorem sound (h : w.Unopened) : w.ledger.Sound := by
  have hopened : ∀ m, w.ledger.opened m = [] := fun m =>
    congrArg Table.keys (h.opened m)
  have hdistinct : w.ledger.Distinct := by
    refine ⟨fun m => ?_, fun m n hn hm => ?_⟩
    · rw [hopened, List.nil_append]
      exact h.completed m
    · rw [hopened, List.nil_append] at hm
      exact h.minted m n hn (.inr hm)
  refine { hdistinct with held_opened := ?_, opened_held := ?_, unique := ?_ }
  · intro key m status hk
    cases (h.held key).symm.trans hk
  · intro m id hid
    rw [hopened] at hid
    cases hid
  · intro key key' m status status' hk
    cases (h.held key).symm.trans hk

end World.Unopened

theorem Sample.unopened_start : start.Unopened where
  contexts := rfl
  opened _ := rfl
  completed _ := List.nodup_nil
  minted := Sample.minted_start

end TransactionalTest
