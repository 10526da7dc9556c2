import TransactionalTest.Proofs.Closure
import TransactionalTest.Proofs.Ownership

/-!
# Every transaction is ended once

Any number of controllers share a holder, and handles are ended through contexts only.  An early
end, an end that fails, a restart, a rejected context and the after-test phase all compete to end
the same transaction; it is ended once all the same.

* `World.timesEnded` : how often a manager was asked to end a transaction;
* `Detached` : hooks that neither begin nor end a transaction and leave the lifecycle alone; they
  may publish contexts of their own, without a handle;
* `EndedOnce` : what is known of the transactions in a world, and after any further operations;
* `endedOnce_runAll` : it is known after every run.
-/

namespace TransactionalTest

variable {α : Type}

/-! ### What managers answer -/

/-- The operation did not fail because a manager refused it. -/
def LifecycleError.Accepted (e : LifecycleError) : Prop :=
  ∀ err, e.managerError? = some err → err.isRefusal = false

/-- No manager refused the operation. -/
def Outcome.Accepted (o : Outcome) : Prop :=
  ∀ err, o.managerError? = some err → err.isRefusal = false

theorem Outcome.accepted_answered {r : Except LifecycleError Unit}
    (h : ∀ e, r = .error e → e.Accepted) : (answered r).Accepted := by
  intro err herr
  cases r with
  | ok _ => cases herr
  | error e => exact h e rfl err herr

theorem Outcome.accepted_flagged {r : Except LifecycleError Bool}
    (h : ∀ e, r = .error e → e.Accepted) : (flagged r).Accepted := by
  intro err herr
  cases r with
  | ok _ => cases herr
  | error e => exact h e rfl err herr

theorem LifecycleError.accepted_illegalState (fault : IllegalState) :
    (illegalState fault).Accepted := fun _ herr => nomatch herr

theorem HookRunner.IsBeforeError.accepted {e : LifecycleError} (h : IsBeforeError e) :
    e.Accepted :=
  match e, h with
  | .beforeHook _ _, _ | .hookInvocation _ _, _ => fun _ herr => nomatch herr

namespace Context

variable {x : Context} {w : World α} {e : LifecycleError}

theorem accepted_start (h : (x.start w).1 = .error e) : e.Accepted := by
  cases hs : x.status with
  | some status =>
    rw [start_of_some hs] at h
    cases h
    exact LifecycleError.accepted_illegalState _
  | none =>
    rcases start_cases hs w with ⟨reason, hstart⟩ | hstart <;> rw [hstart] at h <;> cases h
    intro err herr
    cases herr
    rfl

theorem accepted_ending {status : Status} (hopen : w.IsOpen x.manager status)
    (h : (x.ending status w).1.mapError (LifecycleError.transactionEnd x.testName) = .error e) :
    e.Accepted := by
  have hproper := entry_proper hopen
  simp only [entry] at hproper
  cases hr : (x.ending status w).1 with
  | ok _ =>
    rw [hr] at h
    cases h
  | error err =>
    rw [hr] at h
    cases h
    intro err' herr
    cases herr
    exact hproper _ hr

theorem accepted_finish (hopen : ∀ status, x.status = some status → w.IsOpen x.manager status)
    (h : (x.finish w).1 = .error e) : e.Accepted := by
  cases hs : x.status with
  | none =>
    rw [finish_of_none hs] at h
    cases h
    exact LifecycleError.accepted_illegalState _
  | some status =>
    obtain ⟨w', -, hfin⟩ := finish_of_some hs w
    rw [hfin] at h
    exact accepted_ending (hopen status hs) h

end Context

/-- The handle of a published context is that of an open transaction. -/
theorem Ledger.Sound.isOpen_of_context {w : World α} (h : w.ledger.Sound) {key : ExecutionKey}
    {x : Context} (hx : w.context? key = some x) {status : Status} (hs : x.status = some status) :
    w.IsOpen x.manager status :=
  h.isOpen (World.held_eq_some.2 ⟨x, hx, rfl, hs⟩)

theorem InTest.accepted_withContext {ρ : Type} {key : ExecutionKey} {w : World α}
    {f : Context → World α → Except LifecycleError ρ × Context × World α} {e : LifecycleError}
    (hf : ∀ x, w.context? key = some x → (f x w).1 = .error e → e.Accepted)
    (h : (withContext key f w).1 = .error e) : e.Accepted := by
  cases hx : w.context? key with
  | none =>
    rw [withContext_of_none hx] at h
    cases h
    exact LifecycleError.accepted_illegalState _
  | some x =>
    rw [withContext_of_some hx] at h
    exact hf x hx h

theorem InTest.accepted_setFlag {rollback : Bool} {key : ExecutionKey} {w : World α}
    {e : LifecycleError} (h : (setFlag rollback key w).1 = .error e) : e.Accepted := by
  refine accepted_withContext (fun x _ he => ?_) h
  split at he <;> cases he
  exact LifecycleError.accepted_illegalState _

theorem World.accepted_writeCurrent {w : World α} (h : w.ledger.Sound) (key : ExecutionKey)
    (k v : String) : (w.writeCurrent key k v).1.Accepted := by
  unfold writeCurrent
  split
  · exact fun _ herr => nomatch herr
  · rename_i x hx
    split
    · exact fun _ herr => nomatch herr
    · rename_i status hs
      have hopen := h.isOpen_of_context hx hs
      obtain ⟨t, ht⟩ := hopen.find?
      rw [write, Store.write_of_open hopen.running ht]
      exact fun _ herr => nomatch herr

/-- No manager refuses a step of a body. -/
theorem BodyStep.accepted {w : World α} (h : w.ledger.Sound) (key : ExecutionKey)
    (step : BodyStep) : (step.run key w).1.Accepted := by
  cases step with
  | isActive => exact fun _ herr => nomatch herr
  | isFlaggedForRollback =>
    exact Outcome.accepted_flagged fun _ => InTest.accepted_withContext fun _ _ he => nomatch he
  | flagForRollback => exact Outcome.accepted_answered fun _ => InTest.accepted_setFlag
  | flagForCommit => exact Outcome.accepted_answered fun _ => InTest.accepted_setFlag
  | finish =>
    exact Outcome.accepted_answered fun _ => InTest.accepted_withContext fun _ hx =>
      Context.accepted_finish fun _ => h.isOpen_of_context hx
  | start =>
    exact Outcome.accepted_answered fun _ => InTest.accepted_withContext fun _ _ =>
      Context.accepted_start
  | write k v => exact World.accepted_writeCurrent h key k v
  | failNextBegin m reason => exact fun _ herr => nomatch herr
  | failNextFinish m reason => exact fun _ herr => nomatch herr

namespace Controller

variable {c : Controller} {t : TestRun α} {m : Manager} {a : Attribute} {w : World α}
  {e : LifecycleError}

theorem accepted_transition {key : ExecutionKey} {event : LifecycleEvent}
    (h : (c.transition key event w).1 = .error e) : e.Accepted := by
  rcases c.transition_cases key event w with ⟨target, -, ht⟩ | ht <;> rw [ht] at h <;> cases h
  exact LifecycleError.accepted_illegalState _

theorem accepted_setUp (h : (c.setUp t m a w).1 = .error e) : e.Accepted := by
  have hexit := c.setUp_exit t m a w
  generalize c.setUp t m a w = out at hexit h
  cases hexit with
  | hookFailed hooks =>
    cases h
    exact (HookRunner.isBeforeError_of_runBefore (congrArg Prod.fst hooks)).accepted
  | beginFailed hooks =>
    cases h
    intro err herr
    cases herr
    rfl
  | rejected hooks taken =>
    cases h
    exact LifecycleError.accepted_illegalState _
  | published hooks free => cases h

theorem accepted_enter (h : (c.enter t m a w).1 = .error e) : e.Accepted := by
  unfold enter at h
  split at h <;> rename_i hreq
  · cases h
    exact accepted_transition (congrArg Prod.fst hreq)
  · split at h <;> rename_i hset <;> split at h <;> rename_i hmove <;> cases h
    · exact accepted_transition (congrArg Prod.fst hmove)
    · exact accepted_setUp (congrArg Prod.fst hset)
    · exact accepted_transition (congrArg Prod.fst hmove)

theorem accepted_beforeTest (h : (c.beforeTest t w).1 = .error e) : e.Accepted := by
  have hexit := c.beforeTest_exit t w
  generalize c.beforeTest t w = out at hexit h
  cases hexit with
  | busy =>
    cases h
    exact LifecycleError.accepted_illegalState _
  | undeclared | optedOut | unmanaged => cases h
  | lookupFailed | notFound =>
    cases h
    exact fun _ herr => nomatch herr
  | entered => exact accepted_enter h

theorem accepted_runAfter {r : HookRunner} (h : (r.runAfter t w).1 = .error e) : e.Accepted := by
  have hall : ∀ (hooks : List HookMethod) (w : World α),
      (HookRunner.callAll t hooks w).1 = .error e → e.Accepted := by
    intro hooks
    induction hooks with
    | nil =>
      intro w h
      cases h
    | cons hook hooks ih =>
      intro w h
      unfold HookRunner.callAll at h
      split at h
      · exact ih _ h
      · cases h
        exact fun _ herr => nomatch herr
  exact hall _ _ h

theorem accepted_finishTaken {x : Context}
    (hopen : ∀ status, x.status = some status → w.IsOpen x.manager status)
    (h : (finishTaken t x w).1 = .error e) : e.Accepted := by
  unfold finishTaken at h
  split at h
  · exact Context.accepted_finish hopen h
  · cases h

/-- The answer of the after-test phase is one of the three that it is made from. -/
theorem accepted_afterTest (hw : w.ledger.Sound) (h : (c.afterTest t w).1 = .error e) :
    e.Accepted := by
  cases hx : w.context? t.key with
  | none =>
    rw [afterTest_of_none hx] at h
    cases h
  | some x =>
    rw [afterTest_of_some hx] at h
    rcases settle_error h with h | h | h
    · refine accepted_finishTaken (fun status hs => ?_) h
      exact ⟨(hw.isOpen_of_context hx hs).opened, (hw.isOpen_of_context hx hs).running⟩
    · exact accepted_runAfter h
    · cases hmove : (c.transition t.key .testFinished
        (c.runner.runAfter t (finishTaken t x (taken t w)).2).2).1 with
      | ok _ =>
        rw [hmove] at h
        cases h
      | error e' =>
        rw [hmove] at h
        cases h
        exact accepted_transition hmove

end Controller

/-! ### How often a transaction is ended -/

/-- How often a manager was asked to end a transaction. -/
def World.timesEnded (m : Manager) (id : TransactionId) (w : World α) : Nat :=
  (w.endings.map Ending.target).count (m, id)

namespace Ledger

variable {w : World α} {m : Manager} {status : Status}

theorem Tallied.timesEnded_le (h : w.ledger.Tallied) (m : Manager) (id : TransactionId) :
    w.timesEnded m id ≤ 1 :=
  List.nodup_iff_count_le_one.1 h.once _

theorem Tallied.timesEnded_eq_one (h : w.ledger.Tallied)
    (he : ∃ e ∈ w.ledger.endings, e.transaction = (m, status)) :
    w.timesEnded m status.id = 1 := by
  obtain ⟨e, he, ht⟩ := he
  refine List.count_eq_one_of_mem h.once (List.mem_map.2 ⟨e, he, ?_⟩)
  exact congrArg (fun b : Manager × Status => (b.1, b.2.id)) ht

/-- What a key still holds has not been ended. -/
theorem Tallied.timesEnded_eq_zero (h : w.ledger.Tallied) (hs : w.ledger.Sound)
    {key : ExecutionKey} (hk : w.held key = some (m, status)) : w.timesEnded m status.id = 0 := by
  refine List.count_eq_zero.2 fun hmem => ?_
  obtain ⟨e, he, ht⟩ := List.mem_map.1 hmem
  obtain ⟨rfl, hid⟩ := Prod.mk.inj ht
  exact hs.not_completed hk (hid ▸ h.completed e he)

end Ledger

namespace Controller

variable {c : Controller} {t : TestRun α} {m : Manager} {w : World α}

/-- The after-test phase ends a transaction only if its manager has not completed it. -/
theorem endings_afterTest (ht : t.subject.Within SameLedger) (c : Controller) (w : World α) :
    ∃ es : List Ending, (c.afterTest t w).2.endings = w.endings ++ es ∧
      ∀ e ∈ es, e.status.id ∉ (w.store e.manager).completed := by
  have htaken : (taken t w).endings = w.endings := (World.Quiet.report _ w).endings
  cases hx : w.context? t.key with
  | none =>
    refine ⟨[], ?_, fun _ he => nomatch he⟩
    rw [afterTest_of_none hx, setState_eq, List.append_nil]
    exact htaken
  | some x =>
    have hended : (c.afterTest t w).2.endings = (finishTaken t x (taken t w)).2.endings := by
      rw [afterTest_of_some hx]
      exact (quiet_settle ..).endings.trans
        (congrArg Ledger.endings ((c.ledger_transition ..).trans
          (HookRunner.runAfter_within frame_sameLedger ht c.runner _)))
    rw [hended]
    by_cases ha : x.isActive (taken t w) = true
    · obtain ⟨status, hs, hc⟩ := Context.isActive_iff.1 ha
      obtain ⟨w', hq, hfin⟩ := finishTaken_of_active (t := t) hs hc
      refine ⟨[x.entry status (taken t w)], ?_, ?_⟩
      · rw [hfin, hq.endings, Context.endings_ending, htaken]
        rfl
      · rintro e he
        rw [List.mem_singleton.1 he]
        exact hc
    · refine ⟨[], ?_, fun _ he => nomatch he⟩
      rw [finishTaken_of_inactive (by simpa using ha), (World.Quiet.report _ _).endings, htaken,
        List.append_nil]

theorem timesEnded_afterTest_of_completed (ht : t.subject.Within SameLedger)
    {id : TransactionId} (h : id ∈ (w.store m).completed) :
    (c.afterTest t w).2.timesEnded m id = w.timesEnded m id := by
  obtain ⟨es, he, hes⟩ := endings_afterTest ht c w
  have hnone : (es.map Ending.target).count (m, id) = 0 := by
    refine List.count_eq_zero.2 fun hmem => ?_
    obtain ⟨e, he, ht⟩ := List.mem_map.1 hmem
    obtain ⟨rfl, rfl⟩ := Prod.mk.inj ht
    exact hes e he h
  rw [World.timesEnded, he, List.map_append, List.count_append, hnone, World.timesEnded]
  rfl

end Controller

/-! ### Hooks that leave transactions and lifecycle alone -/

/-- No transaction has begun or ended in between, every handle is where it was, and so are the
states. -/
structure Detached (w w' : World α) : Prop where
  ledger : SameLedger w w'
  states : w'.states = w.states

theorem Detached.refl (w : World α) : Detached w w := ⟨rfl, rfl⟩

theorem Detached.tryPublish (key : ExecutionKey) {x : Context} (hs : x.status = none)
    (w : World α) : Detached w (w.tryPublish key x).2 := by
  unfold World.tryPublish
  cases hx : w.context? key with
  | some other => exact .refl w
  | none =>
    refine ⟨?_, rfl⟩
    have hheld : w.ledger.held key = none := World.held_of_free hx
    refine (World.ledger_setContext key x w).trans ?_
    rw [hs, Option.map_none, ← hheld, Ledger.hold_held]

/-- A before-test phase that fails has left every handle where it was. -/
theorem Controller.held_beforeTest_of_error {c : Controller} {t : TestRun α} {w : World α}
    (h : w.ledger.Sound) (ht : t.subject.Within Detached) {e : LifecycleError}
    (he : (c.beforeTest t w).1 = .error e) :
    (c.beforeTest t w).2.ledger.held = w.ledger.held := by
  rcases c.beforeTest_cases t w with hq | ⟨m, a, w₁, hq, hfree, hidle, henter⟩
  · rw [hq.ledger]
  · rw [henter] at he ⊢
    have hreq : (c.requested t.key w₁).ledger = w.ledger := by
      rw [requested, setState_eq]
      exact (World.Quiet.report _ w₁).ledger.trans hq.ledger
    have hnone : (c.requested t.key w₁).held t.key = none :=
      (congrFun (congrArg Ledger.held hreq) t.key).trans (World.held_of_free hfree)
    rcases enter_of_idle ((state_congr hq.states).trans hidle)
        (ht.mono fun _ _ hw => state_congr hw.states) m a with
      ⟨w₂, hset, he'⟩ | ⟨e', w₂, hset, he'⟩ <;> rw [he'] at he ⊢
    · cases he
    · have hheld := (move_setUp (hreq.symm ▸ h) (ht.mono fun _ _ hw => hw.ledger) hnone m a).2 e'
        (congrArg Prod.fst hset)
      rw [hset, hreq] at hheld
      refine Eq.trans ?_ hheld
      rw [setState_eq]
      exact congrArg Ledger.held (World.Quiet.report _ w₂).ledger

/-! ### Completed transactions stay completed -/

/-- What a manager has completed stays completed. -/
def KeepsCompleted (w w' : World α) : Prop :=
  ∀ m, (w.store m).completed ⊆ (w'.store m).completed

theorem KeepsCompleted.of_store {m : Manager} {w w' : World α}
    (hm : (w.store m).completed ⊆ (w'.store m).completed)
    (hother : ∀ n, n ≠ m → w'.store n = w.store n) : KeepsCompleted w w' := by
  intro n
  by_cases hn : n = m
  · rw [hn]
    exact hm
  · rw [hother n hn]
    exact List.Subset.refl _

theorem closed_keepsCompleted :
    World.Closed (KeepsCompleted : World α → World α → Prop) where
  refl w m := List.Subset.refl _
  trans h h' m := List.Subset.trans (h m) (h' m)
  quiet q m := by rw [q.store]; exact List.Subset.refl _
  invoked _ _ _ _ _ := List.Subset.refl _
  begin m a w := by
    rcases w.begin_cases m a with ⟨reason, h⟩ | h <;> rw [h]
    · refine .of_store (m := m) ?_ fun n hn => World.store_refusing_of_ne hn ..
      rw [World.store_refusing_self]
      exact List.Subset.refl _
    · refine .of_store (m := m) ?_ fun n hn => World.store_opening_of_ne hn ..
      rw [World.store_opening_self]
      exact List.Subset.refl _
  finish m status rollback w := by
    refine .of_store (m := m) ?_ fun n hn => World.store_finish_of_ne hn ..
    rw [World.store_finish_self]
    exact Store.completed_finish_subset ..
  write m status k v w := by
    refine .of_store (m := m) ?_ fun n hn => World.store_setStore_of_ne hn ..
    rw [World.write, World.store_setStore_self, Store.completed_write]
    exact List.Subset.refl _
  failNextBegin m reason w := by
    refine .of_store (m := m) ?_ fun n hn => World.store_setStore_of_ne hn ..
    rw [World.failNextBegin, World.store_setStore_self]
    exact List.Subset.refl _
  failNextFinish m reason w := by
    refine .of_store (m := m) ?_ fun n hn => World.store_setStore_of_ne hn ..
    rw [World.failNextFinish, World.store_setStore_self]
    exact List.Subset.refl _
  contexts _ _ _ := List.Subset.refl _
  states _ _ _ := List.Subset.refl _
  registry _ _ _ := List.Subset.refl _

theorem SameLedger.keepsCompleted {w w' : World α} (h : SameLedger w w') :
    KeepsCompleted w w' := by
  intro m
  rw [show (w'.store m).completed = _ from congrFun (congrArg Ledger.completed h) m]
  exact List.Subset.refl _

/-! ### Runs -/

/-- What is known of the transactions in a world, and after further operations. -/
structure EndedOnce {ι : Type} (controllers : ι → Controller) (w : World α) : Prop where
  /-- No manager was asked twice to end the same transaction. -/
  at_most_once : ∀ m id, w.timesEnded m id ≤ 1
  /-- Only transactions that have begun were to be ended. -/
  begun : ∀ e ∈ w.endings, e.transaction ∈ w.beginnings
  /-- A transaction that has begun was ended once, or a context has its handle. -/
  accounted : ∀ m status, (m, status) ∈ w.beginnings →
    w.timesEnded m status.id = 1 ∨ ∃ key, w.held key = some (m, status)
  /-- No manager has refused to end a transaction, also when an end failed. -/
  not_refused : ∀ e ∈ w.endings, ∀ err, e.outcome = .error err → err.isRefusal = false
  /-- No operation fails because a manager refuses it; only a write with a handle that is not the
  current one can. -/
  accepted : ∀ op : Operation ι (Detached : World α → World α → Prop), op.key?.isSome = true →
    ((op.run controllers w).1).Accepted
  /-- What an operation on a key begins has been ended once when the after-test phase of a test on
  the key has come back, whatever happens in the meantime. -/
  ended : ∀ (op : Operation ι (Detached : World α → World α → Prop)) m status,
    (m, status) ∈ (op.run controllers w).2.beginnings → (m, status) ∉ w.beginnings →
    ∀ ops i (t : GuardedRun (Detached : World α → World α → Prop)), op.key? = some t.key →
      (Operation.runAll controllers (op :: ops ++ [.after i t]) w).timesEnded m status.id = 1
  /-- What a before-test phase that fails has begun has been ended once when it comes back. -/
  ended_of_error : ∀ i (t : GuardedRun (Detached : World α → World α → Prop)) e,
    ((controllers i).beforeTest t.toTestRun w).1 = .error e → ∀ m status,
    (m, status) ∈ ((controllers i).beforeTest t.toTestRun w).2.beginnings →
    (m, status) ∉ w.beginnings →
    ((controllers i).beforeTest t.toTestRun w).2.timesEnded m status.id = 1
  /-- When the handle of a context is ended behind its back, then that is the only time: the
  after-test phase does not ask the manager again. -/
  not_again : ∀ key x status rollback, w.context? key = some x → x.status = some status →
    (w.finish x.manager status rollback).2.timesEnded x.manager status.id = 1 ∧
    ∀ (ops : List (Operation ι (Detached : World α → World α → Prop))) i
      (t : GuardedRun (Detached : World α → World α → Prop)),
      let w' := Operation.runAll controllers ops (w.finish x.manager status rollback).2
      ((controllers i).afterTest t.toTestRun w').2.timesEnded x.manager status.id =
        w'.timesEnded x.manager status.id

namespace Operation

variable {ι : Type} {controllers : ι → Controller} {w : World α}

theorem accepted (h : w.ledger.Sound) {R : World α → World α → Prop} (op : Operation ι R)
    (hop : op.key?.isSome = true) : (op.run controllers w).1.Accepted := by
  cases op with
  | before i t => exact Outcome.accepted_answered fun _ => Controller.accepted_beforeTest
  | after i t => exact Outcome.accepted_answered fun _ => Controller.accepted_afterTest h
  | body key step => exact step.accepted h key
  | stage | register | addSelector => cases hop

section

variable {H : World α → World α → Prop} (hH : ∀ w w', H w w' → SameLedger w w')
  (hs : w.ledger.Sound)
include hH hs

theorem tallied_runAll (ht : w.ledger.Tallied) (ops : List (Operation ι H)) :
    (runAll controllers ops w).ledger.Tallied :=
  (ledger_runAll hH controllers (fun _ _ _ hm => hm.tallied) ops hs ht).2

theorem settledBy_runAll {key : ExecutionKey} {b : Manager × Status}
    (h : w.ledger.SettledBy key b) (ops : List (Operation ι H)) :
    (runAll controllers ops w).ledger.SettledBy key b :=
  (ledger_runAll (P := fun L => L.SettledBy key b) hH controllers
    (fun _ _ _ hm _ => hm.settledBy) ops hs h).2

/-- What a key has to settle is settled when the after-test phase has come back. -/
theorem timesEnded_afterTest (ht : w.ledger.Tallied) {i : ι} {t : GuardedRun H} {m : Manager}
    {status : Status} (h : w.ledger.SettledBy t.key (m, status)) :
    ((controllers i).afterTest t.toTestRun w).2.timesEnded m status.id = 1 := by
  obtain ⟨hm, hnone⟩ := Controller.move_afterTest hs (t.within.mono hH) (controllers i)
  refine (hm.tallied hs ht).timesEnded_eq_one ((hm.settledBy h).resolve_right fun hk => ?_)
  cases hnone.symm.trans hk

/-- What an operation on a key begins is settled by the after-test phase of that key. -/
theorem timesEnded_of_begun (ht : w.ledger.Tallied) {op : Operation ι H} {m : Manager}
    {status : Status} (hb : (m, status) ∈ (op.run controllers w).2.beginnings)
    (hn : (m, status) ∉ w.beginnings) (ops : List (Operation ι H)) (i : ι) {t : GuardedRun H}
    (hk : op.key? = some t.key) :
    (runAll controllers (op :: ops ++ [.after i t]) w).timesEnded m status.id = 1 := by
  have hm := move hH controllers hs op
  rw [hk] at hm
  -- settled with the key from here on, whatever the other operations do
  have hrun := hm.sound hs
  have hsettled : (runAll controllers ops (op.run controllers w).2).ledger.SettledBy t.key
      (m, status) := settledBy_runAll hH hrun (hm.settledBy_of_new hb hn) ops
  rw [runAll_append]
  exact timesEnded_afterTest hH (sound_runAll hH controllers ops hrun)
    (tallied_runAll hH hrun (hm.tallied hs ht) ops) hsettled

end

/-- A transaction that is ended behind the back of its context is not ended by the after-test
phase again. -/
theorem timesEnded_of_finished (hs : w.ledger.Sound) (ht : w.ledger.Tallied)
    {key : ExecutionKey} {x : Context} {status : Status} (hx : w.context? key = some x)
    (hst : x.status = some status) (rollback : Bool) :
    (w.finish x.manager status rollback).2.timesEnded x.manager status.id = 1 ∧
    ∀ (ops : List (Operation ι (Detached : World α → World α → Prop))) i
      (t : GuardedRun (Detached : World α → World α → Prop)),
      let w' := runAll controllers ops (w.finish x.manager status rollback).2
      ((controllers i).afterTest t.toTestRun w').2.timesEnded x.manager status.id =
        w'.timesEnded x.manager status.id := by
  have hheld : w.held key = some (x.manager, status) := World.held_eq_some.2 ⟨x, hx, rfl, hst⟩
  obtain ⟨_, hrel⟩ := (hs.isOpen hheld).released rollback
  have hcompleted : status.id ∈ ((w.finish x.manager status rollback).2.store
      x.manager).completed := by
    rw [hrel.completed]
    exact List.mem_append_right _ (List.mem_singleton.2 rfl)
  refine ⟨?_, fun ops i t => ?_⟩
  · rw [World.timesEnded, World.endings_finish, List.map_append, List.count_append,
      ← World.timesEnded, ht.timesEnded_eq_zero hs hheld]
    simp [Ending.target]
  · exact Controller.timesEnded_afterTest_of_completed (t.within.mono fun _ _ hd => hd.ledger)
      (runAll_within closed_keepsCompleted (fun _ _ hd => hd.ledger.keepsCompleted) controllers
        ops _ _ hcompleted)

end Operation

theorem endedOnce_of_tallied {ι : Type} {controllers : ι → Controller} {w : World α}
    (hs : w.ledger.Sound) (ht : w.ledger.Tallied) : EndedOnce controllers w where
  at_most_once := ht.timesEnded_le
  begun := ht.begun
  accounted m status hb := by
    obtain ⟨key, hk⟩ := ht.accounted _ hb
    exact hk.imp ht.timesEnded_eq_one fun hk => ⟨key, hk⟩
  not_refused := ht.proper
  accepted := Operation.accepted hs
  ended op m status hb hn ops i t hk :=
    Operation.timesEnded_of_begun (fun _ _ hd => hd.ledger) hs ht hb hn ops i hk
  ended_of_error i t e he m status hb hn := by
    have hm := Controller.move_beforeTest hs (t.within.mono fun _ _ hd => hd.ledger)
      (controllers i)
    have hheld := Controller.held_beforeTest_of_error hs t.within he
    -- no key holds it: every handle is where it was, and it was not there before
    obtain ⟨key, hk⟩ := (hm.tallied hs ht).accounted _ hb
    refine (hm.tallied hs ht).timesEnded_eq_one (hk.resolve_right fun hk => ?_)
    rw [hheld] at hk
    exact hn (ht.held_begun key _ hk)
  not_again key x status rollback hx hst :=
    Operation.timesEnded_of_finished hs ht hx hst rollback

/-- **Every transaction is ended once**, in every run of controllers that share a holder, with
hooks that neither begin nor end transactions and leave the lifecycle alone. -/
theorem endedOnce_runAll {ι : Type} (controllers : ι → Controller) {w : World α}
    (hw : w.Unopened) (hb : w.beginnings = []) (he : w.endings = [])
    (ops : List (Operation ι (Detached : World α → World α → Prop))) :
    EndedOnce controllers (Operation.runAll controllers ops w) := by
  have ht : w.ledger.Tallied := by
    constructor
    case once => rw [show w.ledger.endings = [] from he]; exact List.nodup_nil
    case completed | begun | proper =>
      rw [show w.ledger.endings = [] from he]
      exact fun e he => nomatch he
    case held_begun => exact fun key b hk => nomatch (hw.held key).symm.trans hk
    case accounted =>
      rw [show w.ledger.beginnings = [] from hb]
      exact fun b hb => nomatch hb
  have hD : ∀ w w' : World α, Detached w w' → SameLedger w w' := fun _ _ hd => hd.ledger
  exact endedOnce_of_tallied (Operation.sound_runAll hD controllers ops hw.sound)
    (Operation.tallied_runAll hD hw.sound ht ops)

/-- A hook publishes a context of its own, so that the transaction of the test is rolled back and
its context rejected; another controller then finds the key busy. -/
theorem endedOnce_runAll_sample :
    EndedOnce (fun other : Bool => if other then ⟨1, {}⟩ else Sample.controller)
      (Operation.runAll (fun other : Bool => if other then ⟨1, {}⟩ else Sample.controller)
        ([.before false ⟨Sample.run fun w => (.ok (), (w.tryPublish (.thread 0)
              ⟨"other", Sample.accounts, {}, true, none, 0⟩).2),
            Sample.run_within Detached.refl fun _ => .tryPublish _ rfl _⟩,
          .before true ⟨Sample.run fun w => (.ok (), w),
            Sample.run_within Detached.refl Detached.refl⟩] :
          List (Operation Bool (Detached : World Unit → World Unit → Prop)))
        Sample.start) :=
  endedOnce_runAll _ Sample.unopened_start rfl rfl _

end TransactionalTest
