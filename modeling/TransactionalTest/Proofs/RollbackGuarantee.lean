import TransactionalTest.Proofs.Closure

/-!
# What a test leaves in the committed store

A test may flag its transaction for commit and back, end it early and open others, and begins
and ends may fail.  Its steps and their outcomes alone say which writes are committed.

* `Account` : what the steps of a body amount to, by their outcomes;
* `Spares` : hooks that leave the transactions and the committed store of a manager alone;
* `Account.Follows` : the world agrees with the account;
* `committed_afterTest` : after the test the committed store is what the account says.
-/

namespace TransactionalTest

variable {α : Type}

/-! ### The account of a test -/

/-- What the steps of a body amount to. -/
structure Account where
  /-- The flag in force. -/
  rollback : Bool
  /-- The writes of the open transaction, oldest first. -/
  staged : List (String × String) := []
  /-- The writes of the committed transactions, in the order of their ends. -/
  published : List (String × String) := []

namespace Account

/-- A step of the body, and whether it did what it was asked to do.  An end gives the
transaction up also when it fails. -/
def step (a : Account) : BodyStep × Bool → Account
  | (.flagForRollback, true) => { a with rollback := true }
  | (.flagForCommit, true) => { a with rollback := false }
  | (.write k v, true) => { a with staged := a.staged ++ [(k, v)] }
  | (.start, true) => { a with staged := [] }
  | (.finish, ok) =>
    { a with
      staged := []
      published := if ok && !a.rollback then a.published ++ a.staged else a.published }
  | _ => a

/-- The writes that a test commits, whose flag is this one before its first step. -/
def publishedBy (rollback : Bool) (trace : List (BodyStep × Bool)) : List (String × String) :=
  (trace.foldl step { rollback := rollback }).published

/-- Without a flag for commit nothing is committed. -/
theorem foldl_step_of_rollback {trace : List (BodyStep × Bool)}
    (h : ∀ p ∈ trace, p.1 = .flagForCommit → p.2 = false) {a : Account} (ha : a.rollback = true) :
    (trace.foldl step a).rollback = true ∧ (trace.foldl step a).published = a.published := by
  induction trace generalizing a with
  | nil => exact ⟨ha, rfl⟩
  | cons p trace ih =>
    have hstep : (a.step p).rollback = true ∧ (a.step p).published = a.published := by
      unfold step
      split
      · exact ⟨rfl, rfl⟩
      · exact absurd (h _ List.mem_cons_self rfl) Bool.noConfusion
      · exact ⟨ha, rfl⟩
      · exact ⟨ha, rfl⟩
      · exact ⟨ha, by simp [ha]⟩
      · exact ⟨ha, rfl⟩
    obtain ⟨hr, hp⟩ := ih (fun q hq => h q (List.mem_cons_of_mem _ hq)) hstep.1
    exact ⟨hr, hp.trans hstep.2⟩

end Account

/-! ### Hooks that leave a manager alone -/

/-- The transactions and the committed store of a manager are as they were, and nobody has asked
it to end one.  Besides, the controllers still know what they have remembered, and no identifier
has been made up; what a hook does to other managers, or prepares for this one, is its own
affair. -/
structure Spares (M : Manager) (w w' : World α) : Prop where
  opened : (w'.store M).opened = (w.store M).opened
  completed : (w'.store M).completed = (w.store M).completed
  committed : (w'.store M).committed = (w.store M).committed
  endings : ∃ es : List Ending, w'.endings = w.endings ++ es ∧ ∀ e ∈ es, e.manager ≠ M
  configured : ∀ k a, w.configurationCache.find? k = some a →
    w'.configurationCache.find? k = some a
  minted : w.Minted → w'.Minted

variable {M : Manager} {w w' : World α}

theorem Spares.of_quiet (q : w.Quiet w') : Spares M w w' :=
  ⟨by rw [q.store], by rw [q.store], by rw [q.store],
    ⟨[], by rw [q.endings, List.append_nil], fun _ he => nomatch he⟩, q.configured,
    fun h => h.quiet q⟩

theorem frame_spares (M : Manager) : World.Frame (Spares M : World α → World α → Prop) where
  refl w := .of_quiet (.refl w)
  trans {u v w} h h' := by
    refine ⟨h'.opened.trans h.opened, h'.completed.trans h.completed,
      h'.committed.trans h.committed, ?_, fun k a hk => h'.configured k a (h.configured k a hk),
      fun hm => h'.minted (h.minted hm)⟩
    obtain ⟨es, he, hes⟩ := h.endings
    obtain ⟨es', he', hes'⟩ := h'.endings
    refine ⟨es ++ es', by rw [he', he, List.append_assoc], fun e hmem => ?_⟩
    exact (List.mem_append.1 hmem).elim (hes e) (hes' e)
  quiet := .of_quiet
  invoked key hook r w :=
    ⟨rfl, rfl, rfl, ⟨[], World.endings_record .., fun _ he => nomatch he⟩, fun _ _ h => h, id⟩

theorem Spares.states (w : World α) (states : Table (OwnerId × ExecutionKey) LifecycleState) :
    Spares M w { w with states := states } :=
  ⟨rfl, rfl, rfl, ⟨[], (List.append_nil _).symm, fun _ he => nomatch he⟩, fun _ _ h => h, id⟩

theorem Spares.failNextFinish (M : Manager) (reason : String) (w : World α) :
    Spares M w (w.failNextFinish M reason) := by
  have hs : (w.failNextFinish M reason).store M = (w.store M).failNextFinish reason :=
    World.store_setStore_self ..
  refine ⟨?_, ?_, ?_, ⟨[], (List.append_nil _).symm, fun _ he => nomatch he⟩, fun _ _ h => h,
    World.closed_minted.failNextFinish M reason w⟩ <;> rw [hs] <;> rfl

/-! ### The world agrees with the account -/

namespace Account

/-- The context has no handle and nothing is staged, or it has the handle of an open transaction
that has staged what the account says. -/
def Stages (a : Account) (s : Store) : Option Status → Prop
  | none => a.staged = []
  | some status => status.id ∉ s.completed ∧
    ∃ name, s.opened.find? status.id = some ⟨name, a.staged⟩

/-- The committed store, the flag and the staged writes are those of the account. -/
structure Follows (a : Account) (M : Manager) (key : ExecutionKey) (base : Table String String)
    (w : World α) : Prop where
  committed : (w.store M).committed = Store.overlay a.published base
  context : ∃ x, w.context? key = some x ∧ x.manager = M ∧ x.flaggedForRollback = a.rollback ∧
    a.Stages (w.store M) x.status

namespace Follows

variable {a : Account} {key : ExecutionKey} {base : Table String String}

/-- Another context in the slot, of a world with the same memory of the manager. -/
theorem setContext {y : Context}
    (hc : (w'.store M).committed = Store.overlay a.published base) (hm : y.manager = M)
    (hf : y.flaggedForRollback = a.rollback) (hs : a.Stages (w'.store M) y.status) :
    a.Follows M key base (w'.setContext key y) :=
  ⟨hc, y, World.context?_setContext_self .., hm, hf, hs⟩

theorem congr (h : a.Follows M key base w) (hs : w'.store M = w.store M)
    (hc : w'.context? key = w.context? key) : a.Follows M key base w' :=
  ⟨hs ▸ h.committed, by rw [hs, hc]; exact h.context⟩

theorem isFlaggedForRollback (h : a.Follows M key base w) :
    a.Follows M key base (InTest.isFlaggedForRollback key w).2 := by
  obtain ⟨x, hx, hm, hf, hs⟩ := h.context
  rw [InTest.isFlaggedForRollback, InTest.withContext_of_some hx]
  exact setContext h.committed hm hf hs

theorem setFlag (h : a.Follows M key base w) (rollback : Bool) :
    (if (InTest.setFlag rollback key w).1.isOk then { a with rollback := rollback } else a).Follows
      M key base (InTest.setFlag rollback key w).2 := by
  obtain ⟨x, hx, hm, hf, hs⟩ := h.context
  rw [InTest.setFlag, InTest.withContext_of_some hx]
  by_cases ha : x.isActive w = true
  · simp only [ha, ↓reduceIte]
    exact setContext h.committed hm rfl hs
  · simp only [ha]
    exact setContext h.committed hm hf hs

/-- An end by a context, through its manager. -/
theorem ending {x : Context} {status : Status} (hx : x.manager = M)
    (hf : x.flaggedForRollback = a.rollback)
    (hc : (w.store M).committed = Store.overlay a.published base)
    (hs : a.Stages (w.store M) (some status)) :
    ((x.ending status w).2.store M).committed =
      Store.overlay (a.step (.finish, (x.ending status w).1.isOk)).published base := by
  obtain ⟨hrun, name, ht⟩ := hs
  subst hx
  have hr := Store.finish_released hrun ht x.flaggedForRollback
  have hout : (x.ending status w).1 =
      ((w.store x.manager).finish status x.flaggedForRollback).1 := rfl
  rw [Context.store_ending_self, hr.committed, hout, hc, hf]
  simp only [step]
  split
  · simp [Store.overlay]
  · rfl

theorem finish (h : a.Follows M key base w) :
    (a.step (.finish, (InTest.finish key w).1.isOk)).Follows M key base
      (InTest.finish key w).2 := by
  obtain ⟨x, hx, hm, hf, hs⟩ := h.context
  rw [InTest.finish, InTest.withContext_of_some hx]
  cases hst : x.status with
  | none =>
    rw [Context.finish_of_none hst]
    refine setContext ?_ hm hf ?_
    · exact h.committed
    · rw [hst]
      rfl
  | some status =>
    obtain ⟨w', hq, hfin⟩ := Context.finish_of_some hst w
    have hok : ((x.ending status w).1.mapError
        (LifecycleError.transactionEnd x.testName)).isOk = (x.ending status w).1.isOk := by
      cases (x.ending status w).1 <;> rfl
    rw [hfin]
    refine setContext ?_ hm hf ?_
    · rw [hq.store, hok]
      exact ending hm hf h.committed (hst ▸ hs)
    · rfl

theorem start (hw : w.Minted) (h : a.Follows M key base w) :
    (a.step (.start, (InTest.start key w).1.isOk)).Follows M key base (InTest.start key w).2 := by
  obtain ⟨x, hx, rfl, hf, hs⟩ := h.context
  rw [InTest.start, InTest.withContext_of_some hx]
  cases hst : x.status with
  | some status =>
    rw [Context.start_of_some hst]
    exact setContext h.committed rfl hf hs
  | none =>
    rcases Context.start_cases hst w with ⟨reason, hstart⟩ | hstart <;> rw [hstart]
    · have hstore := World.store_refusing_self x.manager x.intent reason w
      refine setContext ?_ rfl hf ?_
      · rw [hstore]
        exact h.committed
      · rw [hst] at hs ⊢
        exact hs
    · refine setContext ?_ rfl hf ?_
      · rw [Context.store_begunWorld_self]
        exact h.committed
      · rw [Context.store_begunWorld_self]
        exact ⟨hw.not_completed x.manager x.intent, x.intent.name, Table.find?_insert_self ..⟩

theorem writeCurrent (h : a.Follows M key base w) (k v : String) :
    (a.step (.write k v, (w.writeCurrent key k v).1.isOk)).Follows M key base
      (w.writeCurrent key k v).2 := by
  obtain ⟨x, hx, rfl, hf, hs⟩ := h.context
  simp only [World.writeCurrent, hx]
  cases hst : x.status with
  | none => exact ⟨h.committed, x, hx, rfl, hf, hs⟩
  | some status =>
    rw [hst] at hs
    obtain ⟨hrun, name, ht⟩ := hs
    simp only [World.write, Store.write_of_open hrun ht]
    refine ⟨?_, x, hx, rfl, hf, ?_⟩
    · rw [World.store_setStore_self]
      exact h.committed
    · rw [World.store_setStore_self, hst]
      exact ⟨hrun, name, Table.find?_insert_self ..⟩

/-- A change of one store that is none of open transactions and committed store. -/
theorem setStore (h : a.Follows M key base w) {m : Manager} {s : Store}
    (ho : s.opened = (w.store m).opened) (hc : s.completed = (w.store m).completed)
    (hd : s.committed = (w.store m).committed) : a.Follows M key base (w.setStore m s) := by
  by_cases hm : M = m
  · subst hm
    obtain ⟨x, hx, hman, hf, hs⟩ := h.context
    refine ⟨?_, x, hx, hman, hf, ?_⟩
    · rw [World.store_setStore_self, hd]
      exact h.committed
    · rw [World.store_setStore_self]
      cases hst : x.status with
      | none =>
        rw [hst] at hs
        exact hs
      | some status =>
        rw [hst] at hs
        rw [Stages, ho, hc]
        exact hs
  · obtain ⟨x, hx, hman, hf, hs⟩ := h.context
    have hstore := World.store_setStore_of_ne hm s w
    exact ⟨hstore ▸ h.committed, x, hx, hman, hf, hstore ▸ hs⟩

/-- The world agrees with the account after one more step of the body. -/
theorem run (hw : w.Minted) (h : a.Follows M key base w) (b : BodyStep) :
    (a.step (b, (b.run key w).1.isOk)).Follows M key base (b.run key w).2 := by
  cases b with
  | isActive => exact h
  | isFlaggedForRollback => exact h.isFlaggedForRollback
  | flagForRollback =>
    have hset := h.setFlag true
    simp only [BodyStep.run, InTest.flagForRollback, Outcome.isOk]
    cases hok : (InTest.setFlag true key w).1.isOk <;> rw [hok] at hset <;> exact hset
  | flagForCommit =>
    have hset := h.setFlag false
    simp only [BodyStep.run, InTest.flagForCommit, Outcome.isOk]
    cases hok : (InTest.setFlag false key w).1.isOk <;> rw [hok] at hset <;> exact hset
  | finish => exact h.finish
  | start => exact h.start hw
  | write k v => exact h.writeCurrent k v
  | failNextBegin m reason => exact h.setStore rfl rfl rfl
  | failNextFinish m reason => exact h.setStore rfl rfl rfl

/-- The world agrees with the account after the whole body. -/
theorem runAll (hw : w.Minted) (h : a.Follows M key base w) (body : List BodyStep) :
    let out := BodyStep.runAll key body w
    out.2.Minted ∧
      ((body.zip (out.1.map Outcome.isOk)).foldl step a).Follows M key base out.2 := by
  induction body generalizing a w with
  | nil => exact ⟨hw, h⟩
  | cons b body ih =>
    exact ih (b.run_within World.closed_minted key w hw) (h.run hw b)

end Follows

end Account

/-! ### The teardown -/

/-- The ends of a manager's transactions between two worlds, as steps with their outcomes. -/
def endsBetween (M : Manager) (w w' : World α) : List (BodyStep × Bool) :=
  ((w'.endings.drop w.endings.length).filter fun e => e.manager = M).map fun e =>
    (.finish, e.outcome.isOk)

theorem endsBetween_of_append {es : List Ending} (h : w'.endings = w.endings ++ es) :
    endsBetween M w w' = (es.filter fun e => e.manager = M).map fun e =>
      (.finish, e.outcome.isOk) := by
  rw [endsBetween, h, List.drop_left]

/-- Hooks that spare a manager make no ends of its transactions. -/
theorem Spares.endsBetween_eq {u : World α} (h : Spares M w w') {es : List Ending}
    (he : w.endings = u.endings ++ es) : endsBetween M u w' =
      (es.filter fun e => e.manager = M).map fun e => (.finish, e.outcome.isOk) := by
  obtain ⟨es', he', hes'⟩ := h.endings
  have hnone : es'.filter (fun e => decide (e.manager = M)) = [] := by
    simpa [List.filter_eq_nil_iff] using hes'
  rw [endsBetween_of_append (he'.trans (by rw [he, List.append_assoc])), List.filter_append, hnone,
    List.append_nil]

namespace Controller

variable {c : Controller} {t : TestRun α} {a : Account} {base : Table String String}

/-- The after-hooks and what follows them spare the manager. -/
theorem spares_afterTest (ht : t.subject.Within (Spares M)) {x : Context}
    (hx : w.context? t.key = some x) :
    Spares M (finishTaken t x (taken t w)).2 (c.afterTest t w).2 := by
  have hR := frame_spares (α := α) M
  rw [afterTest_of_some hx]
  have hhooks := HookRunner.runAfter_within hR ht c.runner (finishTaken t x (taken t w)).2
  have hmoved := transition_within hR Spares.states c t.key .testFinished
    (c.runner.runAfter t (finishTaken t x (taken t w)).2).2
  exact hR.trans (hR.trans hhooks hmoved) (.of_quiet (quiet_settle ..))

/-- The after-test phase ends the transaction that is left as the flag in force says. -/
theorem committed_of_follows (ht : t.subject.Within (Spares M)) (h : a.Follows M t.key base w) :
    ((c.afterTest t w).2.store M).committed = Store.overlay
      ((endsBetween M w (c.afterTest t w).2).foldl Account.step a).published base := by
  obtain ⟨x, hx, hm, hf, hs⟩ := h.context
  have hspares : Spares M _ (c.afterTest t w).2 := spares_afterTest ht hx
  have htaken : (taken t w).endings = w.endings := (World.Quiet.report _ w).endings
  -- what is left to settle is the one end that the phase makes itself, if any
  rw [hspares.committed]
  cases hst : x.status with
  | none =>
    have hq : (taken t w).Quiet (finishTaken t x (taken t w)).2 := by
      rw [finishTaken_of_inactive (by simp [Context.isActive, hst])]
      exact .report _ _
    rw [hspares.endsBetween_eq (u := w) (hq.endings.trans (htaken.trans (List.append_nil _).symm)),
      hq.store]
    exact h.committed
  | some status =>
    rw [hst] at hs
    obtain ⟨w', hq, hfin⟩ := finishTaken_of_active (t := t) (w := taken t w) hst
      (by rw [hm]; exact hs.1)
    have hends : (finishTaken t x (taken t w)).2.endings = w.endings ++
        [⟨x.manager, status, x.flaggedForRollback, (x.ending status (taken t w)).1⟩] := by
      rw [hfin, hq.endings, Context.endings_ending, htaken]
    rw [hspares.endsBetween_eq hends, hfin, hq.store,
      Account.Follows.ending (w := taken t w) hm hf h.committed hs]
    simp [hm]

/-- A test that is set up without an error has been given the context that stands in its slot: it
is flagged as the settings of the test say, and its transaction has staged nothing. -/
theorem follows_setUp (ht : t.subject.Within (Spares M)) {m : Manager} {intent : Attribute}
    (hw : w.Minted) (hok : (c.setUp t m intent w).1 = .ok ()) {r : Bool}
    (hr : ∀ v : World α, Spares M w v → (c.isRollback t v).1 = r)
    (hm : ∀ x, (c.setUp t m intent w).2.context? t.key = some x → x.manager = M) :
    Account.Follows { rollback := r } M t.key (w.store M).committed (c.setUp t m intent w).2 := by
  have hrun := HookRunner.runBefore_within (frame_spares M) ht c.runner w
  have hexit := c.setUp_exit t m intent w
  generalize c.setUp t m intent w = out at hexit hok hm
  cases hexit with
  | @published w₁ hooks free =>
    rw [hooks] at hrun
    have hq := c.quiet_isRollback t w₁
    obtain rfl : m = M := hm _ (World.context?_setContext_self ..)
    have hminted := (hrun.minted hw).quiet hq
    have hstore := Context.store_begunWorld_self (c.freshContext t m intent w₁)
      (c.isRollback t w₁).2
    refine Account.Follows.setContext ?_ rfl (hr w₁ hrun) ?_
    · rw [show (World.store m _) = _ from hstore]
      exact (congrArg Store.committed (hq.store m)).trans hrun.committed
    · rw [show (World.store m _) = _ from hstore]
      exact ⟨hminted.not_completed m intent, intent.name, Table.find?_insert_self ..⟩
  | _ => cases hok

theorem follows_beforeTest (ht : t.subject.Within (Spares M)) (hw : w.Minted)
    (hok : (c.beforeTest t w).1 = .ok ()) {x : Context}
    (hx : (c.beforeTest t w).2.context? t.key = some x) (hm : x.manager = M) :
    (c.beforeTest t w).2.Minted ∧ Account.Follows { rollback := (c.isRollback t w).1 } M t.key
      (w.store M).committed (c.beforeTest t w).2 := by
  have hexit := c.beforeTest_exit t w
  generalize c.beforeTest t w = out at hexit hok hx
  -- where the test is left alone there is no context
  have hfree : ∀ {w' : World α}, c.isBusy t.key w = false → w.Quiet w' →
      w'.context? t.key = some x → False := by
    intro w' free q hx
    cases ((q.context? t.key).trans (isBusy_eq_false.1 free).1).symm.trans hx
  cases hexit with
  | undeclared free _ quiet => exact (hfree free quiet hx).elim
  | optedOut free _ _ quiet => exact (hfree free quiet hx).elim
  | unmanaged free _ _ lookup _ quiet =>
    exact (hfree free ((quiet_of_managerFor lookup).trans quiet) hx).elim
  | @entered intent m w₁ free _ _ lookup =>
    obtain ⟨hset, henter⟩ := setUp_of_enter_ok hok
    have hmove := fun event (v : World α) =>
      transition_within (frame_spares M) Spares.states c t.key event v
    have hq := quiet_of_managerFor lookup
    have hreq := hmove .transactionRequested w₁
    have hcontext : ∀ y, (c.setUp t m intent (c.transition t.key .transactionRequested
        w₁).2).2.context? t.key = some y → y.manager = M := by
      intro y hy
      rw [henter, World.context?, contexts_transition, ← World.context?, hy] at hx
      exact Option.some.inj hx ▸ hm
    have hr : ∀ v : World α, Spares M (c.transition t.key .transactionRequested w₁).2 v →
        (c.isRollback t v).1 = (c.isRollback t w).1 := by
      intro v hv
      refine c.isRollback_of_configured t intent fun k b hk => ?_
      rw [lookup] at hk
      exact hv.configured k b (hreq.configured k b hk)
    have hfollows := follows_setUp ht (hreq.minted (hw.quiet hq)) hset hr hcontext
    rw [hreq.committed, hq.store] at hfollows
    refine ⟨?_, ?_⟩
    · exact enter_within World.closed_minted (ht.mono fun _ _ h => h.minted) c m intent w₁
        (hw.quiet hq)
    · rw [henter]
      exact hfollows.congr (by rw [World.store, stores_transition, World.store])
        (by rw [World.context?, contexts_transition, World.context?])
  | _ => cases hok

/-- **What a test leaves in the committed store.**  After a test that has opened a transaction on a
manager, the manager's committed store is the one before the test with the writes of those
transactions laid over it, in the order of their ends, whose end succeeded while the flag was
`commit`; the flag is that of the test's settings until the body has set it.  So without a flag
for commit a test to be rolled back leaves the committed store as it was. -/
theorem committed_afterTest (c : Controller) {t : TestRun α} {M : Manager} {w : World α}
    (hw : w.Minted) (ht : t.subject.Within (Spares M)) (hok : (c.beforeTest t w).1 = .ok ())
    {x : Context} (hx : (c.beforeTest t w).2.context? t.key = some x) (hm : x.manager = M)
    (body : List BodyStep) :
    let rollback := (c.isRollback t w).1
    let ran := BodyStep.runAll t.key body (c.beforeTest t w).2
    let ended := (c.afterTest t ran.2).2
    let steps := body.zip (ran.1.map Outcome.isOk)
    (∀ key, (ended.store M).committedValue? key =
      (Store.lastValue? key (Account.publishedBy rollback
        (steps ++ endsBetween M ran.2 ended))).or ((w.store M).committedValue? key)) ∧
    (rollback = true → (∀ p ∈ steps, p.1 = .flagForCommit → p.2 = false) →
      (ended.store M).committed = (w.store M).committed) := by
  intro rollback ran ended steps
  obtain ⟨hminted, hfollows⟩ := follows_beforeTest ht hw hok hx hm
  obtain ⟨-, hran⟩ := hfollows.runAll hminted body
  -- table for table first; both parts of the statement are read off it
  have hend : (ended.store M).committed = Store.overlay (Account.publishedBy rollback
      (steps ++ endsBetween M ran.2 ended)) (w.store M).committed := by
    rw [Account.publishedBy, List.foldl_append]
    exact committed_of_follows ht hran
  refine ⟨fun key => ?_, fun hr hflags => ?_⟩
  · rw [Store.committedValue?, hend]
    exact Store.committedValue?_overlay ..
  · have hteardown : ∀ p ∈ steps ++ endsBetween M ran.2 ended, p.1 = .flagForCommit →
        p.2 = false := by
      intro p hp hc
      rcases List.mem_append.1 hp with hp | hp
      · exact hflags p hp hc
      · obtain ⟨e, -, rfl⟩ := List.mem_map.1 hp
        cases hc
    rw [hend, Account.publishedBy, (Account.foldl_step_of_rollback hteardown hr).2]
    rfl

/-- The first end fails and loses its write; the flag outlives the restart, so that the second
transaction is committed. -/
theorem committed_afterTest_sample :
    let t := Sample.run fun w => (.ok (), w.failNextFinish Sample.accounts "disk full")
    let ran := BodyStep.runAll t.key [.write "balance" "10", .flagForCommit, .finish, .start,
      .write "owner" "ada"] (Sample.controller.beforeTest t Sample.start).2
    let ended := (Sample.controller.afterTest t ran.2).2
    (ended.store Sample.accounts).committedValue? "balance" = none ∧
      (ended.store Sample.accounts).committedValue? "owner" = some "ada" := by
  have hwithin : (Sample.run fun w => (.ok (), w.failNextFinish Sample.accounts
      "disk full")).subject.Within (Spares Sample.accounts) :=
    Sample.run_within (frame_spares _).refl (Spares.failNextFinish Sample.accounts _)
  have h := (committed_afterTest Sample.controller Sample.minted_start hwithin rfl rfl rfl
    [.write "balance" "10", .flagForCommit, .finish, .start, .write "owner" "ada"]).1
  exact ⟨(h "balance").trans rfl, (h "owner").trans rfl⟩

end Controller

end TransactionalTest
