import TransactionalTest.Proofs.FailedSetUp

/-!
# Hooks that call the lifecycle again

A before-hook may itself run a before-test or an after-test phase of the controller that called it,
also on the key that is being set up.

* `Controller.prepared` : what the before-hooks of a test answer, and the world they leave;
* `Controller.AllOrNothing` : the phase opens its transaction, or undoes what it has begun;
* `Controller.setUp_ok_iff` : a set-up gets through when nothing stands in its way;
* `Controller.allOrNothing_iff` : the phase is all or nothing unless a hook has moved its key on
  and left the way free, as an after-test phase of the same test does.

A set-up is undone before its context is published.  The transition to `active` comes later, and
when it fails the context stays where it is.
-/

namespace TransactionalTest

variable {α : Type}

namespace Controller

variable {c : Controller} {t : TestRun α} {m : Manager} {a : Attribute} {w w₁ : World α}

/-! ### Set-ups that get through -/

/-- A set-up gets through when its hooks pass and leave the slot free and the manager without an
armed failure. -/
theorem setUp_ok_iff : (c.setUp t m a w).1 = .ok () ↔
    (c.runner.runBefore t w).1 = .ok () ∧
      (c.runner.runBefore t w).2.context? t.key = none ∧
      ((c.runner.runBefore t w).2.store m).beginFailure = none := by
  unfold setUp openTransaction
  rcases c.runner.runBefore t w with ⟨e | _, s⟩
  · simp
  · have hq := c.quiet_isRollback t s
    have harmed : ((c.isRollback t s).2.store m).beginFailure = (s.store m).beginFailure := by
      rw [hq.store]
    cases hf : (s.store m).beginFailure with
    | some reason =>
      have hstart := Context.start_of_armed (c := c.freshContext t m a s) rfl (harmed.trans hf)
      simp only [freshContext] at hstart
      simp [hstart]
    | none =>
      have hstart := Context.start_of_unarmed (c := c.freshContext t m a s) rfl (harmed.trans hf)
      simp only [freshContext] at hstart
      simp only [hstart, publish, World.tryPublish, context?_begunWorld, hq.context?]
      cases s.context? t.key <;> simp

/-- The context that a set-up publishes. -/
def opened (c : Controller) (t : TestRun α) (m : Manager) (a : Attribute) (w : World α) :
    Context :=
  (c.freshContext t m a w).begun (c.isRollback t w).2

/-- A set-up that gets through leaves its context in the slot of the test. -/
theorem context?_setUp_of_ok (h : (c.setUp t m a w).1 = .ok ()) :
    (c.setUp t m a w).2.context? t.key = some (c.opened t m a (c.runner.runBefore t w).2) := by
  have hexit := c.setUp_exit t m a w
  generalize c.setUp t m a w = out at hexit h
  cases hexit with
  | published hooks free =>
    rw [hooks]
    exact World.context?_setContext_self ..
  | _ => cases h

/-! ### Entering a test with any hooks -/

/-- After a set-up that got through, a test is entered if its key may become active. -/
theorem enter_of_setUp_ok (hidle : c.state t.key w = .idle) {w₂ : World α}
    (hset : c.setUp t m a (c.requested t.key w) = (.ok (), w₂)) :
    c.enter t m a w = ((c.transition t.key .transactionStarted w₂).1.map fun _ => (),
      (c.transition t.key .transactionStarted w₂).2) := by
  unfold enter
  simp only [transition_requested hidle, hset]
  split <;> rename_i h <;> rw [h] <;> rfl

/-- After a set-up that failed, so does entering the test. -/
theorem enter_of_setUp_error (hidle : c.state t.key w = .idle) {e : LifecycleError} {w₂ : World α}
    (hset : c.setUp t m a (c.requested t.key w) = (.error e, w₂)) :
    ∃ e', c.enter t m a w = (.error e', (c.transition t.key (.setupAborted e.message) w₂).2) := by
  unfold enter
  simp only [transition_requested hidle, hset]
  split <;> rename_i h <;> rw [h] <;> exact ⟨_, rfl⟩

/-- A before-test phase enters its test when the key is free and a manager is found. -/
theorem beforeTest_of_found (hfree : w.context? t.key = none) (hidle : c.state t.key w = .idle)
    (hi : t.intent? = some a) (hin : a.propagation.optsOut = false)
    (hl : c.managerFor t a w = (.ok (some m), w₁)) : c.beforeTest t w = c.enter t m a w₁ := by
  have hbusy : c.isBusy t.key w = false := isBusy_eq_false.2 ⟨hfree, hidle⟩
  have hexit := c.beforeTest_exit t w
  generalize c.beforeTest t w = out at hexit
  cases hexit with
  | busy occupied => cases hbusy.symm.trans occupied
  | undeclared _ intent => cases hi.symm.trans intent
  | optedOut _ intent out =>
    cases hi.symm.trans intent
    cases hin.symm.trans out
  | lookupFailed _ intent _ lookup | notFound _ intent _ lookup | unmanaged _ intent _ lookup =>
    cases hi.symm.trans intent
    cases hl.symm.trans lookup
  | entered _ intent _ lookup =>
    cases hi.symm.trans intent
    cases hl.symm.trans lookup
    rfl

/-! ### All or nothing -/

/-- What the before-hooks of a test answer, and the world in which they leave it, when the manager
has been found in this world. -/
def prepared (c : Controller) (t : TestRun α) (w : World α) :
    Except LifecycleError Unit × World α :=
  c.runner.runBefore t (c.requested t.key w)

/-- The phase has opened its transaction and made its key active, or it has failed and undone what
it has begun since the hooks were through. -/
inductive AllOrNothing (c : Controller) (t : TestRun α) (m : Manager) (a : Attribute)
    (s : World α) : Except LifecycleError Unit × World α → Prop
  | all {w : World α} (state : c.state t.key w = .active)
      (slot : w.context? t.key = some (c.opened t m a s)) : AllOrNothing c t m a s (.ok (), w)
  | nothing {e : LifecycleError} {w : World α} (left : LeavesNothing s w) :
      AllOrNothing c t m a s (.error e, w)

theorem shared_transition (c : Controller) (key : ExecutionKey) (event : LifecycleEvent)
    (w : World α) : (c.transition key event w).2.shared = w.shared :=
  transition_within World.frame_shared (fun _ _ => rfl) c key event w

/-- A set-up that fails is undone, whatever becomes of the state of the key. -/
theorem allOrNothing_of_setUp_error (hidle : c.state t.key w = .idle)
    (hw : (c.requested t.key w).Minted) (ht : t.subject.Within fun w w' => w.Minted → w'.Minted)
    {e : LifecycleError} {w₂ : World α}
    (hset : c.setUp t m a (c.requested t.key w) = (.error e, w₂)) :
    AllOrNothing c t m a (c.prepared t w).2 (c.enter t m a w) := by
  have hleft := leavesNothing_setUp hw ht (congrArg Prod.fst hset)
  rw [hset] at hleft
  obtain ⟨e', he⟩ := enter_of_setUp_error hidle hset
  rw [he]
  exact .nothing (hleft.congr rfl (shared_transition ..))

/-- One that gets through is undone no more: all hangs on the state in which the hooks have left
the key. -/
theorem allOrNothing_iff_of_setUp_ok (hidle : c.state t.key w = .idle) {w₂ : World α}
    (hset : c.setUp t m a (c.requested t.key w) = (.ok (), w₂)) :
    AllOrNothing c t m a (c.prepared t w).2 (c.enter t m a w) ↔
      c.state t.key (c.prepared t w).2 = .pending := by
  have hok := congrArg Prod.fst hset
  have hfree := (setUp_ok_iff.1 hok).2.1
  have hpublished := context?_setUp_of_ok hok
  have hstates := c.states_setUp t m a (c.requested t.key w)
  rw [hset] at hpublished hstates
  have hstate : c.state t.key w₂ = c.state t.key (c.prepared t w).2 := state_congr hstates
  rw [enter_of_setUp_ok hidle hset, ← hstate]
  constructor
  · intro hall
    rcases c.transition_cases t.key .transactionStarted w₂ with ⟨target, hnext, h⟩ | h
    · cases hs : c.state t.key w₂ <;> rw [hs] at hnext <;> first | rfl | cases hnext
    · -- the slot was free and has been filled, so something has been left behind
      rw [h] at hall
      cases hall with
      | nothing left =>
        have hnone : w₂.context? t.key = none :=
          (congrArg (Table.find? t.key) left.contexts).trans hfree
        cases hpublished.symm.trans hnone
  · intro hpending
    rw [transition_of_next hpending
      (show LifecycleState.pending.next? .transactionStarted = some .active from rfl)]
    refine .all (state_setState_self ..) ?_
    rw [setState_eq]
    exact hpublished

/-- **With hooks that may do anything, a before-test phase on a free key is all or nothing, but for
one case**: every hook has passed, no other context and no armed failure stand in the way, and yet
the key is no longer pending, because a hook has moved it on. -/
theorem allOrNothing_iff (hw : w.Minted) (ht : t.subject.Within fun w w' => w.Minted → w'.Minted)
    (hfree : w.context? t.key = none) (hidle : c.state t.key w = .idle)
    (hi : t.intent? = some a) (hin : a.propagation.optsOut = false)
    (hl : c.managerFor t a w = (.ok (some m), w₁)) :
    AllOrNothing c t m a (c.prepared t w₁).2 (c.beforeTest t w) ↔
      ((c.prepared t w₁).1 = .ok () → (c.prepared t w₁).2.context? t.key = none →
        ((c.prepared t w₁).2.store m).beginFailure = none →
        c.state t.key (c.prepared t w₁).2 = .pending) := by
  have hq := quiet_of_managerFor hl
  have hidle₁ : c.state t.key w₁ = .idle := (state_congr hq.states).trans hidle
  have hminted : (c.requested t.key w₁).Minted := by
    rw [requested, setState_eq]
    exact World.closed_minted.states _ _ (hw.quiet (hq.trans (.report _ _)))
  have hthrough : (c.setUp t m a (c.requested t.key w₁)).1 = .ok () ↔ _ := setUp_ok_iff
  rw [beforeTest_of_found hfree hidle hi hin hl]
  rcases hset : c.setUp t m a (c.requested t.key w₁) with ⟨e | _, w₂⟩ <;> rw [hset] at hthrough
  · refine iff_of_true (allOrNothing_of_setUp_error hidle₁ hminted ht hset) ?_
    intro hok hslot harmed
    cases hthrough.2 ⟨hok, hslot, harmed⟩
  · obtain ⟨hok, hslot, harmed⟩ := hthrough.1 rfl
    rw [allOrNothing_iff_of_setUp_ok hidle₁ hset]
    exact ⟨fun h _ _ _ => h, fun h => h hok hslot harmed⟩

/-- A hook that runs a before-test phase of its own test, which is refused. -/
theorem allOrNothing_iff_nested :
    let t := Sample.run fun w => (.ok (), (Sample.controller.beforeTest Sample.quietTest w).2)
    let a := Attribute.forTest {} t.name
    let s := (Sample.controller.prepared t (Sample.controller.managerFor t a Sample.start).2).2
    AllOrNothing Sample.controller t Sample.accounts a s
      (Sample.controller.beforeTest t Sample.start) := by
  intro t a s
  have hquiet : Sample.quietTest.subject.Within fun w w' => w.Minted → w'.Minted :=
    Sample.run_within (fun _ h => h) fun _ h => h
  have ht : t.subject.Within fun w w' => w.Minted → w'.Minted :=
    Sample.run_within (fun _ h => h) fun w =>
      beforeTest_within World.closed_minted hquiet Sample.controller w
  have hl : (Sample.controller.managerFor t a Sample.start).1 = .ok (some Sample.accounts) := by
    decide +kernel
  have hpending : Sample.controller.state t.key s = .pending := by decide +kernel
  exact (allOrNothing_iff Sample.minted_start ht rfl rfl (by decide +kernel) rfl
    (Prod.ext hl rfl)).2 fun _ _ _ => hpending

/-- A hook that runs an after-test phase of its own test: the before-test phase answers an error,
and its context stays published with its transaction open. -/
theorem opened_and_refused :
    let t := Sample.run fun w => (.ok (), (Sample.controller.afterTest Sample.quietTest w).2)
    let out := Sample.controller.beforeTest t Sample.start
    out.1 = .error (.illegalState (.badTransition .idle .transactionStarted)) ∧
      (out.2.context? t.key).any (·.isActive out.2) = true ∧
      (out.2.store Sample.accounts).openCount = 1 := by
  decide +kernel

end Controller

end TransactionalTest
