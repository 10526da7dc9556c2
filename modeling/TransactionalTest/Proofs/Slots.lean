import TransactionalTest.Proofs.Run

/-!
# Slots and states, phase by phase

What the two phases of a test do to the states of the controllers, and to the holder when the hooks
leave both alone.

* `Controller.beforeTest_stays`, `Controller.afterTest_stays` : a relation that does not count the
  state of the key of a phase is one that the phase stays within, if its hooks do;
* `Controller.OnlyState` : no state but that of one key on one controller has changed;
* `Controller.BeforeSlots`, `Controller.beforeSlots` : the before-test phase fills a free slot and
  makes its key active, or changes neither;
* `Controller.contexts_afterTest`, `Controller.state_afterTest` : the after-test phase empties the
  slot and makes its key idle;
* `BodyStep.states_run` : the body of a test does not touch the states.
-/

namespace TransactionalTest

variable {α : Type}

theorem frame_sameSlots : World.Frame (SameSlots : World α → World α → Prop) where
  refl := .refl
  trans := .trans
  quiet := .quiet
  invoked _ _ _ _ := ⟨rfl, rfl⟩

namespace Controller

variable {c d : Controller} {t : TestRun α} {m : Manager} {a : Attribute} {w w' : World α}
  {j key : ExecutionKey}

/-! ### Other states -/

theorem state_setState_of_owner_ne (h : (d.id, j) ≠ (c.id, key)) (s : LifecycleState)
    (w : World α) : d.state j (c.setState key s w) = d.state j w := by
  by_cases hs : s = .idle
  · simp [state, setState, hs, Table.find?_erase_of_ne h]
  · simp [state, setState, hs, Table.find?_insert_of_ne h]

/-- A relation between worlds for which nothing counts but the states, and which does not count the
state of this key on this controller. -/
structure StateFrame (c : Controller) (key : ExecutionKey)
    (R : World α → World α → Prop) : Prop where
  trans : ∀ {u v w}, R u v → R v w → R u w
  of_states : ∀ {w w'}, w'.states = w.states → R w w'
  setState : ∀ s w, R w (c.setState key s w)

theorem StateFrame.frame {R : World α → World α → Prop} (hR : c.StateFrame key R) :
    World.Frame R where
  refl _ := hR.of_states rfl
  trans := hR.trans
  quiet q := hR.of_states q.states
  invoked _ _ _ _ := hR.of_states rfl

section

variable {R : World α → World α → Prop}

theorem transition_stays (hR : c.StateFrame key R) (event : LifecycleEvent) (w : World α) :
    R w (c.transition key event w).2 := by
  rcases c.transition_cases key event w with ⟨target, -, h⟩ | h
  · rw [h]
    exact hR.trans (hR.of_states (World.Quiet.report _ w).states) (hR.setState ..)
  · rw [h]
    exact hR.of_states rfl

/-- A before-test phase stays within a relation that does not count its own state, if its hooks
do. -/
theorem beforeTest_stays (hR : c.StateFrame t.key R) (ht : t.subject.Within R) (w : World α) :
    R w (c.beforeTest t w).2 := by
  rcases c.beforeTest_cases t w with hq | ⟨m, a, w₁, hq, -, -, he⟩
  · exact hR.of_states hq.states
  · rw [he]
    refine hR.trans (hR.of_states hq.states) ?_
    have hreq := transition_stays hR .transactionRequested w₁
    have hrun := HookRunner.runBefore_within hR.frame ht c.runner
    rcases c.enter_snd t m a w₁ with h | ⟨event, h⟩ <;> rw [h]
    · exact hreq
    · exact hR.trans (hR.trans hreq (hR.trans (hrun _) (hR.of_states (c.states_setUp t m a _))))
        (transition_stays hR event _)

/-- So does an after-test phase. -/
theorem afterTest_stays (hR : c.StateFrame t.key R) (ht : t.subject.Within R) (w : World α) :
    R w (c.afterTest t w).2 := by
  have htaken : R w (taken t w) := hR.of_states rfl
  cases hx : w.context? t.key with
  | none =>
    rw [afterTest_of_none hx]
    exact hR.trans htaken (hR.setState .idle _)
  | some x =>
    rw [afterTest_of_some hx]
    have hended := hR.of_states (sameSlots_finishTaken t x (taken t w)).states
    have hrun := HookRunner.runAfter_within hR.frame ht c.runner (finishTaken t x (taken t w)).2
    exact hR.trans (hR.trans (hR.trans htaken (hR.trans hended hrun))
      (transition_stays hR .testFinished _)) (hR.of_states (quiet_settle ..).states)

end

/-- No state but that of this key on this controller has changed. -/
structure OnlyState (c : Controller) (key : ExecutionKey) (w w' : World α) : Prop where
  others : ∀ (d : Controller) j, (d.id, j) ≠ (c.id, key) → d.state j w' = d.state j w

theorem stateFrame_onlyState (c : Controller) (key : ExecutionKey) :
    c.StateFrame key (c.OnlyState key : World α → World α → Prop) where
  trans h h' := ⟨fun d j hne => (h'.others d j hne).trans (h.others d j hne)⟩
  of_states h := ⟨fun _ _ _ => state_congr h⟩
  setState s w := ⟨fun _ _ hne => state_setState_of_owner_ne hne s w⟩

/-- A test may finish in every state in which none is being set up. -/
theorem transition_testFinished (h : c.state key w ≠ .pending) :
    c.transition key .testFinished w = (.ok .idle, c.setState key .idle
      (w.report (.transition key.display (c.state key w) .testFinished .idle))) := by
  refine transition_of_next rfl ?_
  cases hs : c.state key w with
  | pending => exact absurd hs h
  | idle | active => rfl

/-- After-hooks that leave the state of the key alone are through before it changes. -/
theorem state_runAfter (ht : t.subject.Within (c.KeepsState t.key)) (x : Context) (w : World α) :
    c.state t.key (c.runner.runAfter t (finishTaken t x (taken t w)).2).2 = c.state t.key w := by
  have hended : c.state t.key (finishTaken t x (taken t w)).2 = c.state t.key w :=
    state_congr (sameSlots_finishTaken t x (taken t w)).states
  exact (HookRunner.runAfter_within (c.frame_keepsState t.key) ht c.runner _).trans hended

/-- Unless the key was pending, it is idle after the test. -/
theorem state_afterTest (ht : t.subject.Within (c.KeepsState t.key))
    (h : c.state t.key w ≠ .pending) : c.state t.key (c.afterTest t w).2 = .idle := by
  cases hx : w.context? t.key with
  | none =>
    rw [afterTest_of_none hx]
    exact state_setState_self ..
  | some x =>
    rw [afterTest_of_some hx]
    simp only
    rw [state_congr (quiet_settle ..).states,
      transition_testFinished ((state_runAfter ht x w).trans_ne h)]
    exact state_setState_self ..

/-- Hooks that leave all states alone leave that of a key alone. -/
theorem keepsState_of_sameSlots {s : Subject α} (h : s.Within SameSlots) :
    s.Within (c.KeepsState key) :=
  h.mono fun _ _ hw => state_congr hw.states

section

variable (ht : t.subject.Within SameSlots)
include ht

/-! ### Before the test -/

/-- A set-up with an error leaves the slots as they were. -/
theorem contexts_setUp_of_error {e : LifecycleError} (he : (c.setUp t m a w).1 = .error e) :
    (c.setUp t m a w).2.contexts = w.contexts := by
  have hrun := (HookRunner.runBefore_within frame_sameSlots ht c.runner w).contexts
  have hexit := c.setUp_exit t m a w
  generalize c.setUp t m a w = out at hexit he
  have hlook : ∀ {w₁}, c.runner.runBefore t w = (.ok (), w₁) →
      (c.isRollback t w₁).2.contexts = w.contexts := by
    intro w₁ hooks
    rw [hooks] at hrun
    exact (c.quiet_isRollback t w₁).contexts.trans hrun
  cases hexit with
  | hookFailed hooks =>
    rw [hooks] at hrun
    exact hrun
  | beginFailed hooks => exact hlook hooks
  | rejected hooks taken => exact (sameSlots_rollBackUnpublished ..).contexts.trans (hlook hooks)
  | published hooks free => cases he

/-- A set-up without an error fills the slot of the test. -/
theorem contexts_setUp_of_ok (he : (c.setUp t m a w).1 = .ok ()) :
    ∃ x, (c.setUp t m a w).2.contexts = w.contexts.insert t.key x := by
  have hrun := (HookRunner.runBefore_within frame_sameSlots ht c.runner w).contexts
  have hexit := c.setUp_exit t m a w
  generalize c.setUp t m a w = out at hexit he
  cases hexit with
  | published hooks free =>
    rw [hooks] at hrun
    exact ⟨_, congrArg (Table.insert t.key _) ((c.quiet_isRollback t _).contexts.trans hrun)⟩
  | _ => cases he

/-- What the before-test phase of a test does to its slot and to its state. -/
inductive BeforeSlots (c : Controller) (t : TestRun α) (w w' : World α) : Prop
  /-- Nothing. -/
  | same (contexts : w'.contexts = w.contexts) (state : c.state t.key w' = c.state t.key w)
  /-- It fills the slot, which is free. -/
  | filled (x : Context) (free : w.context? t.key = none)
      (contexts : w'.contexts = w.contexts.insert t.key x) (state : c.state t.key w' = .active)

theorem beforeSlots_enter (hidle : c.state t.key w = .idle) (hfree : w.context? t.key = none)
    (m : Manager) (a : Attribute) : BeforeSlots c t w (c.enter t m a w).2 := by
  have hreq : (c.requested t.key w).contexts = w.contexts := by
    rw [requested, setState_eq]
    rfl
  have hkeeps : t.subject.Within (c.KeepsState t.key) := keepsState_of_sameSlots ht
  rcases enter_of_idle hidle hkeeps m a with ⟨w₁, hset, he⟩ | ⟨e, w₁, hset, he⟩ <;> rw [he]
  · obtain ⟨x, hx⟩ := contexts_setUp_of_ok ht (congrArg Prod.fst hset)
    rw [hset, hreq] at hx
    refine .filled x hfree ?_ (state_setState_self ..)
    rw [setState_eq]
    exact hx
  · have hx := contexts_setUp_of_error ht (congrArg Prod.fst hset)
    rw [hset, hreq] at hx
    refine .same ?_ ((state_setState_self ..).trans hidle.symm)
    rw [setState_eq]
    exact hx

theorem beforeSlots (c : Controller) (w : World α) : BeforeSlots c t w (c.beforeTest t w).2 := by
  rcases c.beforeTest_cases t w with hq | ⟨m, a, w₁, hq, hfree, hidle, he⟩
  · exact .same hq.contexts (state_congr hq.states)
  · have hidle₁ : c.state t.key w₁ = .idle := (state_congr hq.states).trans hidle
    rw [he]
    cases beforeSlots_enter ht hidle₁ ((hq.context? t.key).trans hfree) m a with
    | same contexts state =>
      exact .same (contexts.trans hq.contexts) (state.trans (state_congr hq.states))
    | filled x _ contexts state =>
      exact .filled x hfree (contexts.trans (by rw [hq.contexts])) state

theorem onlyState_beforeTest (c : Controller) (w : World α) :
    c.OnlyState t.key w (c.beforeTest t w).2 :=
  beforeTest_stays (stateFrame_onlyState c t.key)
    (ht.mono fun _ _ h => (stateFrame_onlyState c t.key).of_states h.states) w

/-! ### After the test -/

/-- The slots and states in which a taken context has been ended and the hooks have run. -/
theorem sameSlots_runAfter (c : Controller) (x : Context) (w : World α) :
    SameSlots (taken t w) (c.runner.runAfter t (finishTaken t x (taken t w)).2).2 :=
  (sameSlots_finishTaken t x _).trans (HookRunner.runAfter_within frame_sameSlots ht c.runner _)

theorem contexts_afterTest (c : Controller) (w : World α) :
    (c.afterTest t w).2.contexts = w.contexts.erase t.key := by
  cases hx : w.context? t.key with
  | none =>
    rw [afterTest_of_none hx, setState_eq]
    rfl
  | some x =>
    rw [afterTest_of_some hx]
    simp only
    rw [(quiet_settle ..).contexts, contexts_transition, (sameSlots_runAfter ht c x w).contexts]
    rfl

theorem context?_afterTest (c : Controller) (w : World α) :
    (c.afterTest t w).2.context? t.key = none := by
  rw [World.context?, contexts_afterTest ht]
  exact Table.find?_erase_self ..

theorem onlyState_afterTest (c : Controller) (w : World α) :
    c.OnlyState t.key w (c.afterTest t w).2 :=
  afterTest_stays (stateFrame_onlyState c t.key)
    (ht.mono fun _ _ h => (stateFrame_onlyState c t.key).of_states h.states) w

end

end Controller

/-! ### During the test -/

theorem InTest.states_withContext {ρ : Type} {key : ExecutionKey}
    {f : Context → World α → Except LifecycleError ρ × Context × World α}
    (hf : ∀ x w, (f x w).2.2.states = w.states) (w : World α) :
    (withContext key f w).2.states = w.states := by
  cases hx : w.context? key with
  | none => rw [withContext_of_none hx]
  | some x =>
    rw [withContext_of_some hx]
    exact hf x w

theorem BodyStep.states_run (key : ExecutionKey) (step : BodyStep) (w : World α) :
    (step.run key w).2.states = w.states := by
  cases step with
  | isActive | failNextBegin | failNextFinish => rfl
  | isFlaggedForRollback => exact InTest.states_withContext (fun _ _ => rfl) w
  | flagForRollback | flagForCommit =>
    refine InTest.states_withContext (fun x w => ?_) w
    split <;> rfl
  | finish => exact InTest.states_withContext (fun x w => (x.sameSlots_finish w).states) w
  | start => exact InTest.states_withContext (fun x w => (x.sameSlots_start w).states) w
  | write k v =>
    simp only [run, World.writeCurrent]
    split
    · rfl
    · split <;> rfl

/-- A test whose hook does nothing. -/
def Sample.quietRun : GuardedRun (SameSlots : World Unit → World Unit → Prop) where
  toTestRun := quietTest
  within := run_within .refl .refl

end TransactionalTest
