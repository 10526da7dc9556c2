import TransactionalTest.Proofs.Run

/-!
# What every operation keeps

A relation between the worlds before and after that every single change stays within is one that
every operation stays within, and so does every run.

* `World.Closed` : every single change of a world stays within the relation;
* `Operation.run_within`, `Operation.runAll_within` : so do an operation and a run.
-/

namespace TransactionalTest

variable {α : Type}

/-- A relation that every single change of a world stays within. -/
structure World.Closed (R : World α → World α → Prop) : Prop extends World.Frame R where
  begin : ∀ m a w, R w (w.begin m a).2
  finish : ∀ m status rollback w, R w (w.finish m status rollback).2
  write : ∀ m status k v w, R w (w.write m status k v).2
  failNextBegin : ∀ m reason w, R w (w.failNextBegin m reason)
  failNextFinish : ∀ m reason w, R w (w.failNextFinish m reason)
  contexts : ∀ (w : World α) contexts, R w { w with contexts := contexts }
  states : ∀ (w : World α) states, R w { w with states := states }
  registry : ∀ (w : World α) registry, R w { w with registry := registry }

variable {R : World α → World α → Prop} (hR : World.Closed R)
include hR

/-! ### Contexts -/

namespace Context

theorem start_within (x : Context) (w : World α) : R w (x.start w).2.2 := by
  have hb := hR.begin x.manager x.intent w
  unfold start
  split
  · exact hR.refl w
  · split <;> rename_i h <;> rw [h] at hb
    · exact hb
    · exact hR.trans hb (hR.quiet (quiet_reportOperation ..))

theorem ending_within (x : Context) (status : Status) (w : World α) :
    R w (x.ending status w).2 :=
  hR.trans (hR.quiet (World.Quiet.report _ w)) (hR.finish ..)

theorem finish_within (x : Context) (w : World α) : R w (x.finish w).2.2 := by
  cases hs : x.status with
  | none =>
    rw [finish_of_none hs]
    exact hR.refl w
  | some status =>
    obtain ⟨w', hq, h⟩ := finish_of_some hs w
    rw [h]
    exact hR.trans (ending_within hR x status w) (hR.quiet hq)

end Context

/-! ### Steps of a body -/

theorem InTest.withContext_within {ρ : Type} (key : ExecutionKey)
    {f : Context → World α → Except LifecycleError ρ × Context × World α}
    (hf : ∀ x w, R w (f x w).2.2) (w : World α) : R w (withContext key f w).2 := by
  cases hx : w.context? key with
  | none =>
    rw [withContext_of_none hx]
    exact hR.refl w
  | some x =>
    rw [withContext_of_some hx]
    exact hR.trans (hf x w) (hR.contexts _ _)

theorem BodyStep.run_within (key : ExecutionKey) (step : BodyStep) (w : World α) :
    R w (step.run key w).2 := by
  cases step with
  | isActive => exact hR.refl w
  | isFlaggedForRollback => exact InTest.withContext_within hR key (fun _ w => hR.refl w) w
  | flagForRollback | flagForCommit =>
    refine InTest.withContext_within hR key (fun x w => ?_) w
    split <;> exact hR.refl w
  | finish => exact InTest.withContext_within hR key (Context.finish_within hR) w
  | start => exact InTest.withContext_within hR key (Context.start_within hR) w
  | write k v =>
    simp only [run, World.writeCurrent]
    split
    · exact hR.refl w
    · split
      · exact hR.refl w
      · exact hR.write ..
  | failNextBegin m reason => exact hR.failNextBegin ..
  | failNextFinish m reason => exact hR.failNextFinish ..

/-! ### The phases of a test -/

namespace Controller

variable {t : TestRun α} (ht : t.subject.Within R)

theorem setState_within (c : Controller) (key : ExecutionKey) (s : LifecycleState)
    (w : World α) : R w (c.setState key s w) := by
  rw [setState_eq]
  exact hR.states _ _

theorem rollBackUnpublished_within (x : Context) (w : World α) :
    R w (rollBackUnpublished x w) := by
  by_cases ha : x.isActive w = true
  · obtain ⟨status, hs, hc⟩ := Context.isActive_iff.1 ha
    exact hR.trans (Context.ending_within hR _ status w)
      (hR.quiet (quiet_rollBackUnpublished hs hc))
  · rw [rollBackUnpublished, if_neg ha]
    exact hR.refl w

theorem publish_within (key : ExecutionKey) (x : Context) (w : World α) :
    R w (publish key x w).2 := by
  unfold publish World.tryPublish
  cases w.context? key with
  | none => exact hR.contexts _ _
  | some other => exact rollBackUnpublished_within hR x w

theorem finishTaken_within (t : TestRun α) (x : Context) (w : World α) :
    R w (finishTaken t x w).2 := by
  unfold finishTaken
  split
  · exact Context.finish_within hR x w
  · exact hR.quiet (World.Quiet.report _ w)

include ht

theorem setUp_within (c : Controller) (m : Manager) (a : Attribute) (w : World α) :
    R w (c.setUp t m a w).2 := by
  -- `setUp_exit` names worlds, not requests; here the requests are what counts
  have hopen : R w (c.openTransaction t m a w).2 := by
    have hrun := HookRunner.runBefore_within hR.toFrame ht c.runner w
    unfold openTransaction
    split <;> rename_i w₁ h <;> rw [h] at hrun
    · exact hrun
    · have hstart := Context.start_within hR (c.freshContext t m a w₁) (c.isRollback t w₁).2
      have hbegun := hR.trans hrun (hR.trans (hR.quiet (c.quiet_isRollback t w₁)) hstart)
      simp only
      split <;> rename_i hs <;> simp only [freshContext, hs] at hbegun <;> exact hbegun
  unfold setUp
  split <;> rename_i h <;> rw [h] at hopen
  · exact hopen
  · exact hR.trans hopen (publish_within hR ..)

theorem enter_within (c : Controller) (m : Manager) (a : Attribute) (w : World α) :
    R w (c.enter t m a w).2 := by
  have hmove := fun event (w : World α) =>
    transition_within hR.toFrame hR.states c t.key event w
  rcases c.enter_snd t m a w with h | ⟨event, h⟩ <;> rw [h]
  · exact hmove _ w
  · exact hR.trans (hR.trans (hmove _ w) (setUp_within hR ht c m a _)) (hmove event _)

theorem beforeTest_within (c : Controller) (w : World α) : R w (c.beforeTest t w).2 := by
  rcases c.beforeTest_cases t w with hq | ⟨m, a, w₁, hq, -, -, he⟩
  · exact hR.quiet hq
  · rw [he]
    exact hR.trans (hR.quiet hq) (enter_within hR ht c m a w₁)

theorem afterTest_within (c : Controller) (w : World α) : R w (c.afterTest t w).2 := by
  have htaken : R w (taken t w) := hR.trans (hR.quiet (World.Quiet.report _ w)) (hR.contexts _ _)
  cases hx : w.context? t.key with
  | none =>
    rw [afterTest_of_none hx]
    exact hR.trans htaken (setState_within hR c t.key .idle _)
  | some x =>
    rw [afterTest_of_some hx]
    have hended := hR.trans htaken (finishTaken_within hR t x _)
    have hhooks := hR.trans hended (HookRunner.runAfter_within hR.toFrame ht c.runner _)
    have hmoved := hR.trans hhooks
      (transition_within hR.toFrame hR.states c t.key .testFinished _)
    exact hR.trans hmoved (hR.quiet (quiet_settle ..))

end Controller

/-! ### Runs -/

namespace Operation

variable {ι : Type} {H : World α → World α → Prop} (hH : ∀ w w', H w w' → R w w')
include hH

theorem run_within (controllers : ι → Controller) (op : Operation ι H) (w : World α) :
    R w (op.run controllers w).2 := by
  cases op with
  | before i t => exact Controller.beforeTest_within hR (t.within.mono hH) _ w
  | after i t => exact Controller.afterTest_within hR (t.within.mono hH) _ w
  | body key step => exact step.run_within hR key w
  | stage m status k v => exact hR.write ..
  | register r =>
    simp only [run, World.register]
    split
    · exact hR.trans (hR.quiet (World.Quiet.report _ w)) (hR.registry _ _)
    · exact hR.refl w
  | addSelector m => exact hR.registry _ _

theorem runAll_within (controllers : ι → Controller) (ops : List (Operation ι H))
    (w : World α) : R w (runAll controllers ops w) := by
  induction ops generalizing w with
  | nil => exact hR.refl w
  | cons op ops ih => exact hR.trans (run_within hR hH controllers op w) (ih _)

end Operation

/-! ### Identifiers -/

omit hR in
/-- No change makes a manager know an identifier that is still to be given out. -/
theorem World.closed_minted : World.Closed fun w w' : World α => w.Minted → w'.Minted where
  refl _ := id
  trans h h' hm := h' (h hm)
  quiet q hm := hm.quiet q
  invoked _ _ _ _ := id
  begin m a w hm := by
    rcases w.begin_cases m a with ⟨reason, h⟩ | h <;> rw [h]
    · exact hm.refusing m a reason
    · exact hm.opening m a
  finish m status rollback w hm := hm.finish m status rollback
  write m status k v w hm := hm.write m status k v
  failNextBegin m reason w hm := hm.setStore fun _ hk => hk
  failNextFinish m reason w hm := hm.setStore fun _ hk => hk
  contexts _ _ := id
  states _ _ := id
  registry _ _ := id

omit hR in
/-- The identifiers to be given out are new after every run. -/
theorem Operation.minted_runAll {ι : Type} {H : World α → World α → Prop}
    (hH : ∀ w w', H w w' → w.Minted → w'.Minted) (controllers : ι → Controller)
    (ops : List (Operation ι H)) {w : World α} (hw : w.Minted) :
    (runAll controllers ops w).Minted :=
  runAll_within World.closed_minted hH controllers ops w hw

end TransactionalTest
