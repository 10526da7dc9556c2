import TransactionalTest.Proofs.Pairing

/-!
# What a test body is told when a step fails

The body of a test steers its transaction through the same contexts as the set-up did, and an error
is classified by its kind alone: an error of the set-up and one of the running body are not told
apart when they are of one kind.

* `Context.stepError?` : the error of a step of a body, in every state of its context;
* `BodyStep.error?_run` : a step answers this error and no other;
* `Controller.classified_in_body` : of the errors of a running body only those of an end that its
  manager was asked for say that the body ran;
* `Controller.setUpFailures_of_running_body` : a body that is told twice that it never ran.
-/

namespace TransactionalTest

variable {α : Type}

/-- The error of the lifecycle that an operation answers. -/
def Outcome.error? : Outcome → Option LifecycleError
  | answered (.error e) | flagged (.error e) => some e
  | _ => none

/-! ### Errors, step by step -/

/-- The error of a step of a body on the context of its key. -/
def Context.stepError? (x : Context) (w : World α) : BodyStep → Option LifecycleError
  | .flagForRollback | .flagForCommit =>
    if x.isActive w then none else some (.illegalState .flagWithoutTransaction)
  | .finish =>
    match x.status with
    | none => some (.illegalState .nothingToEnd)
    | some status =>
      match (x.ending status w).1 with
      | .ok () => none
      | .error e => some (.transactionEnd x.testName e)
  | .start =>
    match x.status with
    | some _ => some (.illegalState .alreadyStarted)
    | none =>
      (w.store x.manager).beginFailure.map fun reason => .transactionStart x.testName (.begin reason)
  | _ => none

namespace BodyStep

variable {x : Context} {w : World α} {key : ExecutionKey}

theorem error?_setFlag (hx : w.context? key = some x) (rollback : Bool) :
    (Outcome.answered (InTest.setFlag rollback key w).1).error? =
      if x.isActive w then none else some (.illegalState .flagWithoutTransaction) := by
  rw [InTest.setFlag, InTest.withContext_of_some hx]
  by_cases ha : x.isActive w = true
  · simp [ha, Outcome.error?]
  · simp [ha, Outcome.error?]

theorem error?_finish (hx : w.context? key = some x) :
    (Outcome.answered (InTest.finish key w).1).error? = x.stepError? w .finish := by
  rw [InTest.finish, InTest.withContext_of_some hx]
  cases hs : x.status with
  | none => simp [Context.finish_of_none hs, Context.stepError?, hs, Outcome.error?]
  | some status =>
    obtain ⟨w', -, hfin⟩ := Context.finish_of_some hs w
    rw [hfin]
    simp only [Context.stepError?, hs]
    rcases (x.ending status w).1 with e | _ <;> rfl

theorem error?_start (hx : w.context? key = some x) :
    (Outcome.answered (InTest.start key w).1).error? = x.stepError? w .start := by
  rw [InTest.start, InTest.withContext_of_some hx]
  cases hs : x.status with
  | some status => simp [Context.start_of_some hs, Context.stepError?, hs, Outcome.error?]
  | none =>
    cases hf : (w.store x.manager).beginFailure with
    | none => simp [Context.start_of_unarmed hs hf, Context.stepError?, hs, hf, Outcome.error?]
    | some reason =>
      simp [Context.start_of_armed hs hf, Context.stepError?, hs, hf, Outcome.error?]

/-- On a published context a step of a body answers its error, and no other one. -/
theorem error?_run (hx : w.context? key = some x) (step : BodyStep) :
    (step.run key w).1.error? = x.stepError? w step := by
  cases step with
  | isActive | failNextBegin | failNextFinish => rfl
  | isFlaggedForRollback =>
    rw [run, InTest.isFlaggedForRollback, InTest.withContext_of_some hx]
    rfl
  | flagForRollback => exact error?_setFlag hx true
  | flagForCommit => exact error?_setFlag hx false
  | finish => exact error?_finish hx
  | start => exact error?_start hx
  | write k v =>
    -- what a manager answers to a write is no error of the lifecycle
    simp only [run, World.writeCurrent, hx]
    cases x.status <;> rfl

/-- The steps of a body leave a published context in its slot. -/
theorem sameFill_runAll (key : ExecutionKey) (steps : List BodyStep) (w : World α) :
    SameFill key w (runAll key steps w).2 := by
  induction steps generalizing w with
  | nil => rfl
  | cons step steps ih => exact (step.sameFill_run key key w).trans (ih _)

end BodyStep

/-! ### How the errors are classified -/

/-- Of the errors of a step only that of a manager which was asked to end a transaction is none of
the set-up. -/
theorem Context.isSetupFailure_of_stepError {x : Context} {w : World α} {step : BodyStep}
    {e : LifecycleError} (h : x.stepError? w step = some e) :
    e.isSetupFailure = false ↔ step = .finish ∧ x.status.isSome = true := by
  cases step with
  | flagForRollback | flagForCommit =>
    simp only [stepError?] at h
    split at h <;> cases h
    simp [LifecycleError.isSetupFailure, LifecycleError.phase]
  | finish =>
    cases hs : x.status with
    | none =>
      simp only [stepError?, hs] at h
      cases h
      simp [LifecycleError.isSetupFailure, LifecycleError.phase]
    | some status =>
      simp only [stepError?, hs] at h
      split at h <;> cases h
      simp [LifecycleError.isSetupFailure, LifecycleError.phase]
  | start =>
    cases hs : x.status with
    | some status =>
      simp only [stepError?, hs] at h
      cases h
      simp [LifecycleError.isSetupFailure, LifecycleError.phase]
    | none =>
      simp only [stepError?, hs, Option.map_eq_some_iff] at h
      obtain ⟨reason, -, rfl⟩ := h
      simp [LifecycleError.isSetupFailure, LifecycleError.phase]
  | _ => cases h

/-- **What a running test body is told counts as a failure of its set-up, but for one kind of
answer.**  After a before-test phase that has published a context, and after any steps of the body,
the context is still there and the next step fails with its error or not at all; and the error says
that the body ran if and only if the step was to end a transaction and the manager was asked to.
An error of any other step says that the body never ran: that of a flag without an active
transaction, of an end without a handle, of a start with one, and of a begin that the manager
refused. -/
theorem Controller.classified_in_body (c : Controller) (t : TestRun α) (w : World α)
    (hpublished : ((c.beforeTest t w).2.context? t.key).isSome = true)
    (steps : List BodyStep) (step : BodyStep) :
    let v := (BodyStep.runAll t.key steps (c.beforeTest t w).2).2
    ∃ x, v.context? t.key = some x ∧ (step.run t.key v).1.error? = x.stepError? v step ∧
      ∀ e, x.stepError? v step = some e →
        (e.isSetupFailure = false ↔ step = .finish ∧ x.status.isSome = true) := by
  intro v
  have hfill : SameFill t.key (c.beforeTest t w).2 v := BodyStep.sameFill_runAll ..
  obtain ⟨x, hx⟩ : ∃ x, v.context? t.key = some x :=
    Option.isSome_iff_exists.1 (Eq.trans hfill hpublished)
  refine ⟨x, hx, BodyStep.error?_run hx step, fun e he => ?_⟩
  exact Context.isSetupFailure_of_stepError he

/-- The body has ended its transaction and cannot start another one, because the manager refuses to
begin. -/
theorem Controller.classified_in_body_restart :
    let t := Sample.quietTest
    let opened := (Sample.controller.beforeTest t Sample.start).2
    let steps := [.finish, .failNextBegin Sample.accounts "pool exhausted"]
    let v := (BodyStep.runAll t.key steps opened).2
    (opened.context? t.key).isSome = true ∧ ∃ e, (BodyStep.start.run t.key v).1.error? = some e ∧
      e = .transactionStart "AccountTest.transfer" (.begin "pool exhausted") ∧
      (e.isSetupFailure = false ↔ BodyStep.start = .finish ∧ (none : Option Status).isSome) := by
  intro t opened steps v
  have hpublished : (opened.context? t.key).isSome = true := by decide +kernel
  obtain ⟨x, hx, hstep, hclass⟩ :=
    classified_in_body Sample.controller t Sample.start hpublished steps .start
  have herror : (BodyStep.start.run t.key v).1.error? =
      some (.transactionStart "AccountTest.transfer" (.begin "pool exhausted")) := by decide +kernel
  have hgone : x.status = none := by
    have hv : (v.context? t.key).map Context.status = some none := by decide +kernel
    rw [hx] at hv
    exact Option.some.inj hv
  refine ⟨hpublished, _, herror, rfl, ?_⟩
  rw [← hgone]
  exact hclass _ (hstep.symm.trans herror)

/-- A test is set up without an error.  Its body ends the transaction, may not flag it any more,
and cannot start another one; both errors say that the body never ran. -/
theorem Controller.setUpFailures_of_running_body :
    let t := Sample.quietTest
    let before := Sample.controller.beforeTest t Sample.start
    let steps := [.finish, .flagForCommit, .failNextBegin Sample.accounts "pool exhausted", .start]
    let body := BodyStep.runAll t.key steps before.2
    before.1 = .ok () ∧ (before.2.context? t.key).isSome = true ∧
      body.1.map (fun r => r.error?.map fun e => (e.phase, e.isSetupFailure)) =
        [none, some (.invariant, true), none, some (.setup, true)] := by
  decide +kernel

end TransactionalTest
