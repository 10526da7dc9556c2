import TransactionalTest.Proofs.Controller

/-!
# The phases of a test, step by step

A property of functions of the world that is kept when one function follows another holds of both
phases of a test, if it holds of the steps that they are made of.

* `Composable` : a property of what does nothing, and of two functions in a row;
* `LogEvent.isBoundary` : the reports that a context makes of its own transaction;
* `Controller.launch`, `Controller.endTaken` : the two steps in which a context is in no slot;
* `Controller.Steps` : the property holds of every step of the phases of a test;
* `Controller.Steps.beforeTest`, `Controller.Steps.afterTest` : then it holds of both phases.
-/

namespace TransactionalTest

variable {α : Type}

/-! ### Composable properties -/

/-- A property of functions of the world that doing nothing has, and two functions in a row if each
of them has it. -/
structure Composable (P : (ρ : Type) → (World α → ρ × World α) → Prop) : Prop where
  pure : ∀ {ρ : Type} (r : ρ), P ρ fun w => (r, w)
  /-- One after the other, the second chosen by the answer of the first. -/
  bind : ∀ {ρ σ : Type} {f : World α → ρ × World α} {g : ρ → World α → σ × World α}, P ρ f →
    (∀ r, P σ (g r)) → P σ fun w => g (f w).1 (f w).2

namespace Composable

variable {P : (ρ : Type) → (World α → ρ × World α) → Prop} (hP : Composable P) {ε ρ σ : Type}
include hP

omit hP in
theorem congr {f g : World α → ρ × World α} (hf : P ρ f) (h : ∀ w, g w = f w) : P ρ g := by
  rwa [show g = f from funext h]

/-- An answer of the lifecycle, without work. -/
theorem answered (r : Except LifecycleError Unit) :
    P (Except LifecycleError Unit) fun w => (r, w) :=
  hP.pure r

/-- The same work with another answer. -/
theorem answering {f : World α → ρ × World α} (r : σ) (hf : P ρ f) : P σ fun w => (r, (f w).2) :=
  hP.bind hf fun _ => hP.pure r

omit hP in
/-- One of two functions, as an answer says. -/
theorem except {g : ρ → World α → σ × World α} {h : ε → World α → σ × World α}
    (hg : ∀ r, P σ (g r)) (hh : ∀ e, P σ (h e)) : ∀ r : Except ε ρ, P σ fun w => match r with
      | .ok r => g r w
      | .error e => h e w
  | .ok r => hg r
  | .error e => hh e

/-- One of two functions after the first, one when it succeeds and one when it fails. -/
theorem cases {f : World α → Except ε ρ × World α} {g : ρ → World α → σ × World α}
    {h : ε → World α → σ × World α} (hf : P (Except ε ρ) f) (hg : ∀ r, P σ (g r))
    (hh : ∀ e, P σ (h e)) : P σ fun w => match f w with
      | (.ok r, w) => g r w
      | (.error e, w) => h e w := by
  refine congr (hP.bind hf (except hg hh)) fun w => ?_
  rcases f w with ⟨_ | _, _⟩ <;> rfl

omit hP in
theorem ite {p : Prop} [Decidable p] {f g : World α → ρ × World α} (hf : P ρ f) (hg : P ρ g) :
    P ρ fun w => if p then f w else g w := by
  by_cases hp : p
  · simpa only [if_pos hp] using hf
  · simpa only [if_neg hp] using hg

omit hP in
theorem option {f : World α → ρ × World α} {g : σ → World α → ρ × World α} (hf : P ρ f)
    (hg : ∀ x, P ρ (g x)) : ∀ o : Option σ, P ρ fun w => match o with
      | none => f w
      | some x => g x w
  | none => hf
  | some x => hg x

/-- A test object has the property if its bodies have it. -/
theorem subject {b : Bindings α} (h : ∀ e ∈ b, P (Except Failure Unit) e.2) (hook : HookMethod) :
    P (Except HookError Unit) (b.subject hook) := by
  cases hb : b.find? (hook.declaringClass, hook.signature) with
  | none =>
    refine congr (hP.pure (.error (.notInvocable hook.display
      "no body bound on this test instance"))) fun w => ?_
    simp only [Bindings.subject, hb]
  | some body =>
    have hbody := h _ (Table.mem_of_find? hb)
    refine congr (hP.cases hbody (fun _ => hP.pure (Except.ok ()))
      fun e => hP.pure (Except.error (HookError.failed e))) fun w => ?_
    simp only [Bindings.subject, hb]
    rcases body w with ⟨_ | _, _⟩ <;> rfl

end Composable

/-! ### The steps -/

/-- The report says that a transaction has been started, committed or rolled back.  Contexts make
such reports; the phases of a test make none of their own. -/
def LogEvent.isBoundary : LogEvent → Bool
  | .transaction operation _ _ _ _ =>
    [Operation.transactionStarted, Operation.transactionCommitted,
      Operation.transactionRolledBack].contains operation
  | _ => false

/-- That a test runs without a transaction is no such report. -/
theorem LogEvent.isBoundary_skipped (test : String) (manager : Option String)
    (rollback : Option Bool) (details : Option String) :
    (transaction Operation.transactionSkipped test manager rollback details).isBoundary =
      false := by
  simp [isBoundary, Operation.transactionSkipped, Operation.transactionStarted,
    Operation.transactionCommitted, Operation.transactionRolledBack]

namespace Controller

/-- Start a context and publish it. -/
def launch (key : ExecutionKey) (x : Context) (w : World α) :
    Except LifecycleError Unit × World α :=
  match x.start w with
  | (.error e, _, w) => (.error e, w)
  | (.ok (), x, w) => publish key x w

/-- Take the context of a test and end its transaction; no answer if there is none. -/
def endTaken (t : TestRun α) (w : World α) : Option (Except LifecycleError Unit) × World α :=
  match w.context? t.key with
  | none => (none, taken t w)
  | some x => (some (finishTaken t x (taken t w)).1, (finishTaken t x (taken t w)).2)

/-- A composable property that every step of the phases of a test has, its hooks included. -/
structure Steps (c : Controller) (t : TestRun α)
    (P : (ρ : Type) → (World α → ρ × World α) → Prop) : Prop extends Composable P where
  report : ∀ event, event.isBoundary = false → P Unit fun w => ((), w.report event)
  /-- A hook of the test object. -/
  hook : ∀ hook, P (Except HookError Unit) (t.subject hook)
  /-- The record of its call. -/
  invoked : ∀ hook r, P Unit fun w => ((), w.record (.invoked t.key hook r))
  hooksFor : ∀ phase, P (List HookMethod) (c.runner.hooksFor t.cls phase)
  isRollback : P Bool (c.isRollback t)
  transactionManager : ∀ qualifier,
    P (Except LookupError (Option Manager)) (c.transactionManager t qualifier)
  isBusy : P Bool fun w => (c.isBusy t.key w, w)
  state : P LifecycleState fun w => (c.state t.key w, w)
  setState : ∀ s, P Unit fun w => ((), c.setState t.key s w)
  launch : ∀ x : Context, x.status = none →
    P (Except LifecycleError Unit) (Controller.launch t.key x)
  endTaken : P (Option (Except LifecycleError Unit)) (Controller.endTaken t)

namespace Steps

variable {c : Controller} {t : TestRun α} {P : (ρ : Type) → (World α → ρ × World α) → Prop}
  (h : c.Steps t P)
include h

/-! ### Hooks -/

theorem call (operation : String) (hook : HookMethod) :
    P (Except HookError Unit) (HookRunner.call operation t hook) := by
  refine Composable.congr (h.bind (h.report (.hook operation t.name hook.display) rfl) fun _ =>
    h.bind (h.hook hook) fun r => h.bind (h.invoked hook r) fun _ =>
      Composable.except (fun _ => h.pure (Except.ok ()))
        (fun e => h.bind (h.report (.failure "hook_runner" operation e.message
          (some (hook.display ++ " for " ++ t.name))) rfl) fun _ => h.pure (Except.error e))
        r) fun w => ?_
  unfold HookRunner.call
  simp only
  split <;> rename_i hr <;> rw [hr]

theorem callUntilFailure (hooks : List HookMethod) :
    P (Except LifecycleError Unit) (HookRunner.callUntilFailure t hooks) := by
  induction hooks with
  | nil => exact h.pure _
  | cons hook hooks ih =>
    have hcall := h.call Operation.beforeTransactionHook hook
    refine Composable.congr (h.cases hcall (fun _ => ih)
      (h.answered <| .error <| HookRunner.beforeError hook ·)) fun w => ?_
    rw [HookRunner.callUntilFailure]
    rcases HookRunner.call Operation.beforeTransactionHook t hook w with ⟨_ | _, _⟩ <;> rfl

theorem callAll (hooks : List HookMethod) :
    P (Except LifecycleError Unit) (HookRunner.callAll t hooks) := by
  induction hooks with
  | nil => exact h.pure _
  | cons hook hooks ih =>
    have hcall := h.call Operation.afterTransactionHook hook
    refine Composable.congr (h.cases hcall (fun _ => ih) fun e => h.bind ih fun _ =>
      h.answered (.error (.afterHook hook.display e.toFailure))) fun w => ?_
    rw [HookRunner.callAll]
    rcases HookRunner.call Operation.afterTransactionHook t hook w with ⟨_ | _, _⟩ <;> rfl

theorem runBefore : P (Except LifecycleError Unit) (c.runner.runBefore t) :=
  h.bind (h.hooksFor .beforeTransaction) fun hooks => h.callUntilFailure hooks.reverse

theorem runAfter : P (Except LifecycleError Unit) (c.runner.runAfter t) :=
  h.bind (h.hooksFor .afterTransaction) fun hooks => h.callAll hooks

/-! ### Before the test -/

theorem transition (event : LifecycleEvent) :
    P (Except LifecycleError LifecycleState) (c.transition t.key event) := by
  refine Composable.congr (h.bind h.state fun source => Composable.except
    (fun target => h.bind (h.report (.transition t.key.display source event target) rfl) fun _ =>
      h.bind (h.setState target) fun _ => h.pure (Except.ok target))
    (fun e => h.pure (Except.error e)) (source.step event)) fun w => ?_
  unfold Controller.transition
  simp only
  split <;> rename_i hs <;> rw [hs]

theorem setUp (m : Manager) (a : Attribute) :
    P (Except LifecycleError Unit) (c.setUp t m a) := by
  -- the flag is read before the context is made, and decides how it is made
  have hlaunch : P (Except LifecycleError Unit) fun w =>
      Controller.launch t.key (c.freshContext t m a w) (c.isRollback t w).2 :=
    h.bind (g := fun rollback => Controller.launch t.key
      { testName := t.name, manager := m, intent := a, flaggedForRollback := rollback })
      h.isRollback fun _ => h.launch _ rfl
  refine Composable.congr (h.cases h.runBefore (fun _ => hlaunch) (h.answered <| .error ·))
    fun w => ?_
  unfold Controller.setUp openTransaction Controller.launch freshContext
  rcases c.runner.runBefore t w with ⟨_ | _, w₁⟩
  · rfl
  · simp only
    generalize Context.start _ _ = out
    rcases out with ⟨_ | _, _⟩ <;> rfl

theorem enter (m : Manager) (a : Attribute) :
    P (Except LifecycleError Unit) (c.enter t m a) := by
  have hready := h.cases (h.transition .transactionStarted) (fun _ => h.answered (.ok ()))
    (h.answered <| .error ·)
  have haborted := fun e : LifecycleError => h.cases (h.transition (.setupAborted e.message))
    (fun _ => h.answered (.error e)) (h.answered <| .error ·)
  refine Composable.congr (h.cases (h.transition .transactionRequested)
    (fun _ => h.cases (h.setUp m a) (fun _ => hready) haborted) (h.answered <| .error ·))
    fun w => ?_
  unfold Controller.enter
  rcases c.transition t.key .transactionRequested w with ⟨_ | _, w₁⟩
  · rfl
  · simp only
    rcases c.setUp t m a w₁ with ⟨e | _, w₂⟩ <;> simp only
    · rcases c.transition t.key (.setupAborted e.message) w₂ with ⟨_ | _, _⟩ <;> rfl
    · rcases c.transition t.key .transactionStarted w₂ with ⟨_ | _, _⟩ <;> rfl

/-- A composable property of the steps is one of the before-test phase. -/
theorem beforeTest : P (Except LifecycleError Unit) (c.beforeTest t) := by
  -- from the inside out: without a manager, with a manager to look for, and opted out
  have hunmanaged : P (Except LifecycleError Unit) _ :=
    Composable.ite (p := c.config.strictManagerResolution)
      (h.answered (.error (.managerNotFound t.name)))
      (h.bind (h.report (.managerMissing t.name) rfl) fun _ => h.answered (.ok ()))
  have hasked := fun a : Attribute => h.cases (h.transactionManager a.qualifierText)
    (Composable.option hunmanaged (h.enter · a)) (h.answered <| .error <| .managerLookup ·)
  have hskipped : P (Except LifecycleError Unit) _ := h.bind (h.report (.transaction
    Operation.transactionSkipped t.name none none (some "propagation NOT_SUPPORTED"))
      (LogEvent.isBoundary_skipped ..)) fun _ => h.answered (.ok ())
  have hfree := Composable.option
    (h.bind (h.report (.noIntent t.name) rfl) fun _ => h.answered (.ok ()))
    (fun a : Attribute => h.bind (h.report (.intentFound a t.name) rfl) fun _ =>
      Composable.ite (p := a.propagation.optsOut) hskipped (hasked a)) t.intent?
  refine Composable.congr
    (h.bind (h.report (.phaseEntered Operation.beforeTest t.name t.key.display) rfl) fun _ =>
      h.bind h.isBusy fun busy => Composable.ite (p := busy)
        (h.answered (.error (.illegalState (.busy t.display)))) hfree) fun w => ?_
  unfold Controller.beforeTest
  rcases t.intent? with _ | a
  · rfl
  · simp only
    rcases c.transactionManager t a.qualifierText _ with ⟨_ | _ | _, _⟩ <;> rfl

/-! ### After the test -/

theorem settle (ended hooks finished : Except LifecycleError Unit) :
    P (Except LifecycleError Unit) (Controller.settle t ended hooks finished) := by
  rcases ended with e | _ <;> rcases hooks with e' | _
  · exact h.bind (h.report _ rfl) fun _ => h.answered (.error e')
  · exact h.answered (.error e)
  · exact h.answered (.error e')
  · exact h.answered finished

/-- A composable property of the steps is one of the after-test phase. -/
theorem afterTest : P (Except LifecycleError Unit) (c.afterTest t) := by
  have hended := fun ended : Except LifecycleError Unit =>
    h.bind h.runAfter fun hooks => h.bind (h.transition .testFinished) fun finished =>
      h.settle ended hooks (finished.map fun _ => ())
  have hnone := h.bind (h.setState .idle) fun _ => h.answered (.ok ())
  refine Composable.congr (h.bind h.endTaken (Composable.option hnone hended)) fun w => ?_
  cases hx : w.context? t.key with
  | none => simp only [afterTest_of_none hx, Controller.endTaken, hx]
  | some x => simp only [afterTest_of_some hx, Controller.endTaken, hx]

end Steps

end Controller

end TransactionalTest
