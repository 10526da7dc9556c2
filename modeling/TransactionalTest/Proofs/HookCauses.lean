import TransactionalTest.Proofs.Teardown

/-!
# The failure behind an error

An error hands back the failure of a hook body, so that a runner can show what the user's own code
raised.  Which errors have a failure to hand back depends on how the two phases turn the answer of a
hook into an error: a hook that cannot be called is an error of its own kind before the test, and
after the test it is one more failed hook.

* `HookRunner.trials` : the calls that a list of before-hooks makes;
* `HookCall.FirstFailed` : the call that decides what a list of hooks answers;
* `HookRunner.callUntilFailure_error`, `HookRunner.callAll_error` : it does so in both phases;
* `Bindings.answer_error` : why a hook of a test object that is put together from bodies fails;
* `Controller.beforeCalls`, `Controller.afterCallsOn` : the calls of hooks in a phase;
* `Controller.cause?_iff` : which errors have a failure to hand back, and which failure that is;
* `Controller.cause?_of_unbound_afterHook` : one that no body has raised.
-/

namespace TransactionalTest

variable {α : Type}

/-! ### Calls that fail -/

namespace HookCall

/-- The hook did not succeed. -/
def failed (y : HookCall α) : Bool := !y.answer.isOk

/-- Of these calls `y` is the first that did not succeed, and this is why. -/
def FirstFailed (ys : List (HookCall α)) (y : HookCall α) (r : HookError) : Prop :=
  ys.find? failed = some y ∧ y.answer = .error r

theorem firstFailed_cons_of_ok {x : HookCall α} (hx : x.answer = .ok ()) {ys : List (HookCall α)}
    {y : HookCall α} {r : HookError} : FirstFailed (x :: ys) y r ↔ FirstFailed ys y r := by
  have hpass : x.failed = false := by simp [failed, hx, Except.isOk, Except.toBool]
  simp [FirstFailed, hpass]

theorem firstFailed_cons_of_error {x : HookCall α} {r₀ : HookError} (hx : x.answer = .error r₀)
    {ys : List (HookCall α)} {y : HookCall α} {r : HookError} :
    FirstFailed (x :: ys) y r ↔ x = y ∧ r₀ = r := by
  have hfail : x.failed = true := by simp [failed, hx, Except.isOk, Except.toBool]
  simp only [FirstFailed, List.find?_cons, hfail, Option.some.injEq]
  constructor
  · rintro ⟨rfl, hy⟩
    exact ⟨rfl, Except.error.inj (hx.symm.trans hy)⟩
  · rintro ⟨rfl, rfl⟩
    exact ⟨rfl, hx⟩

theorem FirstFailed.mem {ys : List (HookCall α)} {y : HookCall α} {r : HookError}
    (h : FirstFailed ys y r) : y ∈ ys := List.mem_of_find?_eq_some h.1

end HookCall

namespace HookRunner

variable {t : TestRun α} {w : World α}

/-! ### Before-hooks -/

/-- The world that a called before-hook finds. -/
def trialEntry (t : TestRun α) (hook : HookMethod) (w : World α) : World α :=
  w.report (.hook Operation.beforeTransactionHook t.name hook.display)

/-- The call of one before-hook. -/
def trialOf (t : TestRun α) (hook : HookMethod) (w : World α) : HookCall α where
  hook := hook
  entry := trialEntry t hook w
  answer := (t.subject hook (trialEntry t hook w)).1
  back := (t.subject hook (trialEntry t hook w)).2

/-- The calls that a list of before-hooks makes: none after the first that fails. -/
def trials (t : TestRun α) : List HookMethod → World α → List (HookCall α)
  | [], _ => []
  | hook :: hooks, w =>
    match call Operation.beforeTransactionHook t hook w with
    | (.ok (), w') => trialOf t hook w :: trials t hooks w'
    | (.error _, _) => [trialOf t hook w]

theorem trialOf_answer (t : TestRun α) (hook : HookMethod) (w : World α) :
    (trialOf t hook w).answer = (call Operation.beforeTransactionHook t hook w).1 := by
  unfold call trialOf trialEntry
  simp only
  split <;> rename_i h <;> exact h

theorem isOf_of_mem_trials {hooks : List HookMethod} {y : HookCall α}
    (hy : y ∈ trials t hooks w) : y.IsOf t.subject := by
  induction hooks generalizing w with
  | nil => cases hy
  | cons hook hooks ih =>
    unfold trials at hy
    split at hy
    · rcases List.mem_cons.1 hy with rfl | hy
      · rfl
      · exact ih hy
    · rw [List.mem_singleton.1 hy]
      rfl

/-- A list of before-hooks answers an error if one of its calls fails, and that of the first. -/
theorem callUntilFailure_error {hooks : List HookMethod} {e : LifecycleError} :
    (callUntilFailure t hooks w).1 = .error e ↔
      ∃ y r, HookCall.FirstFailed (trials t hooks w) y r ∧ e = beforeError y.hook r := by
  induction hooks generalizing w with
  | nil => simp [callUntilFailure, trials, HookCall.FirstFailed]
  | cons hook hooks ih =>
    have hanswer := trialOf_answer t hook w
    unfold callUntilFailure trials
    rcases hc : call Operation.beforeTransactionHook t hook w with ⟨r₀ | _, w₁⟩ <;>
      rw [hc] at hanswer
    · simp only [HookCall.firstFailed_cons_of_error hanswer]
      constructor
      · intro h
        cases h
        exact ⟨_, r₀, ⟨rfl, rfl⟩, rfl⟩
      · rintro ⟨y, r, ⟨rfl, rfl⟩, rfl⟩
        rfl
    · simp only [HookCall.firstFailed_cons_of_ok hanswer]
      exact ih

/-! ### After-hooks -/

/-- So does a list of after-hooks, although the calls go on. -/
theorem callAll_error {hooks : List HookMethod} {e : LifecycleError} :
    (callAll t hooks w).1 = .error e ↔
      ∃ y r, HookCall.FirstFailed (calls t hooks w) y r ∧
        e = .afterHook y.hook.display r.toFailure := by
  induction hooks generalizing w with
  | nil => simp [callAll, calls, HookCall.FirstFailed]
  | cons hook hooks ih =>
    have hanswer := (call_fst t hook w).symm
    unfold callAll calls
    rcases hc : call Operation.afterTransactionHook t hook w with ⟨r₀ | _, w₁⟩ <;>
      rw [hc] at hanswer
    · simp only [HookCall.firstFailed_cons_of_error hanswer]
      constructor
      · intro h
        cases h
        exact ⟨_, r₀, ⟨rfl, rfl⟩, rfl⟩
      · rintro ⟨y, r, ⟨rfl, rfl⟩, rfl⟩
        rfl
    · simp only [HookCall.firstFailed_cons_of_ok hanswer]
      exact ih

end HookRunner

/-! ### Bodies that raise -/

namespace Bindings

variable {b : Bindings α} {y : HookCall α}

/-- The call ran the body that is bound for the hook, and the body raised this failure. -/
def Raises (b : Bindings α) (y : HookCall α) (f : Failure) : Prop :=
  ∃ body, b.find? (y.hook.declaringClass, y.hook.signature) = some body ∧
    body y.entry = (.error f, y.back)

/-- No body is bound for the hook. -/
def Lacks (b : Bindings α) (hook : HookMethod) : Prop :=
  b.find? (hook.declaringClass, hook.signature) = none

/-- Why a hook without a body fails. -/
def unbound (hook : HookMethod) : HookError :=
  .notInvocable hook.display "no body bound on this test instance"

/-- A hook fails because its body raises a failure, which is passed on unchanged, or because it
has no body. -/
theorem answer_error (hy : y.IsOf b.subject) {r : HookError} (hr : y.answer = .error r) :
    (∃ f, r = .failed f ∧ b.Raises y f) ∨ b.Lacks y.hook ∧ r = unbound y.hook := by
  unfold HookCall.IsOf subject at hy
  rw [hr] at hy
  cases hb : b.find? (y.hook.declaringClass, y.hook.signature) with
  | none =>
    simp only [hb, Prod.mk.injEq, Except.error.injEq] at hy
    exact .inr ⟨hb, hy.1.symm⟩
  | some body =>
    simp only [hb] at hy
    split at hy <;> rename_i hbody <;> cases hy
    exact .inl ⟨_, rfl, body, hb, hbody⟩

end Bindings

/-! ### The calls of a phase -/

namespace Controller

variable {c : Controller} {t : TestRun α} {m : Manager} {a : Attribute} {w : World α}
  {e : LifecycleError} {f : Failure}

/-- The calls of before-hooks that a before-test phase makes: none, unless it has found the manager
of the test. -/
def beforeCalls (c : Controller) (t : TestRun α) (w : World α) : List (HookCall α) :=
  if c.isBusy t.key w then []
  else match t.intent? with
    | none => []
    | some a =>
      if a.propagation.optsOut then []
      else match c.managerFor t a w with
        | (.ok (some _), w) =>
          let found := c.runner.hooksFor t.cls .beforeTransaction (c.requested t.key w)
          HookRunner.trials t found.1.reverse found.2
        | _ => []

/-- The calls of after-hooks that an after-test phase makes: none without a context. -/
def afterCallsOn (c : Controller) (t : TestRun α) (w : World α) : List (HookCall α) :=
  match w.context? t.key with
  | none => []
  | some x => c.afterCalls t x w

theorem beforeCalls_of_entered {w₁ : World α} (free : c.isBusy t.key w = false)
    (intent : t.intent? = some a) (inside : a.propagation.optsOut = false)
    (lookup : c.managerFor t a w = (.ok (some m), w₁)) : c.beforeCalls t w =
      HookRunner.trials t
        (c.runner.hooksFor t.cls .beforeTransaction (c.requested t.key w₁)).1.reverse
        (c.runner.hooksFor t.cls .beforeTransaction (c.requested t.key w₁)).2 := by
  simp [beforeCalls, free, intent, inside, lookup]

theorem isOf_of_mem_beforeCalls {y : HookCall α} (hy : y ∈ c.beforeCalls t w) :
    y.IsOf t.subject := by
  unfold beforeCalls at hy
  split at hy
  · cases hy
  · split at hy
    · cases hy
    · split at hy
      · cases hy
      · split at hy
        · exact HookRunner.isOf_of_mem_trials hy
        · cases hy

theorem isOf_of_mem_afterCallsOn {y : HookCall α} (hy : y ∈ c.afterCallsOn t w) :
    y.IsOf t.subject := by
  unfold afterCallsOn at hy
  split at hy
  · cases hy
  · exact HookRunner.isOf_of_mem_calls hy

/-! ### Errors with a failure to hand back -/

/-- Entering a test on an idle key passes the error of its set-up on, or answers one of its own,
behind which there is no failure. -/
theorem setUp_of_enter_cause (hidle : c.state t.key w = .idle)
    (h : (c.enter t m a w).1 = .error e) (hcause : e.cause? = some f) :
    (c.setUp t m a (c.requested t.key w)).1 = .error e := by
  unfold enter at h
  simp only [transition_requested hidle] at h
  rcases hset : c.setUp t m a (c.requested t.key w) with ⟨e₀ | _, w₁⟩ <;> simp only [hset] at h ⊢
  · rcases c.transition_cases t.key (.setupAborted e₀.message) w₁ with ⟨_, -, hm⟩ | hm <;>
      rw [hm] at h
    · exact h
    · cases h
      cases hcause
  · rcases c.transition_cases t.key .transactionStarted w₁ with ⟨_, -, hm⟩ | hm <;> rw [hm] at h
    · cases h
    · cases h
      cases hcause

/-- The only error of a set-up that has a failure to hand back is that of a before-hook. -/
theorem runBefore_of_setUp_cause (h : (c.setUp t m a w).1 = .error e)
    (hcause : e.cause? = some f) : (c.runner.runBefore t w).1 = .error e := by
  have hexit := c.setUp_exit t m a w
  generalize c.setUp t m a w = out at hexit h
  cases hexit with
  | hookFailed hooks =>
    rw [hooks]
    exact h
  | beginFailed | rejected =>
    cases h
    cases hcause
  | published => cases h

/-- An error of a before-test phase that has a failure to hand back is that of its first failed
before-hook. -/
theorem firstFailed_of_beforeTest_cause (h : (c.beforeTest t w).1 = .error e)
    (hcause : e.cause? = some f) :
    ∃ y r, HookCall.FirstFailed (c.beforeCalls t w) y r ∧
      e = HookRunner.beforeError y.hook r := by
  have hexit := c.beforeTest_exit t w
  generalize c.beforeTest t w = out at hexit h
  cases hexit with
  | busy | lookupFailed | notFound =>
    cases h
    cases hcause
  | undeclared | optedOut | unmanaged => cases h
  | @entered a m w₁ free intent inside lookup =>
    have hidle : c.state t.key w₁ = .idle :=
      (state_congr (quiet_of_managerFor lookup).states).trans (isBusy_eq_false.1 free).2
    have hrun := runBefore_of_setUp_cause (setUp_of_enter_cause hidle h hcause) hcause
    rw [beforeCalls_of_entered free intent inside lookup]
    exact HookRunner.callUntilFailure_error.1 hrun

/-- An error of an after-test phase that has a failure to hand back is that of its first failed
after-hook. -/
theorem firstFailed_of_afterTest_cause (h : (c.afterTest t w).1 = .error e)
    (hcause : e.cause? = some f) :
    ∃ y r, HookCall.FirstFailed (c.afterCallsOn t w) y r ∧
      e = .afterHook y.hook.display r.toFailure := by
  cases hx : w.context? t.key with
  | none =>
    rw [afterTest_of_none hx] at h
    cases h
  | some x =>
    rw [afterTest_of_some hx] at h
    simp only [afterCallsOn, hx]
    rcases settle_error h with hended | hhooks | hmoved
    · -- what a manager answers is no failure of a hook
      rw [(finishTaken_eq t x (taken t w)).1] at hended
      rcases hdue : x.due? (taken t w) with _ | ⟨_, _, _, _ | _⟩ <;> rw [hdue] at hended <;>
        cases hended
      cases hcause
    · exact HookRunner.callAll_error.1 hhooks
    · generalize c.runner.runAfter t (finishTaken t x (taken t w)).2 = ran at hmoved
      rcases c.transition_cases t.key .testFinished ran.2 with ⟨_, -, hm⟩ | hm <;>
        rw [hm] at hmoved <;> cases hmoved
      cases hcause

/-- **An error hands back the failure that a hook body has raised, or the complaint about an
after-hook that has no body.**  On a test object that is put together from bodies, for any class and
in any world, an error of the before-test phase has a failure to hand back if and only if it is that
of a before-hook whose body ran and raised this very failure; no other before-hook has failed
before.  An error of the after-test phase has one if and only if it is that of the first
after-hook that failed: and then the failure is the one that its body has raised, or, when no body
is bound for the hook, the text that says so.  Every other error has none. -/
theorem cause?_iff (c : Controller) (cls : TestClass) (method : Method) (b : Bindings α)
    (key : ExecutionKey) (w : World α) (e : LifecycleError) (f : Failure) :
    let t : TestRun α := ⟨cls, method, b.subject, key⟩
    ((c.beforeTest t w).1 = .error e → (e.cause? = some f ↔
      ∃ y, HookCall.FirstFailed (c.beforeCalls t w) y (.failed f) ∧ b.Raises y f ∧
        e = .beforeHook y.hook.display f)) ∧
    ((c.afterTest t w).1 = .error e → (e.cause? = some f ↔
      ∃ y, e = .afterHook y.hook.display f ∧
        (HookCall.FirstFailed (c.afterCallsOn t w) y (.failed f) ∧ b.Raises y f ∨
          HookCall.FirstFailed (c.afterCallsOn t w) y (Bindings.unbound y.hook) ∧
            b.Lacks y.hook ∧ f = (Bindings.unbound y.hook).toFailure))) := by
  intro t
  refine ⟨fun h => ⟨fun hcause => ?_, ?_⟩, fun h => ⟨fun hcause => ?_, ?_⟩⟩
  · obtain ⟨y, r, hy, rfl⟩ := firstFailed_of_beforeTest_cause h hcause
    rcases Bindings.answer_error (isOf_of_mem_beforeCalls hy.mem) hy.2 with
      ⟨f₀, rfl, hraises⟩ | ⟨-, rfl⟩
    · cases hcause
      exact ⟨y, hy, hraises, rfl⟩
    · cases hcause
  · rintro ⟨y, -, -, rfl⟩
    rfl
  · obtain ⟨y, r, hy, rfl⟩ := firstFailed_of_afterTest_cause h hcause
    cases hcause
    rcases Bindings.answer_error (isOf_of_mem_afterCallsOn hy.mem) hy.2 with
      ⟨f₀, rfl, hraises⟩ | ⟨hlacks, rfl⟩
    · exact ⟨y, rfl, .inl ⟨hy, hraises⟩⟩
    · exact ⟨y, rfl, .inr ⟨hy, hlacks, rfl⟩⟩
  · rintro ⟨y, rfl, -⟩
    rfl

/-- One before-hook complains; and on the class of `Sample.audited` the first after-hook does, and the
second one has no body. -/
theorem cause?_iff_sample :
    let claims : Bindings Unit :=
      [(("AccountTest", Sample.prepare.signature), fun w => (.error ⟨"no accounts", []⟩, w))]
    let reviews : Bindings Unit :=
      [(("AuditedTest", Sample.review.signature), fun w => (.error ⟨"no auditor", ["404"]⟩, w))]
    let claiming : TestRun Unit := ⟨Sample.suite, Sample.transfer, claims.subject, .thread 0⟩
    let reviewing : TestRun Unit := ⟨Sample.audited, Sample.transfer, reviews.subject, .thread 0⟩
    let opened := (Sample.controller.beforeTest reviewing Sample.start).2
    let e := LifecycleError.beforeHook "AccountTest::prepare()" ⟨"no accounts", []⟩
    let e' := LifecycleError.afterHook "AuditedTest::review()" ⟨"no auditor", ["404"]⟩
    ((Sample.controller.beforeTest claiming Sample.start).1 = .error e ∧
      ∃ y : HookCall Unit, e = .beforeHook y.hook.display ⟨"no accounts", []⟩ ∧
        claims.Raises y ⟨"no accounts", []⟩) ∧
    (Sample.controller.afterTest reviewing opened).1 = .error e' ∧
      ∃ y : HookCall Unit, e' = .afterHook y.hook.display ⟨"no auditor", ["404"]⟩ ∧
        (reviews.Raises y ⟨"no auditor", ["404"]⟩ ∨ reviews.Lacks y.hook) := by
  intro claims reviews claiming reviewing opened e e'
  have hclaim : (Sample.controller.beforeTest claiming Sample.start).1 = .error e := by
    decide +kernel
  have hreview : (Sample.controller.afterTest reviewing opened).1 = .error e' := by
    decide +kernel
  obtain ⟨x, -, hx, he⟩ := ((cause?_iff Sample.controller Sample.suite Sample.transfer claims
    (.thread 0) Sample.start e ⟨"no accounts", []⟩).1 hclaim).1 rfl
  obtain ⟨y, he', hy⟩ := ((cause?_iff Sample.controller Sample.audited Sample.transfer reviews
    (.thread 0) opened e' ⟨"no auditor", ["404"]⟩).2 hreview).1 rfl
  exact ⟨⟨hclaim, x, he, hx⟩, hreview, y, he', hy.imp And.right fun h => h.2.1⟩

/-- A test whose only hook body succeeds gets a failure to hand back: the other hook has no
body. -/
theorem cause?_of_unbound_afterHook :
    let b : Bindings Unit := [(("AuditedTest", Sample.review.signature), fun w => (.ok (), w))]
    let t : TestRun Unit := ⟨Sample.audited, Sample.transfer, b.subject, .thread 0⟩
    let opened := Sample.controller.beforeTest t Sample.start
    let complaint : Failure :=
      ⟨"hook AuditedTest::archive() is not invocable: no body bound on this test instance", []⟩
    opened.1 = .ok () ∧ (∃ e, (Sample.controller.afterTest t opened.2).1 = .error e ∧
      e.cause? = some complaint) ∧ ∀ y f, ¬ b.Raises y f := by
  intro b t opened complaint
  have hanswer : (Sample.controller.afterTest t opened.2).1 =
      .error (.afterHook "AuditedTest::archive()" complaint) := by decide +kernel
  refine ⟨by decide +kernel, ⟨_, hanswer, rfl⟩, ?_⟩
  rintro y f ⟨body, hbody, hraises⟩
  have hmem := List.mem_singleton.1 (Table.mem_of_find? hbody)
  cases (Prod.mk.inj hmem).2
  cases hraises

end Controller

end TransactionalTest
