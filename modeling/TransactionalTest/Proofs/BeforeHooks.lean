import TransactionalTest.Proofs.Alarms
import TransactionalTest.Proofs.Discovery
import TransactionalTest.Proofs.Remembered

/-!
# Ancestors first, up to the first failure

Before-hooks are called in the reverse of the order in which they are discovered.  What one of them
answers may depend on what the earlier ones have done, and none is called after one that fails.

* `HookRunner.FailFast` : calls that go through a list of hooks, up to the first that fails;
* `HookRunner.failFast_trials` : those of before-hooks do;
* `HookRunner.FailFast.mem_of_pairwise` : what comes first in the list has been called first;
* `HookRunner.BeforeRun` : what a run of before-hooks does and answers;
* `Controller.ancestors_first` : every run is such a run, and a before-test phase passes its error
  on without asking for a transaction.
-/

namespace TransactionalTest

variable {α : Type}

namespace HookRunner

variable {t : TestRun α} {hooks : List HookMethod} {calls : List (HookCall α)} {w : World α}

/-! ### Up to the first failure -/

/-- All hooks are called, in order, and succeed; or one fails, those before it have been called and
have succeeded, and those after it are not called. -/
def FailFast (hooks : List HookMethod) (calls : List (HookCall α)) : Prop :=
  (calls.map HookCall.hook = hooks ∧ ∀ y ∈ calls, y.answer = .ok ()) ∨
    ∃ before y r rest, calls = before ++ [y] ∧ (∀ x ∈ before, x.answer = .ok ()) ∧
      y.answer = .error r ∧ hooks = calls.map HookCall.hook ++ rest

/-- The calls of before-hooks stop at the first failure. -/
theorem failFast_trials (t : TestRun α) (hooks : List HookMethod) (w : World α) :
    FailFast hooks (trials t hooks w) := by
  induction hooks generalizing w with
  | nil => exact .inl ⟨rfl, List.forall_mem_nil _⟩
  | cons hook hooks ih =>
    have hanswer := trialOf_answer t hook w
    unfold trials
    rcases hc : call Operation.beforeTransactionHook t hook w with ⟨r | _, w₁⟩ <;>
      rw [hc] at hanswer
    · exact .inr ⟨[], trialOf t hook w, r, hooks, rfl, List.forall_mem_nil _, hanswer, rfl⟩
    · -- a call that succeeds comes before those that the rest of the hooks makes
      rcases ih w₁ with ⟨hall, hok⟩ | ⟨before, y, r, rest, hcalls, hok, hr, hrest⟩
      · refine .inl ⟨congrArg (hook :: ·) hall, ?_⟩
        exact List.forall_mem_cons.2 ⟨hanswer, hok⟩
      · refine .inr ⟨trialOf t hook w :: before, y, r, rest, congrArg (_ :: ·) hcalls,
          List.forall_mem_cons.2 ⟨hanswer, hok⟩, hr, congrArg (hook :: ·) hrest⟩

namespace FailFast

variable (h : FailFast hooks calls)
include h

theorem initial : calls.map HookCall.hook <+: hooks := by
  rcases h with ⟨hall, -⟩ | ⟨_, _, _, rest, -, -, -, hrest⟩
  · exact hall ▸ List.prefix_refl _
  · exact hrest ▸ List.prefix_append ..

/-- If none of the calls has failed, all hooks have been called. -/
theorem complete (hnone : ∀ y r, ¬ HookCall.FirstFailed calls y r) :
    calls.map HookCall.hook = hooks ∧ ∀ y ∈ calls, y.answer = .ok () := by
  rcases h with hall | ⟨before, y, r, rest, rfl, -, hr, -⟩
  · exact hall
  · have hfailed : (before ++ [y]).any HookCall.failed = true := by
      simp [HookCall.failed, hr, Except.isOk, Except.toBool]
    obtain ⟨x, r', hx⟩ := HookCall.any_failed_iff.1 hfailed
    exact absurd hx (hnone x r')

/-- What comes before a hook in the list has been called before it. -/
theorem mem_of_pairwise {R : HookMethod → HookMethod → Prop} (hR : hooks.Pairwise R)
    {before after : List (HookCall α)} {y : HookCall α} (hy : calls = before ++ y :: after)
    {g : HookMethod} (hg : g ∈ hooks) (hne : g ≠ y.hook) (hnot : ¬ R y.hook g) :
    g ∈ before.map HookCall.hook := by
  obtain ⟨rest, rfl⟩ := h.initial
  simp only [hy, List.map_append, List.map_cons, List.append_assoc, List.cons_append] at hR hg
  rcases List.mem_append.1 hg with hbefore | hafter
  · exact hbefore
  · rcases List.mem_cons.1 hafter with heq | hlater
    · exact absurd heq hne
    · have hlast := (List.pairwise_append.1 hR).2.1
      exact absurd ((List.pairwise_cons.1 hlast).1 g hlater) hnot

end FailFast

/-! ### A run of before-hooks -/

/-- The calls that the before-hooks of a test make, and what comes of them. -/
structure BeforeRun (t : TestRun α) (w : World α) (calls : List (HookCall α))
    (out : Except LifecycleError Unit × World α) : Prop where
  own : ∀ y ∈ calls, y.IsOf t.subject
  proceedings : out.2.proceedings =
    w.proceedings ++ calls.flatMap (HookCall.account Operation.beforeTransactionHook t)
  failFast : FailFast (t.cls.discover .beforeTransaction).reverse calls
  /-- No signature is called twice, let alone a hook. -/
  once : (calls.map fun y => y.hook.signature).Nodup
  /-- When a hook is called, all hooks of its ancestor levels have been called. -/
  ancestors : ∀ before y after, calls = before ++ y :: after →
    ∀ g ∈ t.cls.discover .beforeTransaction,
      t.cls.depth .beforeTransaction y.hook.signature <
        t.cls.depth .beforeTransaction g.signature → g ∈ before.map HookCall.hook
  ok_iff : out.1 = .ok () ↔
    calls.map HookCall.hook = (t.cls.discover .beforeTransaction).reverse ∧
      ∀ y ∈ calls, y.answer = .ok ()
  error_iff : ∀ e, out.1 = .error e ↔
    ∃ y r, HookCall.FirstFailed calls y r ∧ e = beforeError y.hook r

/-- Calling the before-hooks of a class in the reverse of discovery order is such a run. -/
theorem beforeRun_callUntilFailure (ht : t.subject.Within Appends) (w : World α) :
    BeforeRun t w (trials t (t.cls.discover .beforeTransaction).reverse w)
      (callUntilFailure t (t.cls.discover .beforeTransaction).reverse w) where
  own _ hy := isOf_of_mem_trials hy
  proceedings := proceedings_callUntilFailure ht _ w
  failFast := failFast_trials t _ w
  once := by
    have hnodup : ((t.cls.discover .beforeTransaction).reverse.map HookMethod.signature).Nodup := by
      rw [List.map_reverse, List.nodup_reverse]
      exact TestClass.nodup_keepFirst ..
    have hcalled := (failFast_trials t (t.cls.discover .beforeTransaction).reverse w).initial
    have hsublist := hnodup.sublist (hcalled.sublist.map HookMethod.signature)
    rwa [List.map_map] at hsublist
  ancestors before y after hy g hg hdepth := by
    have horder : (t.cls.discover .beforeTransaction).reverse.Pairwise fun f g =>
        t.cls.depth .beforeTransaction g.signature ≤ t.cls.depth .beforeTransaction f.signature :=
      List.pairwise_reverse.2 (t.cls.pairwise_depth_discover .beforeTransaction)
    refine (failFast_trials t _ w).mem_of_pairwise horder hy (List.mem_reverse.2 hg) ?_
      (Nat.not_le_of_lt hdepth)
    rintro rfl
    exact Nat.lt_irrefl _ hdepth
  ok_iff := by
    constructor
    · intro hok
      refine (failFast_trials t _ w).complete fun y r hy => ?_
      cases hok.symm.trans (callUntilFailure_error.2 ⟨y, r, hy, rfl⟩)
    · rintro ⟨-, hok⟩
      rcases hout : (callUntilFailure t (t.cls.discover .beforeTransaction).reverse w).1 with e | _
      · obtain ⟨y, r, hy, -⟩ := callUntilFailure_error.1 hout
        cases (hok y hy.mem).symm.trans hy.2
      · rfl
  error_iff _ := callUntilFailure_error

end HookRunner

namespace Controller

variable {c : Controller} {t : TestRun α} {m : Manager} {a : Attribute} {w w₀ w₁ : World α}

/-- The calls of before-hooks that a run of them makes in this world. -/
def hookCalls (c : Controller) (t : TestRun α) (w : World α) : List (HookCall α) :=
  HookRunner.trials t (t.cls.discover .beforeTransaction).reverse
    (c.runner.hooksFor t.cls .beforeTransaction w).2

theorem beforeRun_runBefore (h : c.Recalls w) (ht : t.subject.Within Appends) :
    HookRunner.BeforeRun t w (c.hookCalls t w) (c.runner.runBefore t w) := by
  have hrun := HookRunner.beforeRun_callUntilFailure ht
    (c.runner.hooksFor t.cls .beforeTransaction w).2
  have hsame := hrun.proceedings
  rw [HookRunner.proceedings_hooksFor] at hsame
  unfold HookRunner.runBefore
  simp only [h.hooksFor_fst]
  exact { hrun with proceedings := hsame }

/-- A controller that remembers what is declared does so, too, when it comes to the hooks. -/
theorem Admits.recalls (hadmits : c.Admits t m a w₀ w₁) (h : c.Recalls w₀) :
    c.Recalls (c.requested t.key w₁) := by
  have hasked : c.Recalls (asked t a w₀) := h.congr ⟨rfl, rfl⟩
  have hfound : c.Recalls (c.managerFor t a w₀).2 :=
    (hasked.resolve t.cls).congr (World.sameCaches_lookup ..)
  rw [hadmits.lookup] at hfound
  rw [requested, setState_eq]
  exact hfound.congr ⟨rfl, rfl⟩

/-- On a test object that is put together from bodies, a run of before-hooks fails with what a body
has raised, or because the hook has no body. -/
theorem runBefore_of_bindings (h : c.Recalls w) (ht : t.subject.Within Appends) {b : Bindings α}
    (hb : t.subject = b.subject) {e : LifecycleError}
    (he : (c.runner.runBefore t w).1 = .error e) :
    ∃ y r, HookCall.FirstFailed (c.hookCalls t w) y r ∧
      ((∃ f, b.Raises y f ∧ e = .beforeHook y.hook.display f) ∨
        b.Lacks y.hook ∧
          e = .hookInvocation y.hook.display "no body bound on this test instance") := by
  have hrun := beforeRun_runBefore h ht
  obtain ⟨y, r, hy, rfl⟩ := (hrun.error_iff e).1 he
  refine ⟨y, r, hy, ?_⟩
  rcases Bindings.answer_error (hb ▸ hrun.own y hy.mem) hy.2 with ⟨f, rfl, hf⟩ | ⟨hlacks, rfl⟩
  · exact .inl ⟨f, hf, rfl⟩
  · exact .inr ⟨hlacks, rfl⟩

/-- A before-test phase that admits its test answers the error of its hooks, and then has done
nothing but call them. -/
theorem beforeTest_of_runBefore_error (ht : t.subject.Within (c.StaysOut t.key))
    (hadmits : c.Admits t m a w₀ w₁) {e : LifecycleError}
    (he : (c.runner.runBefore t (c.requested t.key w₁)).1 = .error e) :
    (c.beforeTest t w₀).1 = .error e ∧ (c.beforeTest t w₀).2.proceedings =
      (c.runner.runBefore t (c.requested t.key w₁)).2.proceedings := by
  rw [hadmits.beforeTest, enter_fst hadmits.idle (ht.mono fun _ _ h => h.state),
    proceedings_enter hadmits.idle, setUp_of_runBefore_error (Prod.ext he rfl)]
  exact ⟨rfl, rfl⟩

/-- **Before-hooks run ancestors first and stop at the first failure.**  For any class, on a
controller that remembers nothing but what is declared (`Call.recalls_runAll`), with hooks that may
fail and change the world as they like, as long as they stay out of the controller's business on
their key: the hooks that are called are those that are discovered for the class, in
reverse, all of them or up to the first that fails; so each is called once, and none before those of
its ancestor levels.  The run succeeds if and only if all hooks have been called and have
succeeded, and else its error is that of the one that has failed: what its body has raised, or that
it has no body.  A before-test phase that runs the hooks answers the same error, and asks no manager
for a transaction. -/
theorem ancestors_first (h : c.Recalls w) (ht : t.subject.Within (c.StaysOut t.key)) :
    HookRunner.BeforeRun t w (c.hookCalls t w) (c.runner.runBefore t w) ∧
    (∀ (b : Bindings α) (e : LifecycleError), t.subject = b.subject →
      (c.runner.runBefore t w).1 = .error e →
        ∃ y r, HookCall.FirstFailed (c.hookCalls t w) y r ∧
          ((∃ f, b.Raises y f ∧ e = .beforeHook y.hook.display f) ∨
            b.Lacks y.hook ∧
              e = .hookInvocation y.hook.display "no body bound on this test instance")) ∧
    ∀ m a w₀ w₁ e, c.Admits t m a w₀ w₁ → w = c.requested t.key w₁ →
      (c.runner.runBefore t w).1 = .error e →
        (c.beforeTest t w₀).1 = .error e ∧ (c.beforeTest t w₀).2.proceedings = w₀.proceedings ++
          (c.hookCalls t w).flatMap (HookCall.account Operation.beforeTransactionHook t) := by
  have happends : t.subject.Within Appends := ht.mono fun _ _ h => h.appends
  have hrun := beforeRun_runBefore h happends
  refine ⟨hrun, fun b e hb he => runBefore_of_bindings h happends hb he, ?_⟩
  rintro m a w₀ w₁ e hadmits rfl he
  obtain ⟨hanswer, hworld⟩ := beforeTest_of_runBefore_error ht hadmits he
  exact ⟨hanswer, by rw [hworld, hrun.proceedings, hadmits.proceedings]⟩

end Controller

namespace Sample

/-- A hook that no test object has a body for. -/
def fund : Method := { signature := ⟨"fund", []⟩, hook := some .beforeTransaction }

/-- A class with this hook that extends `suite`. -/
def overdrafts : TestClass :=
  .extend 2 { name := "OverdraftTest", methods := [fund] } suite

/-- The test that it inherits, with a body for the hook that it inherits. -/
def overdraftTest (body : HookBody Unit) : TestRun Unit :=
  ⟨overdrafts, transfer, Bindings.subject [(("AccountTest", prepare.signature), body)], .thread 0⟩

end Sample

/-- The hook of the ancestor makes the manager refuse to begin; but it does not come to that,
because the other hook has no body. -/
theorem Controller.ancestors_first_unbound :
    let t := Sample.overdraftTest fun w =>
      (.ok (), w.failNextBegin Sample.accounts "pool exhausted")
    let a := Attribute.forTest {} t.name
    let w := Sample.controller.requested t.key (Sample.controller.managerFor t a Sample.start).2
    let e := LifecycleError.hookInvocation "OverdraftTest::fund()"
      "no body bound on this test instance"
    HookRunner.BeforeRun t w (Sample.controller.hookCalls t w)
        (Sample.controller.runner.runBefore t w) ∧
      (Sample.controller.hookCalls t w).map (·.hook.display) =
        ["AccountTest::prepare()", "OverdraftTest::fund()"] ∧
      (Sample.controller.beforeTest t Sample.start).1 = .error e ∧
      (Sample.controller.beforeTest t Sample.start).2.proceedings =
        Sample.start.proceedings ++ (Sample.controller.hookCalls t w).flatMap
          (HookCall.account Operation.beforeTransactionHook t) := by
  intro t a w e
  have ht : t.subject.Within (Sample.controller.StaysOut t.key) :=
    Bindings.subject_within (frame_staysOut Sample.controller t.key).refl fun b hb w => by
      rw [List.mem_singleton.1 hb]
      exact ⟨rfl, List.prefix_refl _⟩
  have hfound : (Sample.controller.managerFor t a Sample.start).1 = .ok (some Sample.accounts) := by
    decide +kernel
  have hadmits : Sample.controller.Admits t Sample.accounts a Sample.start
      (Sample.controller.managerFor t a Sample.start).2 :=
    ⟨rfl, by decide +kernel, by decide +kernel, Prod.ext hfound rfl⟩
  have hrecalls : Sample.controller.Recalls w := hadmits.recalls (.of_empty rfl rfl)
  obtain ⟨hrun, -, hphase⟩ := ancestors_first hrecalls ht
  have hcalled := hphase _ _ _ _ e hadmits rfl (by decide +kernel)
  exact ⟨hrun, by decide +kernel, hcalled.1, hcalled.2⟩

end TransactionalTest
