import TransactionalTest.HookRunner
import TransactionalTest.Proofs.World

/-!
# What hooks may do

A hook body is any function of the world.  A theorem that needs less than "any" says so by a
relation between the worlds before and after a call.

* `World.Frame` : a relation that reports, caches and records of hook calls do not disturb;
* `Subject.Within` : every call of a hook stays within the relation;
* `HookRunner.runBefore_within`, `HookRunner.runAfter_within` : so does the whole phase;
* `HookRunner.lastReturn` : the world as the last hook that is called leaves it.
-/

namespace TransactionalTest

variable {α : Type}

/-! ### Frames -/

/-- A relation between the world before and after that composes, and that neither bookkeeping
nor the record of a hook call disturbs. -/
structure World.Frame (R : World α → World α → Prop) : Prop where
  refl : ∀ w, R w w
  trans : ∀ {u v w}, R u v → R v w → R u w
  quiet : ∀ {w w'}, w.Quiet w' → R w w'
  invoked : ∀ key hook r w, R w (w.record (.invoked key hook r))

/-- To keep a part of the world is a frame, if the part is none of the bookkeeping. -/
theorem World.Frame.keeping {β : Type} (f : World α → β)
    (hq : ∀ {w w' : World α}, w.Quiet w' → f w' = f w)
    (hi : ∀ key hook r (w : World α), f (w.record (.invoked key hook r)) = f w) :
    World.Frame fun w w' : World α => f w' = f w where
  refl _ := rfl
  trans h h' := Eq.trans h' h
  quiet := hq
  invoked := hi

/-- Every call of a hook on the test object stays within the relation. -/
def Subject.Within (R : World α → World α → Prop) (s : Subject α) : Prop :=
  ∀ hook w, R w (s hook w).2

theorem Subject.Within.mono {R S : World α → World α → Prop} {s : Subject α}
    (h : s.Within R) (hRS : ∀ w w', R w w' → S w w') : s.Within S :=
  fun hook w => hRS _ _ (h hook w)

/-- A test object put together from bodies that stay within a relation does so too. -/
theorem Bindings.subject_within {R : World α → World α → Prop} (hrefl : ∀ w, R w w)
    {b : Bindings α} (h : ∀ e ∈ b, ∀ w, R w (e.2 w).2) : b.subject.Within R := by
  intro hook w
  unfold Bindings.subject
  cases hb : b.find? (hook.declaringClass, hook.signature) with
  | none => exact hrefl w
  | some body =>
    have hbody : R w (body w).2 := h _ (Table.mem_of_find? hb) w
    simp only
    split <;> rename_i he <;> rw [he] at hbody <;> exact hbody

namespace HookRunner

/-! ### Running the hooks of a phase -/

theorem quiet_hooksFor (r : HookRunner) (c : TestClass) (phase : HookPhase) (w : World α) :
    w.Quiet (r.hooksFor c phase w).2 := by
  unfold hooksFor
  split
  · exact .refl w
  · exact (World.Quiet.report _ w).trans (.hookCache _ _)

section

variable {R : World α → World α → Prop} (hR : World.Frame R) {t : TestRun α}
  (ht : t.subject.Within R)
include hR ht

theorem call_within (operation : String) (hook : HookMethod) (w : World α) :
    R w (call operation t hook w).2 := by
  have h₁ : R w (w.report (.hook operation t.name hook.display)) :=
    hR.quiet (World.Quiet.report _ w)
  have h₂ := hR.trans h₁ (ht hook _)
  unfold call
  simp only
  split <;> rename_i hr
  · exact hR.trans h₂ (hR.invoked t.key hook _ _)
  · exact hR.trans (hR.trans h₂ (hR.invoked t.key hook _ _)) (hR.quiet (World.Quiet.report _ _))

theorem callUntilFailure_within (hooks : List HookMethod) (w : World α) :
    R w (callUntilFailure t hooks w).2 := by
  induction hooks generalizing w with
  | nil => exact hR.refl w
  | cons hook hooks ih =>
    have h := call_within hR ht Operation.beforeTransactionHook hook w
    unfold callUntilFailure
    split <;> rename_i hc <;> rw [hc] at h
    · exact hR.trans h (ih _)
    · exact h

theorem callAll_within (hooks : List HookMethod) (w : World α) :
    R w (callAll t hooks w).2 := by
  induction hooks generalizing w with
  | nil => exact hR.refl w
  | cons hook hooks ih =>
    have h := call_within hR ht Operation.afterTransactionHook hook w
    unfold callAll
    split <;> rename_i hc <;> rw [hc] at h <;> exact hR.trans h (ih _)

theorem runBefore_within (r : HookRunner) (w : World α) : R w (r.runBefore t w).2 :=
  hR.trans (hR.quiet (quiet_hooksFor r _ _ w)) (callUntilFailure_within hR ht _ _)

theorem runAfter_within (r : HookRunner) (w : World α) : R w (r.runAfter t w).2 :=
  hR.trans (hR.quiet (quiet_hooksFor r _ _ w)) (callAll_within hR ht _ _)

end

/-! ### Errors of before-hooks -/

/-- The error is one that a before-hook causes. -/
def IsBeforeError : LifecycleError → Prop
  | .beforeHook _ _ | .hookInvocation _ _ => True
  | _ => False

theorem isBeforeError_of_runBefore {r : HookRunner} {t : TestRun α} {w : World α}
    {e : LifecycleError} (h : (r.runBefore t w).1 = .error e) : IsBeforeError e := by
  have key : ∀ (hooks : List HookMethod) (w : World α),
      (callUntilFailure t hooks w).1 = .error e → IsBeforeError e := by
    intro hooks
    induction hooks with
    | nil => intro w h; cases h
    | cons hook hooks ih =>
      intro w h
      unfold callUntilFailure at h
      split at h
      · exact ih _ h
      · rename_i he _ _
        cases h
        cases he <;> trivial
  exact key _ _ h

/-! ### The last hook to come back -/

/-- The world as the last hook that is called leaves it; `last` when none is called. -/
def lastReturn (t : TestRun α) (last : World α) : List HookMethod → World α → World α
  | [], _ => last
  | hook :: hooks, w =>
    let back := (t.subject hook (w.report (.hook Operation.beforeTransactionHook t.name
      hook.display))).2
    match call Operation.beforeTransactionHook t hook w with
    | (.ok (), w) => lastReturn t back hooks w
    | (.error _, _) => back

/-- What the bookkeeping after a hook call does not touch is, when the hooks are through, as the
last of them left it. -/
theorem lastReturn_keeps {β : Type} (f : World α → β)
    (hf : World.Frame fun w w' : World α => f w' = f w) (t : TestRun α)
    (hooks : List HookMethod) {last w : World α} (h : f w = f last) :
    f (callUntilFailure t hooks w).2 = f (lastReturn t last hooks w) := by
  induction hooks generalizing last w with
  | nil => exact h
  | cons hook hooks ih =>
    -- `call` adds only a record and a report to the world in which the hook came back
    have hback : f (call Operation.beforeTransactionHook t hook w).2 =
        f (t.subject hook (w.report (.hook Operation.beforeTransactionHook t.name
          hook.display))).2 := by
      unfold call
      simp only
      split
      · exact hf.invoked _ _ _ _
      · exact hf.trans (hf.invoked _ _ _ _) (hf.quiet (World.Quiet.report _ _))
    unfold callUntilFailure lastReturn
    split <;> rename_i hc <;> simp only [hc] at hback ⊢
    · exact ih hback
    · exact hback

end HookRunner

end TransactionalTest
