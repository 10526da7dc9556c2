import Mathlib.Data.List.Induction
import TransactionalTest.Proofs.Slots

/-!
# One test at a time on a key

A before-test phase is refused while a context is published for its key.  The holder is shared,
but the states are not: a controller whose test is finished by another one still has the key down
as active, and refuses until it has run an after-test phase itself.

* `Controller.beforeTest_eq_busy_iff` : the phase is refused as busy when the key is busy;
* `Operation.Unfinished` : the controller has opened a test in the run and finished none since;
* `Operation.state_runAll` : the state of a key is `active` just then;
* `Operation.refused_iff` : when a before-test phase is refused, after any run.
-/

namespace TransactionalTest

variable {α : Type}

namespace Controller

variable {c : Controller} {t : TestRun α} {m : Manager} {a : Attribute} {w : World α}

/-- A before-test phase answers that the key is busy just when it is. -/
theorem beforeTest_eq_busy_iff (c : Controller) (t : TestRun α) (w : World α) :
    (c.beforeTest t w).1 = .error (.illegalState (.busy t.display)) ↔
      (w.context? t.key).isSome = true ∨ c.state t.key w ≠ .idle := by
  have hbusy : c.isBusy t.key w = true ↔
      (w.context? t.key).isSome = true ∨ c.state t.key w ≠ .idle := by
    simp [isBusy]
  rw [← hbusy]
  have hexit := c.beforeTest_exit t w
  generalize c.beforeTest t w = out at hexit
  cases hexit with
  | busy occupied _ => simp [occupied]
  | entered free =>
    simp only [free, Bool.false_eq_true, iff_false]
    exact fun he => isEntryError_of_enter he
  | _ free => simp [free]

end Controller

namespace Operation

variable {ι : Type} {controllers : ι → Controller} {i : ι} {key : ExecutionKey} {w : World α}

/-! ### Tests that a controller has opened -/

/-- A before-test phase of this controller fills the free slot of the key. -/
def Opens (controllers : ι → Controller) (i : ι) (key : ExecutionKey)
    (op : Operation ι (SameSlots : World α → World α → Prop)) (w : World α) : Prop :=
  (∃ t, op = .before i t ∧ t.key = key) ∧ w.context? key = none ∧
    ((op.run controllers w).2.context? key).isSome = true

/-- The operation is an after-test phase of this controller on the key. -/
def Closes (i : ι) (key : ExecutionKey)
    (op : Operation ι (SameSlots : World α → World α → Prop)) : Prop :=
  ∃ t, op = .after i t ∧ t.key = key

/-- In this run the controller has opened a test on the key, and it has run no after-test phase
there since. -/
def Unfinished (controllers : ι → Controller) (i : ι) (key : ExecutionKey)
    (ops : List (Operation ι (SameSlots : World α → World α → Prop))) (w : World α) : Prop :=
  ∃ pre op post, ops = pre ++ op :: post ∧
    op.Opens controllers i key (runAll controllers pre w) ∧ ∀ op' ∈ post, ¬ op'.Closes i key

theorem not_unfinished_nil : ¬ Unfinished controllers i key [] w := by
  rintro ⟨pre, op, post, h, -⟩
  simp at h

/-- An unfinished test was opened by the last operation, or before it and the last operation does
not close it. -/
theorem unfinished_append_singleton
    (ops : List (Operation ι (SameSlots : World α → World α → Prop)))
    (last : Operation ι (SameSlots : World α → World α → Prop)) :
    Unfinished controllers i key (ops ++ [last]) w ↔
      last.Opens controllers i key (runAll controllers ops w) ∨
        Unfinished controllers i key ops w ∧ ¬ last.Closes i key := by
  constructor
  · rintro ⟨pre, op, post, h, hopens, hpost⟩
    rcases List.eq_nil_or_concat post with rfl | ⟨post, op', rfl⟩
    · obtain ⟨rfl, hlast⟩ := List.append_inj' h rfl
      obtain rfl := List.singleton_inj.1 hlast
      exact .inl hopens
    · have h' : ops ++ [last] = (pre ++ op :: post) ++ [op'] := by simpa using h
      obtain ⟨rfl, hlast⟩ := List.append_inj' h' rfl
      obtain rfl := List.singleton_inj.1 hlast
      refine .inr ⟨⟨pre, op, post, rfl, hopens, fun o ho => hpost o ?_⟩, hpost last ?_⟩
      · exact List.concat_eq_append ▸ List.mem_append_left _ ho
      · simp
  · rintro (hopens | ⟨⟨pre, op, post, rfl, hopens, hpost⟩, hlast⟩)
    · exact ⟨ops, last, [], rfl, hopens, fun _ h => nomatch h⟩
    · refine ⟨pre, op, post ++ [last], by simp, hopens, fun o ho => ?_⟩
      rcases List.mem_append.1 ho with ho | ho
      · exact hpost o ho
      · exact List.mem_singleton.1 ho ▸ hlast

/-! ### States follow runs -/

variable {op : Operation ι (SameSlots : World α → World α → Prop)}

theorem state_of_opens (h : op.Opens controllers i key w) :
    (controllers i).state key (op.run controllers w).2 = .active := by
  obtain ⟨⟨t, rfl, rfl⟩, hfree, htaken⟩ := h
  cases Controller.beforeSlots t.within (controllers i) w with
  | same contexts _ =>
    have hslot : ((before i t : Operation ι SameSlots).run controllers w).2.context? t.key =
        w.context? t.key := congrArg (Table.find? t.key) contexts
    rw [hslot, hfree] at htaken
    cases htaken
  | filled _ _ _ state => exact state

theorem state_of_closes (h : op.Closes i key) (hs : (controllers i).state key w ≠ .pending) :
    (controllers i).state key (op.run controllers w).2 = .idle := by
  obtain ⟨t, rfl, rfl⟩ := h
  exact Controller.state_afterTest (Controller.keepsState_of_sameSlots t.within) hs

section

variable (hid : Function.Injective fun i => (controllers i).id)
include hid

/-- The state of a key on a controller is as before, unless that controller opens or closes a test
there. -/
theorem state_of_neither (ho : ¬ op.Opens controllers i key w) (hc : ¬ op.Closes i key) :
    (controllers i).state key (op.run controllers w).2 = (controllers i).state key w := by
  -- a phase of another controller or key changes the state of that one only
  have hne : ∀ {j : ι} {key' : ExecutionKey}, ¬ (j = i ∧ key' = key) →
      ((controllers i).id, key) ≠ ((controllers j).id, key') := fun h he =>
    h ⟨(hid (Prod.mk.inj he).1).symm, (Prod.mk.inj he).2.symm⟩
  cases op with
  | before j t =>
    by_cases hkey : j = i ∧ t.key = key
    · obtain ⟨rfl, rfl⟩ := hkey
      cases Controller.beforeSlots t.within (controllers j) w with
      | same _ state => exact state
      | filled x free contexts _ =>
        refine absurd ⟨⟨t, rfl, rfl⟩, free, ?_⟩ ho
        rw [show ((before j t : Operation ι SameSlots).run controllers w).2.context? t.key = some x
          from (congrArg (Table.find? t.key) contexts).trans (Table.find?_insert_self ..)]
        rfl
    · exact (Controller.onlyState_beforeTest t.within (controllers j) w).others _ _ (hne hkey)
  | after j t =>
    have hkey : ¬ (j = i ∧ t.key = key) := by
      rintro ⟨rfl, rfl⟩
      exact hc ⟨t, rfl, rfl⟩
    exact (Controller.onlyState_afterTest t.within (controllers j) w).others _ _ (hne hkey)
  | body key' step => exact Controller.state_congr (step.states_run key' w)
  | register r =>
    refine Controller.state_congr ?_
    simp only [run, World.register]
    split <;> rfl
  | stage | addSelector => rfl

/-- After a run the state of a key on a controller is `active` if the controller has opened a test
there and not closed it, and else `idle`. -/
theorem state_runAll (hidle : (controllers i).state key w = .idle)
    (ops : List (Operation ι (SameSlots : World α → World α → Prop))) :
    (controllers i).state key (runAll controllers ops w) ≠ .pending ∧
      ((controllers i).state key (runAll controllers ops w) = .active ↔
        Unfinished controllers i key ops w) := by
  induction ops using List.reverseRecOn with
  | nil => simp [runAll, hidle, not_unfinished_nil]
  | append_singleton ops op ih =>
    obtain ⟨hnot, hactive⟩ := ih
    have hrun : runAll controllers (ops ++ [op]) w =
        (op.run controllers (runAll controllers ops w)).2 := runAll_append ops [op] w
    rw [hrun, unfinished_append_singleton, ← hactive]
    by_cases ho : op.Opens controllers i key (runAll controllers ops w)
    · simp [state_of_opens ho, ho]
    · by_cases hc : op.Closes i key
      · simp [state_of_closes hc hnot, ho, hc]
      · simp [state_of_neither hid ho hc, ho, hc, hnot]

/-- **A before-test phase is refused while a context is published for its key, or while its own
controller has opened a test there and not finished it.**  Once an after-test phase of any
controller is through, no context is published: the key is refused only by a controller that still
has a test of its own to finish there. -/
theorem refused_iff (t : TestRun α) (hidle : (controllers i).state t.key w = .idle)
    (ops : List (Operation ι (SameSlots : World α → World α → Prop))) :
    (((controllers i).beforeTest t (runAll controllers ops w)).1 =
        .error (.illegalState (.busy t.display)) ↔
      ((runAll controllers ops w).context? t.key).isSome = true ∨
        Unfinished controllers i t.key ops w) ∧
    ∀ (j : ι) (t' : GuardedRun (SameSlots : World α → World α → Prop)), t'.key = t.key →
      (((controllers i).beforeTest t (runAll controllers (ops ++ [.after j t']) w)).1 =
          .error (.illegalState (.busy t.display)) ↔
        j ≠ i ∧ Unfinished controllers i t.key ops w) := by
  have hrefused : ∀ ops : List (Operation ι (SameSlots : World α → World α → Prop)),
      ((controllers i).beforeTest t (runAll controllers ops w)).1 =
          .error (.illegalState (.busy t.display)) ↔
        ((runAll controllers ops w).context? t.key).isSome = true ∨
          Unfinished controllers i t.key ops w := by
    intro ops
    obtain ⟨hnot, hactive⟩ := state_runAll hid hidle ops
    rw [Controller.beforeTest_eq_busy_iff, ← hactive]
    refine or_congr_right ?_
    cases hs : (controllers i).state t.key (runAll controllers ops w) <;> simp_all
  refine ⟨hrefused ops, fun j t' hkey => ?_⟩
  have hempty : (runAll controllers (ops ++ [.after j t']) w).context? t.key = none := by
    rw [runAll_append, ← hkey]
    exact Controller.context?_afterTest t'.within (controllers j) _
  have hopens : ¬ (after j t' : Operation ι SameSlots).Opens controllers i t.key
      (runAll controllers ops w) := fun ⟨⟨_, h, _⟩, _⟩ => nomatch h
  have hcloses : (after j t' : Operation ι SameSlots).Closes i t.key ↔ j = i :=
    ⟨fun ⟨_, h, _⟩ => (Operation.after.inj h).1, fun h => h ▸ ⟨t', rfl, hkey⟩⟩
  rw [hrefused, hempty, unfinished_append_singleton]
  simp [hopens, hcloses, and_comm]

end

/-- A test that one controller has opened and the other has finished is still unfinished for the
first. -/
theorem refused_iff_pair :
    let ops : List (Operation Bool SameSlots) := [.before false Sample.quietRun]
    let t := Sample.quietRun.toTestRun
    let w := runAll Sample.pair (ops ++ [.after true Sample.quietRun]) Sample.start
    ((Sample.pair false).beforeTest t w).1 = .error (.illegalState (.busy t.display)) ∧
      ((Sample.pair true).beforeTest t w).1 ≠ .error (.illegalState (.busy t.display)) := by
  intro ops t w
  have hopen : Unfinished Sample.pair false t.key ops Sample.start :=
    ⟨[], _, [], rfl, ⟨⟨Sample.quietRun, rfl, rfl⟩, rfl, rfl⟩, fun _ h => nomatch h⟩
  have hfirst := (refused_iff Sample.pair_id_injective (i := false) (w := Sample.start) t rfl ops).2
    true Sample.quietRun rfl
  have hsecond := (refused_iff Sample.pair_id_injective (i := true) (w := Sample.start) t rfl ops).2
    true Sample.quietRun rfl
  have hne : true ≠ false := nofun
  constructor
  · exact hfirst.2 ⟨hne, hopen⟩
  · intro h
    exact (hsecond.1 h).1 rfl

/-- That no context is published is not enough for a controller to accept a test. -/
theorem refused_without_context :
    let t := Sample.quietRun
    let w := runAll Sample.pair [.before false t, .after true t] Sample.start
    ¬ (((Sample.pair false).beforeTest t.toTestRun w).1 =
        .error (.illegalState (.busy t.display)) ↔ (w.context? t.key).isSome = true) := by
  intro t w h
  have hempty : w.context? t.key = none := by decide +kernel
  have hactive : (Sample.pair false).state t.key w = .active := by decide +kernel
  have hrefused := (Controller.beforeTest_eq_busy_iff (Sample.pair false) t.toTestRun w).2
    (.inr (by rw [hactive]; exact LifecycleState.noConfusion))
  rw [hempty] at h
  cases h.1 hrefused

end Operation

end TransactionalTest
