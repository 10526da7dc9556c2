import TransactionalTest.Proofs.Teardown

/-!
# Hooks in pairs

A before-test phase passes four gates before it calls a hook or a manager: the key is free, an
intent is declared, the intent does not opt out, and a manager is found.  The after-test phase
passes none of them; it goes by the slot of the key alone.

* `Controller.beforeTest_acts` : what must hold for a before-test phase to do anything;
* `Controller.Exempt`, `Unmoved` : tests that run without a transaction, and worlds in which nothing
  has happened;
* `KeepsSlot` : hooks that leave a slot as full or as empty as they find it;
* `Controller.Publishes` : the before-test phase opens a transaction and publishes its context;
* `Operation.hooks_paired` : the after-hooks run just when it has;
* `Operation.afterHooks_of_rival` : not so when a hook publishes a context of its own.
-/

namespace TransactionalTest

variable {α : Type}

/-! ### The gates -/

/-- A transactional intent is declared on the method, on its class or on an ancestor. -/
def TestRun.Declares (t : TestRun α) : Prop :=
  t.method.transactional.isSome = true ∨ ∃ l ∈ t.cls.hierarchy, l.transactional.isSome = true

theorem TestRun.declares_iff (t : TestRun α) : t.Declares ↔ t.intent?.isSome = true := by
  unfold TestRun.Declares TestRun.intent? TestClass.intentOf? TestClass.attributeOf?
  cases t.method.transactional with
  | some a => simp
  | none => simp [List.findSome?_isSome_iff]

theorem Propagation.optsOut_iff {p : Propagation} : p.optsOut = true ↔ p = .notSupported := by
  simp [Propagation.optsOut]

namespace Controller

variable {c : Controller} {t : TestRun α} {m : Manager} {a : Attribute} {w : World α}

/-- A before-test phase does nothing but bookkeeping, unless an intent is declared that does not opt
out and a manager is found. -/
theorem beforeTest_acts (c : Controller) (t : TestRun α) (w : World α) :
    w.Quiet (c.beforeTest t w).2 ∨ t.Declares ∧ ∃ a m, t.intent? = some a ∧
      a.propagation ≠ .notSupported ∧ (c.managerFor t a w).1 = .ok (some m) := by
  have hexit := c.beforeTest_exit t w
  generalize c.beforeTest t w = out at hexit
  cases hexit with
  | busy _ quiet => exact .inl quiet
  | undeclared _ _ quiet => exact .inl quiet
  | optedOut _ _ _ quiet => exact .inl quiet
  | lookupFailed _ _ _ lookup => exact .inl (quiet_of_managerFor lookup)
  | notFound _ _ _ lookup => exact .inl (quiet_of_managerFor lookup)
  | unmanaged _ _ _ lookup _ quiet => exact .inl ((quiet_of_managerFor lookup).trans quiet)
  | @entered a m w₁ _ intent inside lookup =>
    have hdeclares : t.Declares := t.declares_iff.2 (by rw [intent]; rfl)
    have hinside : a.propagation ≠ .notSupported := fun h => by
      rw [Propagation.optsOut_iff.2 h] at inside
      cases inside
    exact .inr ⟨hdeclares, a, m, intent, hinside, by rw [lookup]⟩

/-! ### Tests without a transaction -/

/-- The test runs without a transaction: it declares no intent, its intent opts out, or a lenient
controller finds no manager for it. -/
inductive Exempt (c : Controller) (t : TestRun α) (w : World α) : Prop
  | undeclared (declares : ¬ t.Declares)
  | optedOut {a : Attribute} (intent : t.intent? = some a) (out : a.propagation = .notSupported)
  | unmanaged {a : Attribute} (intent : t.intent? = some a)
      (lenient : c.config.strictManagerResolution = false)
      (lookup : (c.managerFor t a w).1 = .ok none)

end Controller

/-- Nothing has happened: no hook was called and no manager, and the holder and all states are as
they were. -/
structure Unmoved (w w' : World α) : Prop where
  deeds : w'.deeds = w.deeds
  stores : w'.stores = w.stores
  beginCount : w'.beginCount = w.beginCount
  registry : w'.registry = w.registry
  contexts : w'.contexts = w.contexts
  states : ∀ (d : Controller) key, d.state key w' = d.state key w
  app : w'.app = w.app

theorem World.Quiet.unmoved {w w' : World α} (q : w.Quiet w') : Unmoved w w' where
  deeds := q.deeds
  stores := q.stores
  beginCount := q.beginCount
  registry := q.registry
  contexts := q.contexts
  states _ _ := Controller.state_congr q.states
  app := q.app

namespace Controller

variable {c : Controller} {t : TestRun α} {m : Manager} {a : Attribute} {w : World α}

/-- When a manager is looked up for it, none is found. -/
theorem Exempt.unmanaged_of_intent (h : c.Exempt t w) (hi : t.intent? = some a)
    (hin : a.propagation.optsOut = false) :
    c.config.strictManagerResolution = false ∧ (c.managerFor t a w).1 = .ok none := by
  cases h with
  | undeclared declares =>
    exact absurd (t.declares_iff.2 (by rw [hi]; rfl)) declares
  | optedOut intent out =>
    cases hi.symm.trans intent
    cases (Propagation.optsOut_iff.2 out).symm.trans hin
  | unmanaged intent lenient lookup =>
    cases hi.symm.trans intent
    exact ⟨lenient, lookup⟩

/-- On a free key a test without a transaction passes, and nothing happens. -/
theorem beforeTest_of_exempt (h : c.Exempt t w) (hfree : w.context? t.key = none)
    (hidle : c.state t.key w = .idle) :
    (c.beforeTest t w).1 = .ok () ∧ w.Quiet (c.beforeTest t w).2 := by
  have hbusy : c.isBusy t.key w = false := isBusy_eq_false.2 ⟨hfree, hidle⟩
  have hexit := c.beforeTest_exit t w
  generalize c.beforeTest t w = out at hexit
  cases hexit with
  | busy occupied => cases hbusy.symm.trans occupied
  | undeclared _ _ quiet => exact ⟨rfl, quiet⟩
  | optedOut _ _ _ quiet => exact ⟨rfl, quiet⟩
  | unmanaged _ _ _ lookup _ quiet => exact ⟨rfl, (quiet_of_managerFor lookup).trans quiet⟩
  | lookupFailed _ intent inside lookup | entered _ intent inside lookup =>
    have hnone := (h.unmanaged_of_intent intent inside).2
    rw [lookup] at hnone
    cases hnone
  | notFound _ intent inside _ strict =>
    cases (h.unmanaged_of_intent intent inside).1.symm.trans strict

/-- With an empty slot an after-test phase passes, and calls no hook and no manager. -/
theorem afterTest_of_empty (c : Controller) (hempty : w.context? t.key = none) :
    (c.afterTest t w).1 = .ok () ∧ (c.afterTest t w).2.deeds = w.deeds ∧
      (c.afterTest t w).2.stores = w.stores ∧ (c.afterTest t w).2.contexts = w.contexts := by
  have hcontexts : w.contexts.erase t.key = w.contexts :=
    Table.erase_of_notMem (Table.find?_eq_none_iff.1 hempty)
  have hdeeds : (taken t w).deeds = w.deeds := (World.Quiet.report _ w).deeds
  rw [afterTest_of_none hempty, setState_eq]
  exact ⟨rfl, hdeeds, rfl, hcontexts⟩

/-- With an empty slot and an idle key it passes, and nothing happens. -/
theorem afterTest_of_free (hfree : w.context? t.key = none) (hidle : c.state t.key w = .idle) :
    (c.afterTest t w).1 = .ok () ∧ Unmoved w (c.afterTest t w).2 := by
  obtain ⟨hok, hdeeds, hstores, hcontexts⟩ := afterTest_of_empty c hfree
  have hstates : ∀ (d : Controller) key,
      d.state key (c.setState t.key .idle (taken t w)) = d.state key w := by
    intro d key
    have htaken : d.state key (taken t w) = d.state key w := rfl
    by_cases hk : (d.id, key) = (c.id, t.key)
    · obtain ⟨hid, rfl⟩ := Prod.mk.inj hk
      have hsame : ∀ w : World α, d.state t.key w = c.state t.key w := fun w => by
        rw [state, hid, state]
      rw [hsame, hsame, state_setState_self, hidle]
    · rw [state_setState_of_owner_ne hk, htaken]
  rw [afterTest_of_none hfree, setState_eq] at hok hdeeds hstores hcontexts ⊢
  rw [setState_eq] at hstates
  exact ⟨hok, hdeeds, hstores, rfl, rfl, hcontexts, hstates, rfl⟩

end Controller

/-! ### A slot that stays as full or as empty as it is -/

/-- The slot of the key is as full or as empty as before. -/
def SameFill (key : ExecutionKey) (w w' : World α) : Prop :=
  (w'.context? key).isSome = (w.context? key).isSome

namespace SameFill

variable {key : ExecutionKey} {u v w w' : World α}

theorem of_contexts (h : w'.contexts = w.contexts) : SameFill key w w' := by
  rw [SameFill, World.context?, World.context?, h]

theorem trans (h : SameFill key u v) (h' : SameFill key v w) : SameFill key u w :=
  Eq.trans h' h

theorem setContext {j : ExecutionKey} (hj : key ≠ j) (x : Context) (w : World α) :
    SameFill key w (w.setContext j x) := by
  rw [SameFill, World.context?_setContext_of_ne hj]

theorem eq_none (h : SameFill key w w') (hnone : w.context? key = none) :
    w'.context? key = none := by
  rw [SameFill, hnone] at h
  exact Option.isNone_iff_eq_none.1 (Option.isSome_eq_false_iff.1 h)

end SameFill

/-- The slot of the key is as full or as empty as before, and what had happened is not undone. -/
structure KeepsSlot (key : ExecutionKey) (w w' : World α) : Prop where
  fill : SameFill key w w'
  appends : Appends w w'

theorem frame_keepsSlot (key : ExecutionKey) :
    World.Frame (KeepsSlot key : World α → World α → Prop) where
  refl w := ⟨rfl, frame_appends.refl w⟩
  trans h h' := ⟨h.fill.trans h'.fill, frame_appends.trans h.appends h'.appends⟩
  quiet q := ⟨.of_contexts q.contexts, frame_appends.quiet q⟩
  invoked j hook r w := ⟨rfl, frame_appends.invoked j hook r w⟩

namespace Controller

section

variable {t : TestRun α} {key : ExecutionKey} (ht : t.subject.Within (KeepsSlot key))
  (hkey : key ≠ t.key)
include ht hkey

theorem sameFill_setUp (c : Controller) (m : Manager) (a : Attribute) (w : World α) :
    SameFill key w (c.setUp t m a w).2 := by
  have hrun : ∀ {r w₁}, c.runner.runBefore t w = (r, w₁) → SameFill key w w₁ := by
    intro r w₁ hooks
    have hkeeps := HookRunner.runBefore_within (frame_keepsSlot key) ht c.runner w
    rw [hooks] at hkeeps
    exact hkeeps.fill
  have hexit := c.setUp_exit t m a w
  generalize c.setUp t m a w = out at hexit
  cases hexit with
  | hookFailed hooks => exact hrun hooks
  | beginFailed hooks =>
    exact (hrun hooks).trans (.of_contexts (c.quiet_isRollback t _).contexts)
  | @rejected w₁ hooks =>
    refine ((hrun hooks).trans (.of_contexts (c.quiet_isRollback t w₁).contexts)).trans ?_
    exact .of_contexts (sameSlots_rollBackUnpublished ..).contexts
  | @published w₁ hooks =>
    have hbegun : SameFill key w₁ ((c.freshContext t m a w₁).begunWorld (c.isRollback t w₁).2) :=
      .of_contexts (c.quiet_isRollback t w₁).contexts
    exact ((hrun hooks).trans hbegun).trans (SameFill.setContext hkey _ _)

/-- A before-test phase fills or empties no slot but its own. -/
theorem sameFill_beforeTest (c : Controller) (w : World α) :
    SameFill key w (c.beforeTest t w).2 := by
  rcases c.beforeTest_cases t w with hq | ⟨m, a, w₁, hq, -, -, he⟩
  · exact .of_contexts hq.contexts
  · have hmove : ∀ event (w : World α), SameFill key w (c.transition t.key event w).2 :=
      fun event w => .of_contexts (c.contexts_transition t.key event w)
    rw [he]
    refine (SameFill.of_contexts hq.contexts).trans ?_
    rcases c.enter_snd t m a w₁ with h | ⟨event, h⟩ <;> rw [h]
    · exact hmove _ _
    · exact ((hmove _ _).trans (sameFill_setUp ht hkey c m a _)).trans (hmove event _)

/-- Nor does an after-test phase. -/
theorem sameFill_afterTest (c : Controller) (w : World α) :
    SameFill key w (c.afterTest t w).2 := by
  have htaken : SameFill key w (taken t w) := by
    rw [SameFill, World.context?, taken, Table.find?_erase_of_ne hkey]
    rfl
  cases hx : w.context? t.key with
  | none =>
    rw [afterTest_of_none hx, setState_eq]
    exact htaken
  | some x =>
    have hended : SameFill key w (finishTaken t x (taken t w)).2 :=
      htaken.trans (.of_contexts (sameSlots_finishTaken t x (taken t w)).contexts)
    have hrun := HookRunner.runAfter_within (frame_keepsSlot key) ht c.runner
      (finishTaken t x (taken t w)).2
    rw [afterTest_of_some hx]
    refine (hended.trans hrun.fill).trans (.of_contexts ?_)
    exact (quiet_settle ..).contexts.trans (c.contexts_transition t.key .testFinished _)

end

end Controller

/-! ### Tests that open a transaction -/

/-- Between the two worlds the test has begun a transaction, the last one to begin, and the context
that holds it is published. -/
def TestRun.Published (t : TestRun α) (w w' : World α) : Prop :=
  ∃ x status earlier, w'.context? t.key = some x ∧ x.testName = t.name ∧ x.status = some status ∧
    w'.beginnings = earlier ++ [(x.manager, status)] ∧ w.beginnings <+: earlier

namespace Controller

variable {c : Controller} {t : TestRun α} {m : Manager} {a : Attribute} {w : World α}

/-- The before-test phase of the test opens a transaction and publishes its context. -/
def Publishes (c : Controller) (t : TestRun α) (w : World α) : Prop :=
  t.Published w (c.beforeTest t w).2

theorem beginnings_transition (c : Controller) (key : ExecutionKey) (event : LifecycleEvent)
    (w : World α) : (c.transition key event w).2.beginnings = w.beginnings :=
  transition_within (.keeping World.beginnings World.Quiet.beginnings fun _ _ _ _ =>
    (World.beginnings_record _ _).trans (List.append_nil _)) (fun _ _ => rfl) c key event w

section

variable (ht : t.subject.Within (KeepsSlot t.key)) (hfree : w.context? t.key = none)
include ht hfree

/-- A set-up on a free slot publishes its context, or leaves the slot free. -/
theorem published_or_free_setUp (c : Controller) (m : Manager) (a : Attribute) :
    t.Published w (c.setUp t m a w).2 ∨ (c.setUp t m a w).2.context? t.key = none := by
  have hkeeps := HookRunner.runBefore_within (frame_keepsSlot t.key) ht c.runner w
  -- what the hooks leave is free as well, so that no context is ever rejected
  have hslot : (c.runner.runBefore t w).2.context? t.key = none := hkeeps.fill.eq_none hfree
  have hbegun : w.beginnings <+: (c.runner.runBefore t w).2.beginnings :=
    List.IsPrefix.filterMap _ hkeeps.appends
  have hexit := c.setUp_exit t m a w
  generalize c.setUp t m a w = out at hexit
  cases hexit with
  | hookFailed hooks =>
    rw [hooks] at hslot
    exact .inr hslot
  | beginFailed hooks =>
    rw [hooks] at hslot
    exact .inr (((c.quiet_isRollback t _).context? t.key).trans hslot)
  | rejected hooks taken =>
    rw [hooks] at hslot
    rw [hslot] at taken
    cases taken
  | @published w₁ hooks =>
    rw [hooks] at hbegun
    have hq := c.quiet_isRollback t w₁
    refine .inl ⟨_, _, w₁.beginnings, World.context?_setContext_self .., rfl, rfl, ?_, hbegun⟩
    have hopening : ((c.freshContext t m a w₁).begunWorld (c.isRollback t w₁).2).beginnings =
        (c.isRollback t w₁).2.beginnings ++ [(m, (c.isRollback t w₁).2.nextHandle a)] :=
      (Context.quiet_begunWorld ..).beginnings.trans (World.beginnings_opening ..)
    exact hopening.trans (by rw [hq.beginnings]; rfl)

/-- So does a before-test phase. -/
theorem publishes_or_free (c : Controller) :
    c.Publishes t w ∨ (c.beforeTest t w).2.context? t.key = none := by
  have hmove : ∀ event (w : World α),
      (c.transition t.key event w).2.context? t.key = w.context? t.key :=
    fun event w => congrArg (Table.find? t.key) (c.contexts_transition t.key event w)
  unfold Publishes
  rcases c.beforeTest_cases t w with hq | ⟨m, a, w₁, hq, -, -, he⟩
  · exact .inr ((hq.context? t.key).trans hfree)
  · have hfree₁ : (c.transition t.key .transactionRequested w₁).2.context? t.key = none :=
      (hmove _ _).trans ((hq.context? t.key).trans hfree)
    rw [he]
    rcases c.enter_snd t m a w₁ with h | ⟨event, h⟩ <;> rw [h]
    · exact .inr hfree₁
    · rcases published_or_free_setUp ht hfree₁ c m a with
        ⟨x, status, earlier, hx, hname, hstatus, hbegun, hprefix⟩ | hnone
      · rw [beginnings_transition, hq.beginnings] at hprefix
        exact .inl ⟨x, status, earlier, (hmove _ _).trans hx, hname, hstatus,
          (c.beginnings_transition ..).trans hbegun, hprefix⟩
      · exact .inr ((hmove _ _).trans hnone)

end

/-- The after-test phase ends the transaction of the context in its slot, if it is active, and calls
every after-hook of the test, in discovery order and each once. -/
def RunsAfterHooks (c : Controller) (t : TestRun α) (w : World α) : Prop :=
  ∃ x, w.context? t.key = some x ∧ ∃ calls : List (HookCall α),
    calls.map HookCall.hook = (c.runner.hooksFor t.cls .afterTransaction w).1 ∧
    (c.Recalls w → calls.map HookCall.hook = t.cls.discover .afterTransaction) ∧
    (∀ y ∈ calls, y.IsOf t.subject) ∧
    (c.afterTest t w).2.deeds = w.deeds ++ ((x.due? w).map Ending.occurrence).toList ++
      calls.flatMap (HookCall.deeds t.key)

/-- It does so just when there is a context. -/
theorem runsAfterHooks_of_some (ht : t.subject.Within Appends) {x : Context}
    (hx : w.context? t.key = some x) : c.RunsAfterHooks t w := by
  have hhooks := c.afterCalls_map_hook t x w
  exact ⟨x, hx, c.afterCalls t x w, hhooks, fun h => hhooks.trans (h.hooksFor_fst ..),
    fun y hy => HookRunner.isOf_of_mem_calls hy, deeds_afterTest ht hx⟩

end Controller

/-! ### Operations in between -/

theorem InTest.sameFill_withContext {ρ : Type} {j : ExecutionKey}
    {f : Context → World α → Except LifecycleError ρ × Context × World α}
    (hf : ∀ x w, (f x w).2.2.contexts = w.contexts) (key : ExecutionKey) (w : World α) :
    SameFill key w (withContext j f w).2 := by
  cases hx : w.context? j with
  | none =>
    rw [withContext_of_none hx]
    rfl
  | some x =>
    rw [withContext_of_some hx]
    by_cases hkey : key = j
    · subst hkey
      rw [SameFill, World.context?_setContext_self, hx]
      rfl
    · exact (SameFill.of_contexts (hf x w)).trans (SameFill.setContext hkey _ _)

/-- The body of a test fills and empties no slot. -/
theorem BodyStep.sameFill_run (key j : ExecutionKey) (step : BodyStep) (w : World α) :
    SameFill key w (step.run j w).2 := by
  cases step with
  | isActive | failNextBegin | failNextFinish => rfl
  | isFlaggedForRollback => exact InTest.sameFill_withContext (fun _ _ => rfl) key w
  | flagForRollback | flagForCommit =>
    refine InTest.sameFill_withContext (fun x w => ?_) key w
    split <;> rfl
  | finish =>
    exact InTest.sameFill_withContext (fun x w => (x.sameSlots_finish w).contexts) key w
  | start => exact InTest.sameFill_withContext (fun x w => (x.sameSlots_start w).contexts) key w
  | write k v =>
    simp only [run, World.writeCurrent]
    split
    · rfl
    · split <;> rfl

namespace Operation

variable {ι : Type} {controllers : ι → Controller} {key : ExecutionKey}

/-- The operation is a phase of a test on the key. -/
def IsPhaseOn {R : World α → World α → Prop} (key : ExecutionKey) : Operation ι R → Prop
  | before _ t | after _ t => t.key = key
  | _ => False

theorem sameFill_run {op : Operation ι (KeepsSlot key : World α → World α → Prop)}
    (h : ¬ op.IsPhaseOn key) (w : World α) : SameFill key w (op.run controllers w).2 := by
  cases op with
  | before i t => exact Controller.sameFill_beforeTest t.within (Ne.symm h) (controllers i) w
  | after i t => exact Controller.sameFill_afterTest t.within (Ne.symm h) (controllers i) w
  | body j step => exact step.sameFill_run key j w
  | register r =>
    simp only [run, World.register]
    split <;> rfl
  | stage | addSelector => rfl

/-- Between the phases of a test its slot stays as full or as empty as it is. -/
theorem sameFill_runAll {ops : List (Operation ι (KeepsSlot key : World α → World α → Prop))}
    (h : ∀ op ∈ ops, ¬ op.IsPhaseOn key) (w : World α) :
    SameFill key w (runAll controllers ops w) := by
  induction ops generalizing w with
  | nil => rfl
  | cons op ops ih =>
    have hlater : ∀ op ∈ ops, ¬ op.IsPhaseOn key := fun op hop => h op (List.mem_cons_of_mem _ hop)
    exact (sameFill_run (h op List.mem_cons_self) w).trans (ih hlater _)

/-- **No side effect without a transaction, and hooks come in pairs.**  On a free key, a before-test
phase calls a hook or a manager only if an intent is declared that does not opt out and a manager
is found.  A test that runs without a transaction passes both phases, and nothing happens.  And
whatever goes on in between, but for phases on the same key, the after-test phase runs the
after-hooks just when the before-test phase has opened and published a transaction, as long as
hooks leave the slot of the key as full or as empty as they find it. -/
theorem hooks_paired (controllers : ι → Controller) (i : ι) (t : TestRun α) {w : World α}
    (hfree : w.context? t.key = none) (hidle : (controllers i).state t.key w = .idle) :
    let c := controllers i
    let opened := (c.beforeTest t w).2
    (w.Quiet opened ∨ t.Declares ∧ ∃ a m, t.intent? = some a ∧
        a.propagation ≠ .notSupported ∧ (c.managerFor t a w).1 = .ok (some m)) ∧
      (c.Exempt t w → (c.beforeTest t w).1 = .ok () ∧ Unmoved w opened ∧
        ∀ w', w'.context? t.key = none → c.state t.key w' = .idle →
          (c.afterTest t w').1 = .ok () ∧ Unmoved w' (c.afterTest t w').2) ∧
      (t.subject.Within (KeepsSlot t.key) →
        ∀ ops : List (Operation ι (KeepsSlot t.key : World α → World α → Prop)),
          (∀ op ∈ ops, ¬ op.IsPhaseOn t.key) →
          let w' := runAll controllers ops opened
          (c.Publishes t w → c.RunsAfterHooks t w') ∧
            (¬ c.Publishes t w → (c.afterTest t w').1 = .ok () ∧
              (c.afterTest t w').2.deeds = w'.deeds ∧ (c.afterTest t w').2.stores = w'.stores ∧
              (c.afterTest t w').2.contexts = w'.contexts)) := by
  intro c opened
  refine ⟨c.beforeTest_acts t w, fun hexempt => ?_, fun ht ops hops => ?_⟩
  · obtain ⟨hok, hquiet⟩ := Controller.beforeTest_of_exempt hexempt hfree hidle
    exact ⟨hok, hquiet.unmoved, fun w' hfree' hidle' => Controller.afterTest_of_free hfree' hidle'⟩
  · intro w'
    -- of the before-test phase the after-test phase knows no more than the slot
    have hfill : SameFill t.key opened w' := sameFill_runAll hops opened
    refine ⟨fun hpublishes => ?_, fun hnot => ?_⟩
    · obtain ⟨x, _, _, hx, -⟩ := hpublishes
      rw [SameFill, show opened.context? t.key = some x from hx] at hfill
      obtain ⟨y, hy⟩ := Option.isSome_iff_exists.1 hfill
      exact Controller.runsAfterHooks_of_some (ht.mono fun _ _ h => h.appends) hy
    · have hempty : opened.context? t.key = none :=
        (Controller.publishes_or_free ht hfree c).resolve_left hnot
      exact c.afterTest_of_empty (hfill.eq_none hempty)

/-- A test with two after-hooks, of which only one has a body. -/
theorem hooks_paired_audited :
    let t := Sample.auditedTest fun w => (.ok (), w)
    let ops : List (Operation Bool (KeepsSlot t.key)) :=
      [.body t.key .finish, .before true ⟨{ Sample.quietTest with key := .thread 1 },
        Sample.run_within (frame_keepsSlot _).refl (frame_keepsSlot _).refl⟩]
    let w := runAll Sample.pair ops ((Sample.pair false).beforeTest t Sample.start).2
    (t.cls.discover .afterTransaction).length = 2 ∧ (Sample.pair false).RunsAfterHooks t w := by
  intro t ops w
  have ht : t.subject.Within (KeepsSlot t.key) :=
    Bindings.subject_within (frame_keepsSlot t.key).refl fun e he w => by
      rw [List.mem_singleton.1 he]
      exact (frame_keepsSlot t.key).refl w
  have hpublishes : (Sample.pair false).Publishes t Sample.start := by
    refine (Controller.publishes_or_free ht rfl _).resolve_right fun hempty => ?_
    have hfull : (((Sample.pair false).beforeTest t Sample.start).2.context? t.key).isSome =
        true := by decide +kernel
    rw [hempty] at hfull
    cases hfull
  have hops : ∀ op ∈ ops, ¬ op.IsPhaseOn t.key := by
    intro op hop
    rcases List.mem_pair.1 hop with rfl | rfl
    · exact id
    · intro h
      cases h
  obtain ⟨-, -, hpair⟩ := hooks_paired Sample.pair false t (w := Sample.start) rfl rfl
  exact ⟨by decide +kernel, (hpair ht ops hops).1 hpublishes⟩

end Operation

namespace Sample

/-- A class with a hook on either side. -/
def bracketed : TestClass where
  id := 2
  leaf := {
    name := "BracketedTest"
    transactional := some {}
    methods := [prepare, review, transfer] }

/-- A context of another test, which has not begun a transaction. -/
def rival : Context := ⟨"Rival.test", accounts, {}, true, none, 0⟩

/-- Its test.  The first hook publishes the other context in the slot of the test. -/
def rivalTest : TestRun Unit where
  cls := bracketed
  method := transfer
  subject := Bindings.subject [
    (("BracketedTest", prepare.signature), fun w => (.ok (), (w.publish (.thread 0) rival).2)),
    (("BracketedTest", review.signature), fun w => (.ok (), w))]
  key := .thread 0

end Sample

/-- A call of the method came back. -/
def Occurrence.isCallOf (method : Method) : Occurrence → Bool
  | .invoked _ hook _ => hook.signature == method.signature
  | _ => false

namespace Operation

/-- A hook fills the slot of its own test: the before-test phase is refused and takes its own
transaction back, and the after-test phase calls the after-hook all the same. -/
theorem afterHooks_of_rival :
    let c := Sample.controller
    let t := Sample.rivalTest
    let opened := (c.beforeTest t Sample.start).2
    let since := (c.afterTest t opened).2.deeds.drop opened.deeds.length
    Sample.start.context? t.key = none ∧ c.state t.key Sample.start = .idle ∧
      ¬ (c.Publishes t Sample.start ↔ since.any (·.isCallOf Sample.review) = true) := by
  intro c t opened since
  have hslot : opened.context? t.key = some Sample.rival := by decide +kernel
  -- the context in the slot has never begun a transaction
  have hnot : ¬ c.Publishes t Sample.start := by
    rintro ⟨x, status, -, hx, -, hstatus, -⟩
    cases hslot.symm.trans hx
    cases hstatus
  exact ⟨rfl, rfl, fun h => hnot (h.2 (by decide +kernel))⟩

end Operation

end TransactionalTest
