import TransactionalTest.Proofs.Run

/-!
# The intent of a test

A before-test phase puts the intent of its test into a context, and the context keeps it: whatever
the body of the test starts later on, it starts with the same intent.

* `BeginsWith` : all begins since were asked for with one intent;
* `World.Bears` : the slot of a key holds no context of another intent;
* `BodyStep.beginsWith_run` : then a body on the key begins with this intent only;
* `Operation.bears_run`, `Operation.bears_runAll` : and it stays so, unless another test is started
  on the key.
-/

namespace TransactionalTest

variable {α : Type}

/-! ### Begins with one intent -/

/-- Every begin that a manager has been asked for since was asked with this intent; with none there
has been no begin. -/
def BeginsWith (intent : Option Attribute) (w w' : World α) : Prop :=
  ∃ os, w'.chronicle = w.chronicle ++ os ∧ ∀ m a r, Occurrence.begun m a r ∈ os → intent = some a

namespace BeginsWith

variable {intent : Option Attribute} {u v w w' : World α}

theorem of_chronicle (h : w'.chronicle = w.chronicle) : BeginsWith intent w w' :=
  ⟨[], h.trans (List.append_nil _).symm, fun _ _ _ hmem => absurd hmem List.not_mem_nil⟩

theorem trans (h : BeginsWith intent u v) (h' : BeginsWith intent v w) :
    BeginsWith intent u w := by
  obtain ⟨os, hos, hb⟩ := h
  obtain ⟨os', hos', hb'⟩ := h'
  refine ⟨os ++ os', by rw [hos', hos, List.append_assoc], fun m a r hmem => ?_⟩
  exact (List.mem_append.1 hmem).elim (hb m a r) (hb' m a r)

theorem record {o : Occurrence} (h : ∀ m a r, o = .begun m a r → intent = some a) (w : World α) :
    BeginsWith intent w (w.record o) :=
  ⟨[o], rfl, fun m a r hmem => h m a r (List.mem_singleton.1 hmem).symm⟩

theorem quiet (q : w.Quiet w') : BeginsWith intent w w' := by
  obtain ⟨es, he⟩ := q.chronicle
  refine ⟨es.map .reported, he, fun m a r hmem => ?_⟩
  obtain ⟨e, -, he⟩ := List.mem_map.1 hmem
  cases he

end BeginsWith

/-- The context in the slot of the key has this intent; with none the slot is empty. -/
def World.Bears (key : ExecutionKey) (intent : Option Attribute) (w : World α) : Prop :=
  ∀ x, w.context? key = some x → intent = some x.intent

/-- The slot of the key does not come to hold a context of another intent. -/
def KeepsIntent (key : ExecutionKey) (intent : Option Attribute) (w w' : World α) : Prop :=
  w.Bears key intent → w'.Bears key intent

section

variable {key : ExecutionKey} {intent : Option Attribute} {w w' : World α}

namespace World.Bears

theorem of_none (h : w.context? key = none) : w.Bears key intent := by
  intro x hx
  cases h.symm.trans hx

theorem congr (h : w.Bears key intent) (hc : w'.contexts = w.contexts) : w'.Bears key intent := by
  intro x hx
  rw [context?, hc] at hx
  exact h x hx

theorem setContext (h : w.Bears key intent) {j : ExecutionKey} {x : Context}
    (hx : j = key → intent = some x.intent) : (w.setContext j x).Bears key intent := by
  intro y hy
  by_cases hj : key = j
  · subst hj
    rw [context?_setContext_self] at hy
    exact Option.some.inj hy ▸ hx rfl
  · rw [context?_setContext_of_ne hj] at hy
    exact h y hy

theorem taken (h : w.Bears key intent) (t : TestRun α) :
    (Controller.taken t w).Bears key intent := by
  intro y hy
  by_cases hj : key = t.key
  · subst hj
    cases (Table.find?_erase_self ..).symm.trans hy
  · exact h y ((Table.find?_erase_of_ne hj _).symm.trans hy)

end World.Bears

theorem frame_keepsIntent (key : ExecutionKey) (intent : Option Attribute) :
    World.Frame (KeepsIntent key intent : World α → World α → Prop) where
  refl _ h := h
  trans h h' hw := h' (h hw)
  quiet q h := h.congr q.contexts
  invoked _ _ _ _ h := h.congr rfl

/-! ### Steps of a body -/

namespace Context

theorem intent_start (x : Context) (w : World α) : (x.start w).2.1.intent = x.intent := by
  unfold start
  split
  · rfl
  · split <;> rfl

theorem intent_finish (x : Context) (w : World α) : (x.finish w).2.1.intent = x.intent := by
  unfold finish
  split
  · rfl
  · simp only
    split <;> rfl

/-- A context starts a transaction with its own intent. -/
theorem beginsWith_start (x : Context) (w : World α) :
    BeginsWith (some x.intent) w (x.start w).2.2 := by
  cases hs : x.status with
  | some status =>
    rw [start_of_some hs]
    exact .of_chronicle rfl
  | none =>
    rcases start_cases hs w with ⟨reason, h⟩ | h <;> rw [h]
    · exact .record (by rintro m a r ⟨⟩; rfl) _
    · refine .trans ?_ (.quiet (x.quiet_begunWorld w))
      exact .record (by rintro m a r ⟨⟩; rfl) _

theorem beginsWith_finish (x : Context) (w : World α) :
    BeginsWith intent w (x.finish w).2.2 := by
  cases hs : x.status with
  | none =>
    rw [finish_of_none hs]
    exact .of_chronicle rfl
  | some status =>
    obtain ⟨w', hq, h⟩ := finish_of_some hs w
    rw [h]
    have hending : BeginsWith intent w (x.ending status w).2 :=
      .trans (.quiet (World.Quiet.report _ w)) (.record (by rintro m a r ⟨⟩) _)
    exact hending.trans (.quiet hq)

end Context

/-- Work on a published context. -/
theorem InTest.bears_withContext {ρ : Type} {j : ExecutionKey}
    {f : Context → World α → Except LifecycleError ρ × Context × World α}
    (hf : ∀ x w, SameSlots w (f x w).2.2 ∧ (f x w).2.1.intent = x.intent)
    (h : w.Bears key intent) : (withContext j f w).2.Bears key intent := by
  cases hx : w.context? j with
  | none =>
    rw [withContext_of_none hx]
    exact h
  | some x =>
    obtain ⟨hslots, hintent⟩ := hf x w
    rw [withContext_of_some hx]
    refine (h.congr hslots.contexts).setContext fun hj => ?_
    rw [hintent]
    exact h x (hj ▸ hx)

theorem InTest.beginsWith_withContext {ρ : Type}
    {f : Context → World α → Except LifecycleError ρ × Context × World α}
    (hf : ∀ x w, intent = some x.intent → BeginsWith intent w (f x w).2.2)
    (h : w.Bears key intent) : BeginsWith intent w (withContext key f w).2 := by
  cases hx : w.context? key with
  | none =>
    rw [withContext_of_none hx]
    exact .of_chronicle rfl
  | some x =>
    rw [withContext_of_some hx]
    exact (hf x w (h x hx)).trans (.of_chronicle rfl)

namespace BodyStep

/-- No step of a body puts a context of another intent into a slot. -/
theorem bears_run (h : w.Bears key intent) (j : ExecutionKey) (step : BodyStep) :
    (step.run j w).2.Bears key intent := by
  cases step with
  | isActive => exact h
  | isFlaggedForRollback => exact InTest.bears_withContext (fun x w => ⟨.refl w, rfl⟩) h
  | flagForRollback | flagForCommit =>
    refine InTest.bears_withContext (fun x w => ?_) h
    split <;> exact ⟨.refl w, rfl⟩
  | finish =>
    exact InTest.bears_withContext (fun x w => ⟨x.sameSlots_finish w, x.intent_finish w⟩) h
  | start =>
    exact InTest.bears_withContext (fun x w => ⟨x.sameSlots_start w, x.intent_start w⟩) h
  | write k v =>
    simp only [run, World.writeCurrent]
    split
    · exact h
    · split <;> exact h.congr rfl
  | failNextBegin m reason | failNextFinish m reason => exact h.congr rfl

/-- A step of a body begins a transaction with the intent of the context in its slot, if at all. -/
theorem beginsWith_run (h : w.Bears key intent) (step : BodyStep) :
    BeginsWith intent w (step.run key w).2 := by
  cases step with
  | isActive => exact .of_chronicle rfl
  | isFlaggedForRollback =>
    exact InTest.beginsWith_withContext (fun _ _ _ => .of_chronicle rfl) h
  | flagForRollback | flagForCommit =>
    refine InTest.beginsWith_withContext (fun x w _ => ?_) h
    split <;> exact .of_chronicle rfl
  | finish => exact InTest.beginsWith_withContext (fun x w _ => x.beginsWith_finish w) h
  | start =>
    exact InTest.beginsWith_withContext (fun x w hx => hx ▸ x.beginsWith_start w) h
  | write k v =>
    simp only [run, World.writeCurrent]
    split
    · exact .of_chronicle rfl
    · split <;> exact .of_chronicle rfl
  | failNextBegin m reason | failNextFinish m reason => exact .of_chronicle rfl

end BodyStep

/-! ### The phases of a test -/

namespace Controller

variable {t : TestRun α}

theorem bears_setUp (ht : t.subject.Within (KeepsIntent key intent))
    {a : Attribute} (ha : t.key = key → intent = some a) (h : w.Bears key intent)
    (c : Controller) (m : Manager) : (c.setUp t m a w).2.Bears key intent := by
  have hrun := HookRunner.runBefore_within (frame_keepsIntent key intent) ht c.runner w h
  have hexit := c.setUp_exit t m a w
  generalize c.setUp t m a w = out at hexit
  cases hexit with
  | hookFailed hooks =>
    rw [hooks] at hrun
    exact hrun
  | @beginFailed w₁ reason hooks =>
    rw [hooks] at hrun
    exact hrun.congr (c.quiet_isRollback t w₁).contexts
  | @rejected w₁ hooks =>
    rw [hooks] at hrun
    refine hrun.congr ((sameSlots_rollBackUnpublished ..).contexts.trans ?_)
    exact (c.quiet_isRollback t w₁).contexts
  | @published w₁ hooks =>
    rw [hooks] at hrun
    exact (hrun.congr (c.quiet_isRollback t w₁).contexts).setContext ha

/-- A before-test phase publishes a context with the intent of its own test. -/
theorem bears_beforeTest (ht : t.subject.Within (KeepsIntent key intent))
    (hown : t.key = key → t.intent? = intent) (h : w.Bears key intent) (c : Controller) :
    (c.beforeTest t w).2.Bears key intent := by
  have hexit := c.beforeTest_exit t w
  generalize c.beforeTest t w = out at hexit
  cases hexit with
  | busy _ quiet => exact h.congr quiet.contexts
  | undeclared _ _ quiet => exact h.congr quiet.contexts
  | optedOut _ _ _ quiet => exact h.congr quiet.contexts
  | lookupFailed _ _ _ lookup => exact h.congr (quiet_of_managerFor lookup).contexts
  | notFound _ _ _ lookup => exact h.congr (quiet_of_managerFor lookup).contexts
  | unmanaged _ _ _ lookup _ quiet =>
    exact h.congr ((quiet_of_managerFor lookup).trans quiet).contexts
  | @entered a m w₁ _ declared _ lookup =>
    have hasked := h.congr (quiet_of_managerFor lookup).contexts
    have hrequested : (c.transition t.key .transactionRequested w₁).2.Bears key intent :=
      hasked.congr (c.contexts_transition ..)
    rcases c.enter_snd t m a w₁ with he | ⟨event, he⟩ <;> rw [he]
    · exact hrequested
    · have hset := bears_setUp ht (fun hk => (hown hk).symm.trans declared) hrequested c m
      exact hset.congr (c.contexts_transition ..)

/-- An after-test phase publishes none. -/
theorem bears_afterTest (ht : t.subject.Within (KeepsIntent key intent)) (h : w.Bears key intent)
    (c : Controller) : (c.afterTest t w).2.Bears key intent := by
  have htaken := h.taken t
  cases hx : w.context? t.key with
  | none =>
    rw [afterTest_of_none hx, setState_eq]
    exact htaken.congr rfl
  | some x =>
    have hended := htaken.congr (sameSlots_finishTaken t x (taken t w)).contexts
    have hrun := HookRunner.runAfter_within (frame_keepsIntent key intent) ht c.runner _ hended
    rw [afterTest_of_some hx]
    exact hrun.congr ((quiet_settle ..).contexts.trans (c.contexts_transition ..))

end Controller

/-! ### Runs -/

namespace Operation

variable {ι : Type} {controllers : ι → Controller}

/-- One operation of a run. -/
theorem bears_run (op : Operation ι (@KeepsIntent α key intent))
    (hown : ∀ i t, op = .before i t → t.key = key → t.intent? = intent)
    (h : w.Bears key intent) : (op.run controllers w).2.Bears key intent := by
  cases op with
  | before i t => exact Controller.bears_beforeTest t.within (hown i t rfl) h _
  | after i t => exact Controller.bears_afterTest t.within h _
  | body j step => exact BodyStep.bears_run h j step
  | stage m status k v => exact h.congr rfl
  | register r =>
    simp only [run, World.register]
    split <;> exact h.congr rfl
  | addSelector m => exact h.congr rfl

/-- **While no other test is started on a key, its slot holds no context of another intent.** -/
theorem bears_runAll (ops : List (Operation ι (@KeepsIntent α key intent)))
    (hown : ∀ i t, .before i t ∈ ops → t.key = key → t.intent? = intent)
    (h : w.Bears key intent) : (runAll controllers ops w).Bears key intent := by
  induction ops generalizing w with
  | nil => exact h
  | cons op ops ih =>
    refine ih (fun i t ht => hown i t (List.mem_cons_of_mem _ ht)) (bears_run op ?_ h)
    rintro i t rfl
    exact hown i t List.mem_cons_self

end Operation

end

end TransactionalTest
