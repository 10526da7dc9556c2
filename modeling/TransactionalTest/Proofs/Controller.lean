import TransactionalTest.Controller
import TransactionalTest.Proofs.Context
import TransactionalTest.Proofs.Hooks

/-!
# The lifecycle controller, exit by exit

* `Controller.transition_of_next` : a legal event moves the key on;
* `Controller.setUp_exit` : how the set-up of a transaction can end;
* `Controller.beforeTest_exit`, `Controller.beforeTest_cases` : how the before-test phase can end;
* `Controller.afterTest_of_none`, `Controller.afterTest_of_some` : what the after-test phase does.

Everything about the two phases is derived from these; no later proof unfolds them.
-/

namespace TransactionalTest

variable {α : Type}

/-! ### Bookkeeping -/

theorem ConfigurationResolver.quiet_resolve (r : ConfigurationResolver) (c : TestClass)
    (w : World α) : w.Quiet (r.resolve c w).2 := by
  unfold resolve
  split
  · exact .refl w
  · rename_i h
    refine ((World.Quiet.report _ w).trans (.report _ _)).trans (.configurationCache ?_ _)
    exact h

/-- What has been resolved is remembered. -/
theorem ConfigurationResolver.configured_resolve (r : ConfigurationResolver) (c : TestClass)
    (w : World α) :
    (r.resolve c w).2.configurationCache.find? (r.owner, c) = some (r.resolve c w).1 := by
  unfold resolve
  split
  · assumption
  · exact Table.find?_insert_self ..

theorem ConfigurationResolver.resolve_of_configured {r : ConfigurationResolver} {c : TestClass}
    {w : World α} {a : ConfigurationAttributes}
    (h : w.configurationCache.find? (r.owner, c) = some a) : r.resolve c w = (a, w) := by
  rw [resolve, h]

theorem ConfigurationResolver.resolve_fst_congr (r : ConfigurationResolver) (c : TestClass)
    {w w' : World α} (h : w'.configurationCache = w.configurationCache) :
    (r.resolve c w').1 = (r.resolve c w).1 := by
  unfold resolve
  rw [h]
  split <;> rfl

theorem World.quiet_managerByName (name : String) (w : World α) :
    w.Quiet (w.managerByName name).2 := by
  unfold managerByName
  simp only
  split
  · exact .report _ w
  · exact .refl w

theorem World.quiet_lookup (strict : Bool) (test : String) (qualifier : Option String)
    (name : String) (w : World α) : w.Quiet (w.lookup strict test qualifier name).2 := by
  have hn := w.quiet_managerByName name
  unfold lookup
  split
  · split
    · exact .refl w
    · exact .report _ w
  · split <;> rename_i h <;> rw [h] at hn
    · exact hn
    · exact hn
    · split
      · exact hn
      · exact hn.trans (.report _ _)

/-- The look-up of a manager goes by the registry alone. -/
theorem World.lookup_fst_congr (strict : Bool) (test : String) (qualifier : Option String)
    (name : String) {w w' : World α} (h : w.registry = w'.registry) :
    (w.lookup strict test qualifier name).1 = (w'.lookup strict test qualifier name).1 := by
  simp only [lookup, managerByName, h]
  cases qualifier.filter fun q => !Blank.isBlankText q with
  | some q => cases hq : w'.registry.byQualifier q <;> simp only [hq]
  | none =>
    cases w'.registry.byName name with
    | ok m => rfl
    | error e => cases e <;> cases strict <;> rfl

namespace Controller

variable {c : Controller} {t : TestRun α} {m : Manager} {a : Attribute} {w : World α}

theorem quiet_isRollback (c : Controller) (t : TestRun α) (w : World α) :
    w.Quiet (c.isRollback t w).2 :=
  (c.resolver.quiet_resolve t.cls w).trans (.report _ _)

theorem quiet_transactionManager (c : Controller) (t : TestRun α) (qualifier : Option String)
    (w : World α) : w.Quiet (c.transactionManager t qualifier w).2 :=
  (c.resolver.quiet_resolve t.cls w).trans (World.quiet_lookup ..)

/-! ### Transitions -/

theorem setState_eq (c : Controller) (key : ExecutionKey) (s : LifecycleState) (w : World α) :
    c.setState key s w = { w with states := (c.setState key s w).states } := by
  unfold setState
  split <;> rfl

/-- A legal event moves the key on. -/
theorem transition_of_next {key : ExecutionKey} {event : LifecycleEvent}
    {source target : LifecycleState} (hs : c.state key w = source)
    (h : source.next? event = some target) :
    c.transition key event w = (.ok target,
      c.setState key target (w.report (.transition key.display source event target))) := by
  simp only [transition, LifecycleState.step, hs, h]

/-- A transition changes nothing but the states, and that only if the event is legal. -/
theorem transition_cases (c : Controller) (key : ExecutionKey) (event : LifecycleEvent)
    (w : World α) :
    (∃ target, (c.state key w).next? event = some target ∧ c.transition key event w = (.ok target,
        c.setState key target (w.report (.transition key.display (c.state key w) event target)))) ∨
      c.transition key event w = (.error (.illegalState (.badTransition (c.state key w) event)),
        w) := by
  cases h : (c.state key w).next? event with
  | some target => exact .inl ⟨target, rfl, transition_of_next rfl h⟩
  | none => exact .inr (by simp only [transition, LifecycleState.step, h])

theorem transition_within {R : World α → World α → Prop} (hR : World.Frame R)
    (hs : ∀ (w : World α) states, R w { w with states := states }) (c : Controller)
    (key : ExecutionKey) (event : LifecycleEvent) (w : World α) :
    R w (c.transition key event w).2 := by
  rcases c.transition_cases key event w with ⟨target, -, h⟩ | h
  · rw [h, setState_eq]
    exact hR.trans (hR.quiet (World.Quiet.report _ w)) (hs _ _)
  · rw [h]
    exact hR.refl w

theorem contexts_transition (c : Controller) (key : ExecutionKey) (event : LifecycleEvent)
    (w : World α) : (c.transition key event w).2.contexts = w.contexts :=
  transition_within (.keeping World.contexts World.Quiet.contexts fun _ _ _ _ => rfl)
    (fun _ _ => rfl) c key event w

theorem stores_transition (c : Controller) (key : ExecutionKey) (event : LifecycleEvent)
    (w : World α) : (c.transition key event w).2.stores = w.stores :=
  transition_within (.keeping World.stores World.Quiet.stores fun _ _ _ _ => rfl)
    (fun _ _ => rfl) c key event w

/-! ### Set-up -/

/-- The context of a test when its before-hooks have passed. -/
def freshContext (c : Controller) (t : TestRun α) (m : Manager) (a : Attribute) (w : World α) :
    Context :=
  { testName := t.name, manager := m, intent := a, flaggedForRollback := (c.isRollback t w).1 }

/-- How the set-up of a test can end. -/
inductive SetUpExit (c : Controller) (t : TestRun α) (m : Manager) (a : Attribute) (w : World α) :
    Except LifecycleError Unit × World α → Prop
  /-- A before-hook fails. -/
  | hookFailed {e : LifecycleError} {w₁ : World α}
      (hooks : c.runner.runBefore t w = (.error e, w₁)) : SetUpExit c t m a w (.error e, w₁)
  /-- The manager refuses to begin. -/
  | beginFailed {w₁ : World α} {reason : String}
      (hooks : c.runner.runBefore t w = (.ok (), w₁)) :
      SetUpExit c t m a w (.error (.transactionStart t.name (.begin reason)),
        (c.isRollback t w₁).2.refusing m a reason)
  /-- A hook has published another context in the meantime. -/
  | rejected {w₁ : World α} (hooks : c.runner.runBefore t w = (.ok (), w₁))
      (taken : (w₁.context? t.key).isSome = true) :
      SetUpExit c t m a w
        (.error (.illegalState (.slotTakenDuringSetUp t.key.display t.name)),
          rollBackUnpublished ((c.freshContext t m a w₁).begun (c.isRollback t w₁).2)
            ((c.freshContext t m a w₁).begunWorld (c.isRollback t w₁).2))
  /-- The context is published. -/
  | published {w₁ : World α} (hooks : c.runner.runBefore t w = (.ok (), w₁))
      (free : w₁.context? t.key = none) :
      SetUpExit c t m a w (.ok (), ((c.freshContext t m a w₁).begunWorld
        (c.isRollback t w₁).2).setContext t.key
          ((c.freshContext t m a w₁).begun (c.isRollback t w₁).2))

theorem context?_begunWorld (x : Context) (key : ExecutionKey) (w : World α) :
    (x.begunWorld w).context? key = w.context? key := rfl

/-- Every set-up ends in one of these ways. -/
theorem setUp_exit (c : Controller) (t : TestRun α) (m : Manager) (a : Attribute) (w : World α) :
    SetUpExit c t m a w (c.setUp t m a w) := by
  unfold setUp openTransaction
  rcases hooks : c.runner.runBefore t w with ⟨_ | _, w₁⟩
  · exact .hookFailed hooks
  · have hq := c.quiet_isRollback t w₁
    have hstart := Context.start_cases (c := c.freshContext t m a w₁) rfl (c.isRollback t w₁).2
    simp only [freshContext] at hstart
    rcases hstart with ⟨reason, h⟩ | h
    · simp only [h]
      exact .beginFailed hooks
    · simp only [h, publish, World.tryPublish, context?_begunWorld, hq.context?]
      cases hc : w₁.context? t.key with
      | some other => exact .rejected hooks (by rw [hc]; rfl)
      | none => exact .published hooks hc

/-- A rejected context with an open transaction is ended with rollback, whatever its flag. -/
theorem quiet_rollBackUnpublished {x : Context} {status : Status} (hs : x.status = some status)
    (hc : status.id ∉ (w.store x.manager).completed) :
    (Context.ending { x with flaggedForRollback := true } status w).2.Quiet
      (rollBackUnpublished x w) := by
  obtain ⟨w', hq, hf⟩ :=
    Context.finish_of_some (c := { x with flaggedForRollback := true }) hs w
  unfold rollBackUnpublished
  rw [if_pos (Context.isActive_of_some hs hc), hf]
  cases (Context.ending { x with flaggedForRollback := true } status w).1 with
  | ok _ => exact hq
  | error e => exact hq.trans (.report _ _)

theorem sameSlots_rollBackUnpublished (x : Context) (w : World α) :
    SameSlots w (rollBackUnpublished x w) := by
  by_cases ha : x.isActive w = true
  · obtain ⟨status, hs, hc⟩ := Context.isActive_iff.1 ha
    exact (Context.sameSlots_ending ..).trans (.quiet (quiet_rollBackUnpublished hs hc))
  · rw [rollBackUnpublished, if_neg ha]
    exact .refl w

theorem states_setUp (c : Controller) (t : TestRun α) (m : Manager) (a : Attribute)
    (w : World α) : (c.setUp t m a w).2.states = (c.runner.runBefore t w).2.states := by
  have h := c.setUp_exit t m a w
  generalize c.setUp t m a w = out at h
  cases h with
  | hookFailed hooks => rw [hooks]
  | beginFailed hooks =>
    rw [hooks]
    exact (c.quiet_isRollback t _).states
  | rejected hooks =>
    rw [hooks, (sameSlots_rollBackUnpublished ..).states]
    exact (c.quiet_isRollback t _).states
  | published hooks =>
    rw [hooks]
    exact (c.quiet_isRollback t _).states

/-- Hooks that leave the state of a key on this controller as it is. -/
def KeepsState (c : Controller) (key : ExecutionKey) (w w' : World α) : Prop :=
  c.state key w' = c.state key w

theorem state_congr {key : ExecutionKey} {w' : World α} (h : w'.states = w.states) :
    c.state key w' = c.state key w := by
  rw [state, h, state]

theorem frame_keepsState (c : Controller) (key : ExecutionKey) :
    World.Frame (c.KeepsState key : World α → World α → Prop) :=
  .keeping (c.state key) (fun q => state_congr q.states) fun _ _ _ _ => rfl

/-- The world in which the set-up of a test starts. -/
def requested (c : Controller) (key : ExecutionKey) (w : World α) : World α :=
  c.setState key .pending
    (w.report (.transition key.display .idle .transactionRequested .pending))

/-- While a test is set up its key is pending, unless a hook moves it on. -/
theorem state_setUp_requested (ht : t.subject.Within (c.KeepsState t.key)) (m : Manager)
    (a : Attribute) (w : World α) :
    c.state t.key (c.setUp t m a (c.requested t.key w)).2 = .pending := by
  rw [state_congr (c.states_setUp t m a _)]
  exact (HookRunner.runBefore_within (c.frame_keepsState t.key) ht c.runner _).trans
    (state_setState_self ..)

theorem transition_requested {key : ExecutionKey} (h : c.state key w = .idle) :
    c.transition key .transactionRequested w = (.ok .pending, c.requested key w) :=
  transition_of_next h rfl

/-- Between idle and active a test is set up: it gets through to active, or goes back to idle
with the error of the set-up. -/
theorem enter_of_idle (hidle : c.state t.key w = .idle)
    (ht : t.subject.Within (c.KeepsState t.key)) (m : Manager) (a : Attribute) :
    (∃ w₁, c.setUp t m a (c.requested t.key w) = (.ok (), w₁) ∧
        c.enter t m a w = (.ok (), c.setState t.key .active (w₁.report
          (.transition t.key.display .pending .transactionStarted .active)))) ∨
      ∃ e w₁, c.setUp t m a (c.requested t.key w) = (.error e, w₁) ∧
        c.enter t m a w = (.error e, c.setState t.key .idle (w₁.report
          (.transition t.key.display .pending (.setupAborted e.message) .idle))) := by
  have hpending := state_setUp_requested ht m a w
  unfold enter
  simp only [transition_requested hidle]
  rcases hset : c.setUp t m a (c.requested t.key w) with ⟨e | _, w₁⟩ <;> rw [hset] at hpending
  · refine .inr ⟨e, w₁, rfl, ?_⟩
    simp only [transition_of_next hpending
      (show LifecycleState.pending.next? (.setupAborted e.message) = some .idle from rfl)]
  · refine .inl ⟨w₁, rfl, ?_⟩
    simp only [transition_of_next hpending
      (show LifecycleState.pending.next? .transactionStarted = some .active from rfl)]

/-- A test that is entered without an error was set up without one. -/
theorem setUp_of_enter_ok (h : (c.enter t m a w).1 = .ok ()) :
    (c.setUp t m a (c.transition t.key .transactionRequested w).2).1 = .ok () ∧
      (c.enter t m a w).2 = (c.transition t.key .transactionStarted
        (c.setUp t m a (c.transition t.key .transactionRequested w).2).2).2 := by
  unfold enter at h ⊢
  rcases hreq : c.transition t.key .transactionRequested w with ⟨e | s, w₁⟩
  · rw [hreq] at h
    cases h
  · rw [hreq] at h
    rcases hset : c.setUp t m a w₁ with ⟨e | _, w₂⟩
    · simp only [hset] at h
      rcases hab : c.transition t.key (.setupAborted e.message) w₂ with ⟨e' | _, w₃⟩ <;>
        rw [hab] at h <;> cases h
    · simp only [hset] at h ⊢
      rcases hst : c.transition t.key .transactionStarted w₂ with ⟨e' | _, w₃⟩ <;> rw [hst] at h
      · cases h
      · exact ⟨trivial, rfl⟩

/-- Entering a test stops at the first transition, or makes another one after the set-up. -/
theorem enter_snd (c : Controller) (t : TestRun α) (m : Manager) (a : Attribute) (w : World α) :
    (c.enter t m a w).2 = (c.transition t.key .transactionRequested w).2 ∨
      ∃ event, (c.enter t m a w).2 = (c.transition t.key event
        (c.setUp t m a (c.transition t.key .transactionRequested w).2).2).2 := by
  unfold enter
  rcases hreq : c.transition t.key .transactionRequested w with ⟨_ | _, w₁⟩
  · exact .inl rfl
  · refine .inr ?_
    rcases hset : c.setUp t m a w₁ with ⟨e | _, w₂⟩ <;> simp only [hset]
    · refine ⟨.setupAborted e.message, ?_⟩
      split <;> rename_i h <;> rw [h]
    · refine ⟨.transactionStarted, ?_⟩
      split <;> rename_i h <;> rw [h]

/-- An error of a set-up is that of a hook, that of the begin, or that the slot was taken
meanwhile. -/
def IsSetUpError : LifecycleError → Prop
  | .beforeHook _ _ | .hookInvocation _ _ | .transactionStart _ _ => True
  | .illegalState (.slotTakenDuringSetUp _ _) => True
  | _ => False

/-- An error of entering a test is that of its set-up, or that a transition is not legal. -/
def IsEntryError : LifecycleError → Prop
  | .illegalState (.badTransition _ _) => True
  | e => IsSetUpError e

theorem IsSetUpError.isEntryError {e : LifecycleError} (h : IsSetUpError e) : IsEntryError e := by
  unfold IsEntryError
  split
  · trivial
  · exact h

theorem isSetUpError_of_setUp {e : LifecycleError} (h : (c.setUp t m a w).1 = .error e) :
    IsSetUpError e := by
  have hexit := c.setUp_exit t m a w
  generalize c.setUp t m a w = out at hexit h
  cases hexit with
  | hookFailed hooks =>
    cases h
    have he := HookRunner.isBeforeError_of_runBefore (congrArg Prod.fst hooks)
    cases e <;> first | exact trivial | exact he.elim
  | beginFailed | rejected =>
    cases h
    trivial
  | published => cases h

theorem isEntryError_of_enter {e : LifecycleError} (h : (c.enter t m a w).1 = .error e) :
    IsEntryError e := by
  have hmove : ∀ {event} {v v' : World α} {e'},
      c.transition t.key event v = (.error e', v') → IsEntryError e' := by
    intro event v v' e' hm
    rcases c.transition_cases t.key event v with ⟨target, -, hc⟩ | hc <;> cases hc.symm.trans hm
    trivial
  unfold enter at h
  split at h
  · rename_i hreq
    cases h
    exact hmove hreq
  · split at h
    · split at h <;> cases h
      rename_i hst
      exact hmove hst
    · rename_i hset
      split at h <;> cases h
      · exact (isSetUpError_of_setUp (congrArg Prod.fst hset)).isEntryError
      · rename_i hab
        exact hmove hab

/-! ### Before the test -/

/-- The world in which the manager of a test with this intent is looked up. -/
def asked (t : TestRun α) (a : Attribute) (w : World α) : World α :=
  (w.report (.phaseEntered Operation.beforeTest t.name t.key.display)).report
    (.intentFound a t.name)

/-- The look-up of the manager of a test with this intent. -/
def managerFor (c : Controller) (t : TestRun α) (a : Attribute) (w : World α) :
    Except LookupError (Option Manager) × World α :=
  c.transactionManager t a.qualifierText (asked t a w)

theorem quiet_managerFor (c : Controller) (t : TestRun α) (a : Attribute) (w : World α) :
    w.Quiet (c.managerFor t a w).2 :=
  ((World.Quiet.report _ w).trans (.report _ _)).trans (c.quiet_transactionManager t _ _)

theorem quiet_of_managerFor {r : Except LookupError (Option Manager)} {w₁ : World α}
    (h : c.managerFor t a w = (r, w₁)) : w.Quiet w₁ := by
  have hq := c.quiet_managerFor t a w
  rwa [h] at hq

/-- The look-up of the manager settles the rollback flag of the test, as long as its class stays
remembered. -/
theorem isRollback_of_configured (c : Controller) (t : TestRun α) (a : Attribute) {w w' : World α}
    (h : ∀ k b, (c.managerFor t a w).2.configurationCache.find? k = some b →
      w'.configurationCache.find? k = some b) :
    (c.isRollback t w').1 = (c.isRollback t w).1 := by
  have hask := c.resolver.configured_resolve t.cls (asked t a w)
  have hlook := (World.quiet_lookup c.config.strictManagerResolution t.name a.qualifierText
    (c.resolver.resolve t.cls (asked t a w)).1.managerName
    (c.resolver.resolve t.cls (asked t a w)).2).configured _ _ hask
  have hresolve := ConfigurationResolver.resolve_of_configured (h _ _ hlook)
  have hfst : (c.resolver.resolve t.cls (asked t a w)).1 = (c.resolver.resolve t.cls w).1 :=
    c.resolver.resolve_fst_congr t.cls rfl
  simp only [isRollback, isDefaultRollback, configurationAttributes, hresolve, hfst]

/-- How the before-test phase of a test can end. -/
inductive BeforeExit (c : Controller) (t : TestRun α) (w : World α) :
    Except LifecycleError Unit × World α → Prop
  /-- The key still has a test. -/
  | busy {w' : World α} (occupied : c.isBusy t.key w = true) (quiet : w.Quiet w') :
      BeforeExit c t w (.error (.illegalState (.busy t.display)), w')
  /-- The test has no transactional intent. -/
  | undeclared {w' : World α} (free : c.isBusy t.key w = false) (intent : t.intent? = none)
      (quiet : w.Quiet w') : BeforeExit c t w (.ok (), w')
  /-- Its intent is to run without a transaction. -/
  | optedOut {a : Attribute} {w' : World α} (free : c.isBusy t.key w = false)
      (intent : t.intent? = some a) (out : a.propagation.optsOut = true) (quiet : w.Quiet w') :
      BeforeExit c t w (.ok (), w')
  /-- The look-up of its manager fails. -/
  | lookupFailed {a : Attribute} {e : LookupError} {w' : World α}
      (free : c.isBusy t.key w = false) (intent : t.intent? = some a)
      (inside : a.propagation.optsOut = false) (lookup : c.managerFor t a w = (.error e, w')) :
      BeforeExit c t w (.error (.managerLookup e), w')
  /-- There is no manager, and there must be one. -/
  | notFound {a : Attribute} {w' : World α} (free : c.isBusy t.key w = false)
      (intent : t.intent? = some a) (inside : a.propagation.optsOut = false)
      (lookup : c.managerFor t a w = (.ok none, w'))
      (strict : c.config.strictManagerResolution = true) :
      BeforeExit c t w (.error (.managerNotFound t.name), w')
  /-- There is no manager, and the test runs without one. -/
  | unmanaged {a : Attribute} {w₁ w' : World α} (free : c.isBusy t.key w = false)
      (intent : t.intent? = some a) (inside : a.propagation.optsOut = false)
      (lookup : c.managerFor t a w = (.ok none, w₁))
      (lenient : c.config.strictManagerResolution = false) (quiet : w₁.Quiet w') :
      BeforeExit c t w (.ok (), w')
  /-- The transaction is set up. -/
  | entered {a : Attribute} {m : Manager} {w₁ : World α} (free : c.isBusy t.key w = false)
      (intent : t.intent? = some a) (inside : a.propagation.optsOut = false)
      (lookup : c.managerFor t a w = (.ok (some m), w₁)) :
      BeforeExit c t w (c.enter t m a w₁)

/-- Every before-test phase ends in one of these ways. -/
theorem beforeTest_exit (c : Controller) (t : TestRun α) (w : World α) :
    BeforeExit c t w (c.beforeTest t w) := by
  have hbusy : c.isBusy t.key (w.report (.phaseEntered Operation.beforeTest t.name t.key.display)) =
      c.isBusy t.key w := rfl
  have hq := World.Quiet.report (.phaseEntered Operation.beforeTest t.name t.key.display) w
  unfold beforeTest
  simp only [hbusy]
  by_cases hb : c.isBusy t.key w = true
  · rw [if_pos hb]
    exact .busy hb hq
  · rw [if_neg hb]
    replace hb : c.isBusy t.key w = false := by simpa using hb
    cases hi : t.intent? with
    | none => exact .undeclared hb hi (hq.trans (.report _ _))
    | some a =>
      simp only
      by_cases ho : a.propagation.optsOut = true
      · rw [if_pos ho]
        exact .optedOut hb hi ho ((hq.trans (.report _ _)).trans (.report _ _))
      · rw [if_neg ho]
        replace ho : a.propagation.optsOut = false := by simpa using ho
        rcases hl : c.managerFor t a w with ⟨e | (_ | m), w₁⟩ <;>
          simp only [managerFor, asked] at hl <;> simp only [hl]
        · exact .lookupFailed hb hi ho hl
        · by_cases hs : c.config.strictManagerResolution = true
          · rw [if_pos hs]
            exact .notFound hb hi ho hl hs
          · rw [if_neg hs]
            exact .unmanaged hb hi ho hl (by simpa using hs) (.report _ _)
        · exact .entered hb hi ho hl

/-- A key that is not busy has no context and is idle. -/
theorem isBusy_eq_false {key : ExecutionKey} :
    c.isBusy key w = false ↔ w.context? key = none ∧ c.state key w = .idle := by
  simp [isBusy]

/-- A before-test phase is bookkeeping, or enters a test on a key that is free. -/
theorem beforeTest_cases (c : Controller) (t : TestRun α) (w : World α) :
    w.Quiet (c.beforeTest t w).2 ∨ ∃ m a w₁, w.Quiet w₁ ∧ w.context? t.key = none ∧
      c.state t.key w = .idle ∧ c.beforeTest t w = c.enter t m a w₁ := by
  have hexit := c.beforeTest_exit t w
  generalize c.beforeTest t w = out at hexit
  cases hexit with
  | busy _ quiet => exact .inl quiet
  | undeclared _ _ quiet => exact .inl quiet
  | optedOut _ _ _ quiet => exact .inl quiet
  | lookupFailed _ _ _ lookup => exact .inl (quiet_of_managerFor lookup)
  | notFound _ _ _ lookup => exact .inl (quiet_of_managerFor lookup)
  | unmanaged _ _ _ lookup _ quiet => exact .inl ((quiet_of_managerFor lookup).trans quiet)
  | @entered a m w₁ free _ _ lookup =>
    obtain ⟨hfree, hidle⟩ := isBusy_eq_false.1 free
    exact .inr ⟨m, a, w₁, quiet_of_managerFor lookup, hfree, hidle, rfl⟩

/-! ### After the test -/

/-- The world in which a taken context is ended. -/
def taken (t : TestRun α) (w : World α) : World α :=
  { w.report (.phaseEntered Operation.afterTest t.name t.key.display) with
    contexts := w.contexts.erase t.key }

theorem finishTaken_of_active {x : Context} {status : Status} (hs : x.status = some status)
    (hc : status.id ∉ (w.store x.manager).completed) :
    ∃ w', (x.ending status w).2.Quiet w' ∧ finishTaken t x w =
      ((x.ending status w).1.mapError (.transactionEnd x.testName), w') := by
  obtain ⟨w', hq, hf⟩ := Context.finish_of_some hs w
  refine ⟨w', hq, ?_⟩
  simp only [finishTaken, Context.isActive_of_some hs hc, hf, ↓reduceIte]

theorem finishTaken_of_inactive {x : Context} (h : x.isActive w = false) :
    finishTaken t x w = (.ok (), w.report (.transactionGone t.name)) := by
  simp [finishTaken, h]

theorem sameSlots_finishTaken (t : TestRun α) (x : Context) (w : World α) :
    SameSlots w (finishTaken t x w).2 := by
  by_cases ha : x.isActive w = true
  · obtain ⟨status, hs, hc⟩ := Context.isActive_iff.1 ha
    obtain ⟨w', hq, h⟩ := finishTaken_of_active (t := t) hs hc
    rw [h]
    exact (Context.sameSlots_ending ..).trans (.quiet hq)
  · rw [finishTaken_of_inactive (by simpa using ha)]
    exact .quiet (World.Quiet.report _ w)

theorem quiet_settle (t : TestRun α) (ended hooks finished : Except LifecycleError Unit)
    (w : World α) : w.Quiet (settle t ended hooks finished w).2 := by
  unfold settle
  split
  · exact .report _ w
  · exact .refl w
  · exact .refl w
  · exact .refl w

/-- What the after-test phase answers is one of the three answers that it has. -/
theorem settle_error {ended hooks finished : Except LifecycleError Unit} {e : LifecycleError}
    (h : (settle t ended hooks finished w).1 = .error e) :
    ended = .error e ∨ hooks = .error e ∨ finished = .error e := by
  unfold settle at h
  split at h
  · exact .inr (.inl h)
  · exact .inr (.inl h)
  · exact .inl h
  · exact .inr (.inr h)

/-- Without a context the after-test phase only forgets the state of the key. -/
theorem afterTest_of_none (h : w.context? t.key = none) :
    c.afterTest t w = (.ok (), c.setState t.key .idle (taken t w)) := by
  have hc : (w.report (.phaseEntered Operation.afterTest t.name t.key.display)).context? t.key =
      none := h
  simp only [afterTest, World.take, hc]
  rfl

/-- With one it ends its transaction, runs the after-hooks and moves the key on. -/
theorem afterTest_of_some {x : Context} (h : w.context? t.key = some x) :
    c.afterTest t w =
      let ended := finishTaken t x (taken t w)
      let hooks := c.runner.runAfter t ended.2
      let moved := c.transition t.key .testFinished hooks.2
      settle t ended.1 hooks.1 (moved.1.map fun _ => ()) moved.2 := by
  have hc : (w.report (.phaseEntered Operation.afterTest t.name t.key.display)).context? t.key =
      some x := h
  simp only [afterTest, World.take, hc]
  rfl

end Controller

end TransactionalTest
