import TransactionalTest.Proofs.Steps
import TransactionalTest.Proofs.Teardown

/-!
# Caches that cannot be noticed

A controller remembers the configuration and the hooks of every class object that it has met.
Whatever has been asked of it, it answers as one that remembers nothing.

* `World.bare` : the world without caches and reports;
* `Twins` : two worlds that differ in what a controller remembers, and in nothing else;
* `Oblivious` : work that cannot tell twins apart;
* `Controller.oblivious_beforeTest`, `Controller.oblivious_afterTest` : the phases of a test, if its
  hooks are oblivious;
* `Controller.forget` : the world with the caches of a controller removed;
* `Call`, `Controller.caches_transparent` : after any calls, and for the next one, the caches make
  no difference.

A class object is the key under which it is remembered, so that two objects of one name, or of equal
contents, are remembered apart.
-/

namespace TransactionalTest

variable {α : Type}

/-! ### Twins -/

namespace World

/-- The world without caches and reports. -/
def bare (w : World α) : World α :=
  { w with configurationCache := [], hookCache := [], chronicle := w.deeds }

theorem deeds_bare (w : World α) : w.bare.deeds = w.deeds := by
  simp [bare, deeds, List.filter_filter]

theorem bare_eq {w w' : World α} (registry : w'.registry = w.registry)
    (stores : w'.stores = w.stores) (beginCount : w'.beginCount = w.beginCount)
    (contexts : w'.contexts = w.contexts) (states : w'.states = w.states)
    (app : w'.app = w.app) (deeds : w'.deeds = w.deeds) : w'.bare = w.bare := by
  simp only [bare, registry, stores, beginCount, contexts, states, app, deeds]

theorem bare_bare (w : World α) : w.bare.bare = w.bare :=
  bare_eq rfl rfl rfl rfl rfl rfl w.deeds_bare

theorem Quiet.bare {w w' : World α} (q : w.Quiet w') : w'.bare = w.bare :=
  bare_eq q.registry q.stores q.beginCount q.contexts q.states q.app q.deeds

end World

/-- What everybody but this controller remembers is the same. -/
structure SameForeign (c : Controller) (w w' : World α) : Prop where
  configured : ∀ o cls, o ≠ c.id →
    w'.configurationCache.find? (o, cls) = w.configurationCache.find? (o, cls)
  discovered : ∀ o cls phase, o ≠ c.id →
    w'.hookCache.find? (o, cls, phase) = w.hookCache.find? (o, cls, phase)

theorem SameCaches.foreign {c : Controller} {w w' : World α} (h : SameCaches w w') :
    SameForeign c w w' :=
  ⟨fun _ _ _ => by rw [h.configurationCache], fun _ _ _ _ => by rw [h.hookCache]⟩

/-- Two worlds that differ in what this controller remembers, and in reports, and in nothing else;
and what it remembers is right in both. -/
structure Twins (c : Controller) (w w' : World α) : Prop extends SameForeign c w w' where
  bare : w'.bare = w.bare
  recalls : c.Recalls w
  recalls' : c.Recalls w'

namespace Twins

variable {c : Controller} {u v w w' : World α}

theorem refl (h : c.Recalls w) : Twins c w w := ⟨SameCaches.foreign (.refl w), rfl, h, h⟩

theorem symm (h : Twins c w w') : Twins c w' w where
  configured o cls ho := (h.configured o cls ho).symm
  discovered o cls phase ho := (h.discovered o cls phase ho).symm
  bare := h.bare.symm
  recalls := h.recalls'
  recalls' := h.recalls

theorem trans (h : Twins c u v) (h' : Twins c v w) : Twins c u w where
  configured o cls ho := (h'.configured o cls ho).trans (h.configured o cls ho)
  discovered o cls phase ho := (h'.discovered o cls phase ho).trans (h.discovered o cls phase ho)
  bare := h'.bare.trans h.bare
  recalls := h.recalls
  recalls' := h'.recalls'

/-- Bookkeeping that keeps the caches right and touches those of nobody else. -/
theorem of_quiet (h : c.Recalls w) (q : w.Quiet w') (hr : c.Recalls w')
    (hf : SameForeign c w w') : Twins c w w' :=
  ⟨hf, q.bare, h, hr⟩

end Twins

/-! ### Oblivious work -/

/-- Work that cannot tell twins apart: it answers the same, and leaves twins behind. -/
def Oblivious (c : Controller) {ρ : Type} (f : World α → ρ × World α) : Prop :=
  ∀ w w', Twins c w w' → (f w').1 = (f w).1 ∧ Twins c (f w).2 (f w').2

namespace Oblivious

variable {c : Controller} {ρ : Type} {f : World α → ρ × World α}

theorem composable (c : Controller) :
    Composable fun _ (f : World α → _ × World α) => Oblivious c f where
  pure _ _ _ h := ⟨rfl, h⟩
  bind hf hg w w' h := by
    obtain ⟨hr, h'⟩ := hf w w' h
    simp only [hr]
    exact hg _ _ _ h'

/-- Work that does without caches and reports. -/
theorem of_bare (hcaches : ∀ w, SameCaches w (f w).2)
    (h : ∀ w, (f w.bare).1 = (f w).1 ∧ (f w.bare).2.bare = (f w).2.bare) : Oblivious c f := by
  intro w w' ht
  obtain ⟨hr, hb⟩ := h w
  obtain ⟨hr', hb'⟩ := h w'
  have hsame : w'.bare = w.bare := ht.bare
  refine ⟨by rw [← hr, ← hr', hsame], ?_⟩
  have hforeign := (hcaches w).foreign (c := c)
  have hforeign' := (hcaches w').foreign (c := c)
  exact
    { configured := fun o cls ho => (hforeign'.configured o cls ho).trans
        ((ht.configured o cls ho).trans (hforeign.configured o cls ho).symm)
      discovered := fun o cls phase ho => (hforeign'.discovered o cls phase ho).trans
        ((ht.discovered o cls phase ho).trans (hforeign.discovered o cls phase ho).symm)
      bare := by rw [← hb, ← hb', hsame]
      recalls := ht.recalls.congr (hcaches w)
      recalls' := ht.recalls'.congr (hcaches w') }

/-- A look at the world that does not go as far as caches and reports. -/
theorem look {g : World α → ρ} (h : ∀ w, g w.bare = g w) : Oblivious c fun w => (g w, w) :=
  of_bare (fun w => .refl w) fun w => ⟨h w, w.bare_bare⟩

/-- Bookkeeping with an answer that is the same for twins. -/
theorem of_quiet (hq : ∀ w : World α, w.Quiet (f w).2) (hr : ∀ w, c.Recalls w → c.Recalls (f w).2)
    (hf : ∀ w, SameForeign c w (f w).2) (ha : ∀ w w', Twins c w w' → (f w').1 = (f w).1) :
    Oblivious c f := by
  intro w w' ht
  have hleft : Twins c w (f w).2 := .of_quiet ht.recalls (hq w) (hr w ht.recalls) (hf w)
  have hright : Twins c w' (f w').2 := .of_quiet ht.recalls' (hq w') (hr w' ht.recalls') (hf w')
  exact ⟨ha w w' ht, (hleft.symm.trans ht).trans hright⟩

theorem report (event : LogEvent) : Oblivious c fun w : World α => ((), w.report event) :=
  of_quiet (World.Quiet.report event) (fun _ h => h.congr ⟨rfl, rfl⟩)
    (fun _ => SameCaches.foreign ⟨rfl, rfl⟩) fun _ _ _ => rfl

/-! ### Requests and slots -/

theorem record {o : Occurrence} (h : o.report? = none) :
    Oblivious c fun w : World α => ((), w.record o) := by
  refine of_bare (fun _ => ⟨rfl, rfl⟩) fun w => ⟨rfl, World.bare_eq rfl rfl rfl rfl rfl rfl ?_⟩
  rw [World.deeds_record h, World.deeds_record h, World.deeds_bare]

theorem begin (m : Manager) (a : Attribute) : Oblivious c fun w : World α => w.begin m a := by
  refine of_bare (fun _ => ⟨rfl, rfl⟩) fun w => ⟨rfl, World.bare_eq rfl rfl rfl rfl rfl rfl ?_⟩
  have hbegin : ∀ w : World α, (w.begin m a).2.deeds = w.deeds ++ [.begun m a (w.begin m a).1] :=
    fun _ => World.deeds_record rfl _
  rw [hbegin, hbegin, World.deeds_bare]
  rfl

theorem finish (m : Manager) (status : Status) (rollback : Bool) :
    Oblivious c fun w : World α => w.finish m status rollback := by
  refine of_bare (fun _ => ⟨rfl, rfl⟩) fun w => ⟨rfl, World.bare_eq rfl rfl rfl rfl rfl rfl ?_⟩
  rw [World.deeds_finish, World.deeds_finish, World.deeds_bare]
  rfl

theorem setContexts (f : Table ExecutionKey Context → Table ExecutionKey Context) :
    Oblivious c fun w : World α => ((), { w with contexts := f w.contexts }) :=
  of_bare (fun _ => ⟨rfl, rfl⟩) fun w =>
    ⟨rfl, World.bare_eq rfl rfl rfl rfl rfl rfl w.deeds_bare⟩

theorem setState (d : Controller) (key : ExecutionKey) (s : LifecycleState) :
    Oblivious c fun w : World α => ((), d.setState key s w) := by
  have hsame : ∀ w : World α, SameCaches w (d.setState key s w) := fun w => by
    rw [Controller.setState_eq]
    exact ⟨rfl, rfl⟩
  refine of_bare hsame fun w => ⟨rfl, ?_⟩
  unfold Controller.setState
  simp only
  split <;> exact World.bare_eq rfl rfl rfl rfl rfl rfl w.deeds_bare

/-! ### Contexts -/

theorem start {x : Context} (hs : x.status = none) :
    Oblivious c fun w : World α => (((x.start w).1, (x.start w).2.1), (x.start w).2.2) := by
  -- the answer and the context of a start that succeeds
  let opened (status : Status) : Except LifecycleError Unit × Context :=
    (.ok (), { x with status := some status, starts := x.starts + 1 })
  have hopened := fun status => (composable (α := α) c).answering (opened status)
    (report (.transaction Operation.transactionStarted x.testName (some x.manager.name)
      (some x.flaggedForRollback) (some status.display)))
  have hrefused := fun e => (composable (α := α) c).pure
    ((.error (.transactionStart x.testName e), x) : Except LifecycleError Unit × Context)
  refine Composable.congr ((composable c).cases (begin x.manager x.intent) hopened hrefused)
    fun w => ?_
  unfold Context.start
  rw [hs]
  rcases w.begin x.manager x.intent with ⟨_ | _, _⟩ <;> rfl

/-- The end of a context's transaction, as its answer. -/
theorem finishOf (x : Context) :
    Oblivious c fun w : World α => ((x.finish w).1, (x.finish w).2.2) := by
  cases hs : x.status with
  | none =>
    refine Composable.congr ((composable c).answered (.error (.illegalState .nothingToEnd)))
      fun w => ?_
    rw [Context.finish_of_none hs]
  | some status =>
    have hended := (composable (α := α) c).answering (Except.ok () : Except LifecycleError Unit)
      (report (.transaction (if x.flaggedForRollback then Operation.transactionRolledBack
        else Operation.transactionCommitted) x.testName (some x.manager.name)
        (some x.flaggedForRollback) (some status.display)))
    have hfailed := fun e =>
      (composable (α := α) c).answered (.error (.transactionEnd x.testName e))
    refine Composable.congr ((composable c).bind
      (report (.transactionEnding status x.testName x.flaggedForRollback)) fun _ =>
        (composable c).cases (finish x.manager status x.flaggedForRollback) (fun _ => hended)
          hfailed) fun w => ?_
    unfold Context.finish
    rw [hs]
    simp only
    rcases World.finish x.manager status x.flaggedForRollback _ with ⟨_ | _, _⟩ <;> rfl

theorem isActive (x : Context) : Oblivious c fun w : World α => (x.isActive w, w) :=
  look fun _ => rfl

theorem rollBackUnpublished (x : Context) :
    Oblivious c fun w : World α => ((), Controller.rollBackUnpublished x w) := by
  have hfailed := fun e : LifecycleError => report (α := α) (c := c)
    (.failure "lifecycle_controller" Operation.beforeTest e.message
      (some ("rolling back unpublished transaction for " ++ x.testName)))
  refine Composable.congr ((composable c).bind (isActive x) fun active =>
    Composable.ite (p := active) ((composable c).cases
      (finishOf { x with flaggedForRollback := true }) (fun _ => (composable c).pure ()) hfailed)
      ((composable c).pure ())) fun w => ?_
  unfold Controller.rollBackUnpublished
  by_cases ha : x.isActive w = true
  · simp only [ha, ↓reduceIte]
    rcases Context.finish _ w with ⟨_ | _, _, _⟩ <;> rfl
  · simp only [ha, Bool.false_eq_true, ↓reduceIte]

theorem publish (key : ExecutionKey) (x : Context) :
    Oblivious c fun w : World α => Controller.publish key x w := by
  have hfree := (composable (α := α) c).answering (Except.ok () : Except LifecycleError Unit)
    (setContexts fun contexts => contexts.insert key x)
  have htaken := fun _ : Context => (composable (α := α) c).answering
    (.error (.illegalState (.slotTakenDuringSetUp key.display x.testName)) :
      Except LifecycleError Unit) (rollBackUnpublished x)
  refine Composable.congr ((composable c).bind (look (g := World.context? key) fun _ => rfl)
    (Composable.option hfree htaken)) fun w => ?_
  unfold Controller.publish World.tryPublish
  cases w.context? key <;> rfl

theorem launch (key : ExecutionKey) {x : Context} (hs : x.status = none) :
    Oblivious c fun w : World α => Controller.launch key x w := by
  refine Composable.congr ((composable c).bind (start hs) fun out =>
    Composable.except (fun _ => publish key out.2) (fun e => (composable c).answered (.error e))
      out.1) fun w => ?_
  unfold Controller.launch
  rcases x.start w with ⟨_ | _, _, _⟩ <;> rfl

theorem finishTaken (t : TestRun α) (x : Context) :
    Oblivious c fun w : World α => Controller.finishTaken t x w := by
  have hgone := (composable (α := α) c).answering (Except.ok () : Except LifecycleError Unit)
    (report (.transactionGone t.name))
  refine Composable.congr ((composable c).bind (isActive x) fun active =>
    Composable.ite (p := active) (finishOf x) hgone) fun w => ?_
  unfold Controller.finishTaken
  by_cases ha : x.isActive w = true
  · simp only [ha, ↓reduceIte]
  · simp only [ha, Bool.false_eq_true, ↓reduceIte]

theorem endTaken (t : TestRun α) : Oblivious c (Controller.endTaken t) := by
  have htaken : Oblivious c fun w : World α => ((), Controller.taken t w) :=
    (composable c).bind (report (.phaseEntered Operation.afterTest t.name t.key.display)) fun _ =>
      setContexts fun contexts => contexts.erase t.key
  have hended := fun x : Context => (composable c).bind htaken fun _ =>
    (composable c).bind (finishTaken t x) fun r => (composable c).pure (some r)
  refine Composable.congr ((composable c).bind (look (g := World.context? t.key) fun _ => rfl)
    (Composable.option ((composable c).answering none htaken) hended)) fun w => ?_
  unfold Controller.endTaken
  cases w.context? t.key <;> rfl

end Oblivious

/-! ### What is remembered -/

namespace Twins

variable {c : Controller} {w w' : World α} {o : OwnerId}

/-- Twins stay twins when somebody else remembers the same in both. -/
theorem insertConfiguration (h : Twins c w w') (ho : o ≠ c.id) (cls : TestClass)
    (a : ConfigurationAttributes) :
    Twins c { w with configurationCache := w.configurationCache.insert (o, cls) a }
      { w' with configurationCache := w'.configurationCache.insert (o, cls) a } where
  configured o' cls' ho' := by
    simp only [Table.find?_insert, h.configured o' cls' ho']
  discovered := h.discovered
  bare := h.bare
  recalls := h.recalls.congr_own (fun cls' =>
    Table.find?_insert_of_ne (fun he => ho (Prod.mk.inj he).1.symm) ..) fun _ _ => rfl
  recalls' := h.recalls'.congr_own (fun cls' =>
    Table.find?_insert_of_ne (fun he => ho (Prod.mk.inj he).1.symm) ..) fun _ _ => rfl

theorem insertHooks (h : Twins c w w') (ho : o ≠ c.id) (cls : TestClass) (phase : HookPhase)
    (hs : List HookMethod) :
    Twins c { w with hookCache := w.hookCache.insert (o, cls, phase) hs }
      { w' with hookCache := w'.hookCache.insert (o, cls, phase) hs } where
  configured := h.configured
  discovered o' cls' phase' ho' := by
    simp only [Table.find?_insert, h.discovered o' cls' phase' ho']
  bare := h.bare
  recalls := h.recalls.congr_own (fun _ => rfl) fun cls' phase' =>
    Table.find?_insert_of_ne (fun he => ho (Prod.mk.inj he).1.symm) ..
  recalls' := h.recalls'.congr_own (fun _ => rfl) fun cls' phase' =>
    Table.find?_insert_of_ne (fun he => ho (Prod.mk.inj he).1.symm) ..

end Twins

namespace Controller

variable {c d : Controller}

theorem sameForeign_resolve (c : Controller) (cls : TestClass) (w : World α) :
    SameForeign c w (c.resolver.resolve cls w).2 := by
  unfold ConfigurationResolver.resolve
  split
  · exact SameCaches.foreign (.refl w)
  · exact ⟨fun o cls' ho => Table.find?_insert_of_ne (fun he => ho (Prod.mk.inj he).1) ..,
      fun _ _ _ _ => rfl⟩

theorem sameForeign_hooksFor (c : Controller) (cls : TestClass) (phase : HookPhase)
    (w : World α) : SameForeign c w (c.runner.hooksFor cls phase w).2 := by
  unfold HookRunner.hooksFor
  split
  · exact SameCaches.foreign (.refl w)
  · exact ⟨fun _ _ _ => rfl,
      fun o cls' phase' ho => Table.find?_insert_of_ne (fun he => ho (Prod.mk.inj he).1) ..⟩

/-- Two controllers that go by one identifier are the same one. -/
def Distinct (c d : Controller) : Prop := d.id = c.id → d = c

/-- A controller that asks for the configuration of a class notices nothing of what another one, or
it itself, remembers. -/
theorem oblivious_configurationAttributes (hd : c.Distinct d) (cls : TestClass) :
    Oblivious c (d.configurationAttributes cls : World α → ConfigurationAttributes × World α) := by
  -- its own two caches may differ, but both are right; those of another one are the same
  by_cases ho : d.id = c.id
  · obtain rfl := hd ho
    exact .of_quiet (d.resolver.quiet_resolve cls) (fun _ h => h.resolve cls)
      (d.sameForeign_resolve cls) fun _ _ h =>
        (h.recalls'.resolve_fst cls).trans (h.recalls.resolve_fst cls).symm
  · intro w w' h
    have hfind : w'.configurationCache.find? (d.resolver.owner, cls) =
        w.configurationCache.find? (d.resolver.owner, cls) := h.configured d.id cls ho
    unfold configurationAttributes ConfigurationResolver.resolve
    rw [hfind]
    cases w.configurationCache.find? (d.resolver.owner, cls) with
    | some a => exact ⟨rfl, h⟩
    | none =>
      have hread := (Oblivious.report (.configurationRead cls.configuration? cls.name) _ _ h).2
      have hresolved := (Oblivious.report
        (.configurationResolved (d.resolver.attributesOf cls) cls.name) _ _ hread).2
      exact ⟨rfl, hresolved.insertConfiguration ho cls _⟩

theorem oblivious_hooksFor (hd : c.Distinct d) (cls : TestClass) (phase : HookPhase) :
    Oblivious c (d.runner.hooksFor cls phase : World α → List HookMethod × World α) := by
  by_cases ho : d.id = c.id
  · obtain rfl := hd ho
    exact .of_quiet (HookRunner.quiet_hooksFor d.runner cls phase) (fun _ h => h.hooksFor cls phase)
      (d.sameForeign_hooksFor cls phase) fun _ _ h =>
        (h.recalls'.hooksFor_fst cls phase).trans (h.recalls.hooksFor_fst cls phase).symm
  · intro w w' h
    have hfind : w'.hookCache.find? (d.runner.owner, cls, phase) =
        w.hookCache.find? (d.runner.owner, cls, phase) := h.discovered d.id cls phase ho
    unfold HookRunner.hooksFor
    rw [hfind]
    cases w.hookCache.find? (d.runner.owner, cls, phase) with
    | some hs => exact ⟨rfl, h⟩
    | none =>
      have hfound := (Oblivious.report
        (.hooksDiscovered (cls.discover phase).length phase cls.name) _ _ h).2
      exact ⟨rfl, hfound.insertHooks ho cls phase _⟩

theorem oblivious_transactionManager (hd : c.Distinct d) (t : TestRun α)
    (qualifier : Option String) : Oblivious c (d.transactionManager t qualifier) := by
  have hlookup : ∀ a : ConfigurationAttributes, Oblivious c fun w : World α =>
      w.lookup d.config.strictManagerResolution t.name qualifier a.managerName := by
    intro a
    refine .of_quiet (World.quiet_lookup _ _ _ _) (fun w h => h.congr (w.sameCaches_lookup ..))
      (fun w => (w.sameCaches_lookup ..).foreign) fun w w' h => ?_
    have hregistry : w'.bare.registry = w.bare.registry := congrArg World.registry h.bare
    exact World.lookup_fst_congr _ _ _ _ hregistry
  exact (Oblivious.composable c).bind (oblivious_configurationAttributes hd t.cls) hlookup

theorem oblivious_isRollback (hd : c.Distinct d) (t : TestRun α) :
    Oblivious c (d.isRollback t) := by
  have hc := Oblivious.composable (α := α) c
  have hdefault : Oblivious c (d.isDefaultRollback t) :=
    hc.bind (oblivious_configurationAttributes hd t.cls) fun a => hc.pure a.defaultRollback
  cases h : t.cls.rollbackOf? t.method with
  | none =>
    refine Composable.congr (hc.bind hdefault fun default => hc.answering
      (decideRollback default none) (.report (.rollbackDefaulted default t.name))) fun w => ?_
    simp only [isRollback, h]
  | some rollback =>
    refine Composable.congr (hc.bind hdefault fun default => hc.answering
      (decideRollback default (some rollback))
      (.report (.rollbackOverridden rollback default t.name))) fun w => ?_
    simp only [isRollback, h]

/-! ### The phases of a test -/

variable {t : TestRun α}

theorem oblivious_steps (hd : c.Distinct d) (ht : ∀ hook, Oblivious c (t.subject hook)) :
    d.Steps t fun _ f => Oblivious c f where
  toComposable := Oblivious.composable c
  report event _ := .report event
  hook := ht
  invoked _ _ := .record rfl
  hooksFor := oblivious_hooksFor hd t.cls
  isRollback := oblivious_isRollback hd t
  transactionManager := oblivious_transactionManager hd t
  isBusy := .look fun _ => rfl
  state := .look fun _ => rfl
  setState := .setState d t.key
  launch _ hs := .launch t.key hs
  endTaken := .endTaken t

/-- The before-test phase, on this controller or another one, notices nothing of the caches, if its
hooks do not. -/
theorem oblivious_beforeTest (hd : c.Distinct d) (ht : ∀ hook, Oblivious c (t.subject hook)) :
    Oblivious c (d.beforeTest t) :=
  (oblivious_steps hd ht).beforeTest

/-- Nor does the after-test phase. -/
theorem oblivious_afterTest (hd : c.Distinct d) (ht : ∀ hook, Oblivious c (t.subject hook)) :
    Oblivious c (d.afterTest t) :=
  (oblivious_steps hd ht).afterTest

/-! ### Forgetting -/

/-- The controller remembers nothing. -/
structure Blank (c : Controller) (w : World α) : Prop where
  configured : ∀ cls, w.configurationCache.find? (c.id, cls) = none
  discovered : ∀ cls phase, w.hookCache.find? (c.id, cls, phase) = none

theorem Blank.recalls {w : World α} (h : c.Blank w) : c.Recalls w where
  attributes cls a ha := by rw [h.configured cls] at ha; cases ha
  hooks cls phase hs hh := by rw [h.discovered cls phase] at hh; cases hh

/-- The world with the caches of the controller removed. -/
def forget (c : Controller) (w : World α) : World α :=
  { w with
    configurationCache := w.configurationCache.filter fun e => e.1.1 ≠ c.id
    hookCache := w.hookCache.filter fun e => e.1.1 ≠ c.id }

theorem find?_forget (c : Controller) (o : OwnerId) (cls : TestClass) (phase : HookPhase)
    (w : World α) :
    (c.forget w).configurationCache.find? (o, cls) =
        (if o = c.id then none else w.configurationCache.find? (o, cls)) ∧
      (c.forget w).hookCache.find? (o, cls, phase) =
        (if o = c.id then none else w.hookCache.find? (o, cls, phase)) := by
  have hconfigured := Table.find?_filter (fun k => decide (k.1 ≠ c.id)) (o, cls)
    w.configurationCache
  have hdiscovered := Table.find?_filter (fun k => decide (k.1 ≠ c.id)) (o, cls, phase)
    w.hookCache
  by_cases ho : o = c.id
  · simp only [ho, ne_eq, not_true_eq_false, decide_false, Bool.false_eq_true, if_true, if_false]
      at hconfigured hdiscovered ⊢
    exact ⟨hconfigured, hdiscovered⟩
  · simp only [ho, ne_eq, not_false_eq_true, decide_true, if_true, if_false]
      at hconfigured hdiscovered ⊢
    exact ⟨hconfigured, hdiscovered⟩

theorem blank_forget (c : Controller) (w : World α) : c.Blank (c.forget w) where
  configured cls := ((c.find?_forget c.id cls default w).1).trans (if_pos rfl)
  discovered cls phase := ((c.find?_forget c.id cls phase w).2).trans (if_pos rfl)

/-- Without its caches a world is the twin of what it was. -/
theorem twins_forget {w : World α} (h : c.Recalls w) : Twins c w (c.forget w) where
  configured o cls ho := ((c.find?_forget o cls default w).1).trans (if_neg ho)
  discovered o cls phase ho := ((c.find?_forget o cls phase w).2).trans (if_neg ho)
  bare := rfl
  recalls := h
  recalls' := (c.blank_forget w).recalls

end Controller

/-! ### Calls -/

/-- A test run whose hooks notice nothing of what a controller remembers. -/
structure ObliviousRun (c : Controller) (α : Type) extends TestRun α where
  oblivious : ∀ hook, Oblivious c (subject hook)

/-- A call of a controller, or something else that goes on between its calls. -/
inductive Call (c : Controller) (α : Type) where
  | before (t : ObliviousRun c α)
  | after (t : ObliviousRun c α)
  | isRollback (t : TestRun α)
  | configurationAttributes (cls : TestClass)
  | hooksFor (cls : TestClass) (phase : HookPhase)
  | other (f : World α → World α) (oblivious : Oblivious c fun w => ((), f w))

/-- What is answered to a call. -/
inductive Answer where
  | phase (r : Except LifecycleError Unit)
  | rollback (r : Bool)
  | attributes (a : ConfigurationAttributes)
  | hooks (hs : List HookMethod)
  | nothing

namespace Call

variable {c : Controller}

/-- Make a call. -/
def run (call : Call c α) (w : World α) : Answer × World α :=
  match call with
  | before t =>
    let (r, w) := c.beforeTest t.toTestRun w
    (.phase r, w)
  | after t =>
    let (r, w) := c.afterTest t.toTestRun w
    (.phase r, w)
  | isRollback t =>
    let (r, w) := c.isRollback t w
    (.rollback r, w)
  | configurationAttributes cls =>
    let (a, w) := c.configurationAttributes cls w
    (.attributes a, w)
  | hooksFor cls phase =>
    let (hs, w) := c.runner.hooksFor cls phase w
    (.hooks hs, w)
  | other f _ => (.nothing, f w)

/-- Make calls one after another. -/
def runAll : List (Call c α) → World α → List Answer × World α
  | [], w => ([], w)
  | call :: calls, w =>
    let (r, w) := call.run w
    let (rs, w) := runAll calls w
    (r :: rs, w)

/-- Make them on a controller that forgets everything before each call. -/
def runAllAfresh : List (Call c α) → World α → List Answer × World α
  | [], w => ([], w)
  | call :: calls, w =>
    let (r, w) := call.run (c.forget w)
    let (rs, w) := runAllAfresh calls w
    (r :: rs, w)

/-- No call notices anything of the caches. -/
theorem oblivious (call : Call c α) : Oblivious c call.run := by
  have hc : Composable fun _ (f : World α → _ × World α) => Oblivious c f := Oblivious.composable c
  have hself : c.Distinct c := fun _ => rfl
  cases call with
  | before t =>
    exact hc.bind (Controller.oblivious_beforeTest hself t.oblivious) fun r =>
      hc.pure (Answer.phase r)
  | after t =>
    exact hc.bind (Controller.oblivious_afterTest hself t.oblivious) fun r =>
      hc.pure (Answer.phase r)
  | isRollback t =>
    exact hc.bind (Controller.oblivious_isRollback hself t) fun r => hc.pure (Answer.rollback r)
  | configurationAttributes cls =>
    exact hc.bind (Controller.oblivious_configurationAttributes hself cls) fun a =>
      hc.pure (Answer.attributes a)
  | hooksFor cls phase =>
    exact hc.bind (Controller.oblivious_hooksFor hself cls phase) fun hs =>
      hc.pure (Answer.hooks hs)
  | other f hf => exact hc.answering Answer.nothing hf

theorem oblivious_runAll (calls : List (Call c α)) : Oblivious c (runAll calls) := by
  induction calls with
  | nil => exact (Oblivious.composable c).pure []
  | cons call calls ih =>
    exact (Oblivious.composable c).bind call.oblivious fun r =>
      (Oblivious.composable c).bind ih fun rs => (Oblivious.composable c).pure (r :: rs)

/-- A controller that remembers nothing but what is declared does so after any calls. -/
theorem recalls_runAll (calls : List (Call c α)) {w : World α} (h : c.Recalls w) :
    c.Recalls (runAll calls w).2 :=
  (oblivious_runAll calls w w (.refl h)).2.recalls

/-- To forget everything between two calls is not noticed. -/
theorem twins_runAllAfresh (calls : List (Call c α)) {w w' : World α} (h : Twins c w w') :
    (runAllAfresh calls w').1 = (runAll calls w).1 ∧
      Twins c (runAll calls w).2 (runAllAfresh calls w').2 := by
  induction calls generalizing w w' with
  | nil => exact ⟨rfl, h⟩
  | cons call calls ih =>
    -- the induction is over both runs at once, the one a twin of the other after each call
    have hforgotten : Twins c w (c.forget w') := h.trans (Controller.twins_forget h.recalls')
    obtain ⟨hr, hnext⟩ := call.oblivious w (c.forget w') hforgotten
    obtain ⟨hrs, hlast⟩ := ih hnext
    refine ⟨?_, hlast⟩
    simp only [runAll, runAllAfresh, hr, hrs]

end Call

namespace Controller

/-- **Caches are transparent, and keyed by the class object.**  Whatever calls a controller has
answered, it answers to every class object, for its configuration and for its hooks, what one of
the same settings that remembers nothing answers in any world; the next call has the same answer
and the same effect as with the caches removed; and so has the whole history, when the caches are
removed before every call of it. -/
theorem caches_transparent (c : Controller) (calls : List (Call c α)) {w : World α}
    (hw : c.Blank w) :
    let w' := (Call.runAll calls w).2
    (∀ (d : Controller) (v : World α), d.config = c.config → d.Blank v → ∀ cls,
        (c.configurationAttributes cls w').1 = (d.configurationAttributes cls v).1 ∧
          ∀ phase, (c.runner.hooksFor cls phase w').1 = (d.runner.hooksFor cls phase v).1) ∧
      (∀ call : Call c α, (call.run w').1 = (call.run (c.forget w')).1 ∧
        (call.run w').2.bare = (call.run (c.forget w')).2.bare) ∧
      (Call.runAll calls w).1 = (Call.runAllAfresh calls w).1 ∧
      w'.bare = (Call.runAllAfresh calls w).2.bare := by
  intro w'
  have hstart : Twins c w w := .refl hw.recalls
  have hrecalls : c.Recalls w' := (Call.oblivious_runAll calls w w hstart).2.recalls
  refine ⟨fun d v hconfig hv cls => ⟨?_, fun phase => ?_⟩, fun call => ?_, ?_⟩
  · have hresolver : d.resolver.attributesOf cls = c.resolver.attributesOf cls := by
      simp only [ConfigurationResolver.attributesOf, resolver, hconfig]
    exact (hrecalls.resolve_fst cls).trans ((hv.recalls.resolve_fst cls).trans hresolver).symm
  · exact (hrecalls.hooksFor_fst cls phase).trans (hv.recalls.hooksFor_fst cls phase).symm
  · obtain ⟨hr, htwins⟩ := call.oblivious w' (c.forget w') (twins_forget hrecalls)
    exact ⟨hr.symm, htwins.bare.symm⟩
  · obtain ⟨hrs, htwins⟩ := Call.twins_runAllAfresh calls hstart
    exact ⟨hrs.symm, htwins.bare.symm⟩

end Controller

/-! ### Two classes of one name -/

namespace Sample

/-- A class of the same name as `suite`, with another configuration and no hook. -/
def namesake : TestClass where
  id := 7
  leaf := { suite.leaf with
    configuration := some ⟨"accounts", false⟩
    methods := [transfer] }

/-- The quiet test, which notices nothing. -/
def obliviousRun : ObliviousRun controller Unit where
  toTestRun := quietTest
  oblivious := (Oblivious.composable controller).subject fun e he => by
    rw [List.mem_singleton.1 he]
    exact (Oblivious.composable controller).pure _

end Sample

/-- After a test of one class and questions about both, each class has its own answers. -/
theorem Controller.caches_transparent_namesake :
    let calls : List (Call Sample.controller Unit) := [.before Sample.obliviousRun,
      .hooksFor Sample.namesake .beforeTransaction, .after Sample.obliviousRun,
      .configurationAttributes Sample.namesake]
    let w := (Call.runAll calls Sample.start).2
    let c := Sample.controller
    Sample.namesake.name = Sample.suite.name ∧
      (c.configurationAttributes Sample.namesake w).1 = ⟨"accounts", false⟩ ∧
      (c.configurationAttributes Sample.suite w).1 = c.config.fallback ∧
      (c.runner.hooksFor Sample.namesake .beforeTransaction w).1 = [] ∧
      (c.runner.hooksFor Sample.suite .beforeTransaction w).1.length = 1 := by
  intro calls w c
  have hblank : c.Blank Sample.start := ⟨fun _ => rfl, fun _ _ => rfl⟩
  obtain ⟨hfresh, -⟩ := caches_transparent c calls hblank
  have hname := hfresh c Sample.start rfl hblank Sample.namesake
  have hsuite := hfresh c Sample.start rfl hblank Sample.suite
  refine ⟨rfl, hname.1.trans rfl, hsuite.1.trans rfl, (hname.2 _).trans rfl, ?_⟩
  rw [hsuite.2]
  rfl

end TransactionalTest
