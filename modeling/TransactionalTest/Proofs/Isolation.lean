import TransactionalTest.Proofs.Privacy

/-!
# The phases of a test are private to its key

Both phases of a test, and the steps of its body, are private to the key of the test if its hooks
are.  They share the registry, the caches and the managers with all other tests, but the registry
is only read, the caches say nothing but what the classes declare, and of a manager a key sees no
more than that its own handles are open.

* `BodyStep.onContext`, `BodyStep.run_eq_onContext` : what a step of a body makes of a context;
* `Controller.private_launch`, `Controller.private_endTaken` : a context is started and published,
  and taken and ended;
* `Controller.private_beforeTest`, `Controller.private_afterTest` : the phases of a test.
-/

namespace TransactionalTest

variable {α β : Type}

/-! ### Steps of a body -/

namespace BodyStep

/-- The step arms a failure. -/
def arms : BodyStep → Bool
  | failNextBegin _ _ | failNextFinish _ _ => true
  | _ => false

/-- What a step answers when no context is published. -/
def unmanaged (key : ExecutionKey) : BodyStep → Outcome
  | isActive => .flagged (.ok false)
  | isFlaggedForRollback => .flagged (.error (.illegalState (.unmanaged key.display)))
  | flagForRollback | flagForCommit | finish | start =>
    .answered (.error (.illegalState (.unmanaged key.display)))
  | write _ _ => .noHandle
  | failNextBegin _ _ | failNextFinish _ _ => .done

end BodyStep

namespace Context

/-- Set the flag of a context that has a handle. -/
def reflagged (rollback : Bool) (x : Context) : Outcome × Context :=
  if x.status.isSome then (.answered (.ok ()), { x with flaggedForRollback := rollback })
  else (.answered (.error (.illegalState .flagWithoutTransaction)), x)

/-- Give up the handle. -/
def released (x : Context) : Outcome × Context :=
  match x.status with
  | some _ => (.answered (.ok ()), { x with status := none })
  | none => (.answered (.error (.illegalState .nothingToEnd)), x)

/-- Take a new handle, of which the identifier is not seen. -/
def renewed (x : Context) : Outcome × Context :=
  match x.status with
  | some _ => (.answered (.error (.illegalState .alreadyStarted)), x)
  | none => (.answered (.ok ()), { x with
      status := some (Status.ofAttribute (.serial 0) x.intent), starts := x.starts + 1 })

end Context

/-- What a step of a body answers in a calm world, and what it makes of the context, as far as the
key sees it. -/
def BodyStep.onContext (key : ExecutionKey) (step : BodyStep) :
    Option Context → Outcome × Option Context
  | none => (step.unmanaged key, none)
  | some x =>
    let (r, x) := match step with
      | isActive => (.flagged (.ok x.status.isSome), x)
      | isFlaggedForRollback => (.flagged (.ok x.flaggedForRollback), x)
      | flagForRollback => x.reflagged true
      | flagForCommit => x.reflagged false
      | finish => x.released
      | start => x.renewed
      | write _ _ => (if x.status.isSome then .requested (.ok ()) else .noHandle, x)
      | failNextBegin _ _ | failNextFinish _ _ => (.done, x)
    (r, some x)

section

variable {c : Controller} {key : ExecutionKey} {w : World α}

theorem InTest.onlyContext_withContext {ρ : Type}
    {f : Context → World α → Except LifecycleError ρ × Context × World α}
    (hf : ∀ x w, OnlyContext key w (f x w).2.2) (w : World α) :
    OnlyContext key w (withContext key f w).2 := by
  cases hx : w.context? key with
  | none =>
    rw [withContext_of_none hx]
    exact .refl key w
  | some x =>
    rw [withContext_of_some hx]
    exact (hf x w).trans (.setContext key _ _)

theorem BodyStep.onlyContext_run (step : BodyStep) (w : World α) :
    OnlyContext key w (step.run key w).2 := by
  cases step with
  | isActive | failNextBegin | failNextFinish =>
    exact ⟨⟨rfl, rfl⟩, rfl, rfl, rfl, fun _ => rfl, fun _ _ => rfl⟩
  | isFlaggedForRollback => exact InTest.onlyContext_withContext (fun _ w => .refl key w) w
  | flagForRollback | flagForCommit =>
    refine InTest.onlyContext_withContext (fun x w => ?_) w
    split <;> exact .refl key w
  | finish => exact InTest.onlyContext_withContext OnlyContext.finish w
  | start => exact InTest.onlyContext_withContext OnlyContext.start w
  | write k v =>
    simp only [run, World.writeCurrent]
    split
    · exact .refl key w
    · split
      · exact .refl key w
      · exact ⟨⟨rfl, rfl⟩, rfl, rfl, rfl, fun _ => rfl, fun _ _ => rfl⟩

/-! What the requests of a published context come to in a calm world. -/

theorem Controller.Calm.start (hw : c.Calm w) {x : Context} (hs : x.status = none) :
    x.start w = (.ok (), x.begun w, x.begunWorld w) ∧ (x.begunWorld w).Unarmed :=
  ⟨Context.start_of_unarmed hs (hw.unarmed.beginFailure x.manager),
    (hw.unarmed.opening x.manager x.intent).congr (Context.quiet_begunWorld x w).store⟩

theorem World.Unarmed.ending (h : w.Unarmed) {x : Context} {status : Status}
    (ho : w.IsOpen x.manager status) :
    (x.ending status w).1 = .ok () ∧ (x.ending status w).2.Unarmed := by
  have h' : (w.report (.transactionEnding status x.testName x.flaggedForRollback)).Unarmed :=
    h.congr fun _ => rfl
  have ho' : (w.report (.transactionEnding status x.testName x.flaggedForRollback)).IsOpen
      x.manager status := ⟨ho.opened, ho.running⟩
  exact ⟨h'.finish_fst ho' _, h'.finish ho' _⟩

theorem Controller.Calm.finish (hw : c.Calm w) {x : Context} (hx : w.context? key = some x)
    {status : Status} (hs : x.status = some status) :
    ∃ w', x.finish w = (.ok (), { x with status := none }, w') ∧ w'.Unarmed := by
  obtain ⟨hok, hunarmed⟩ := hw.unarmed.ending (hw.isOpen hx hs)
  obtain ⟨w', hq, hfin⟩ := Context.finish_of_some hs w
  rw [hok] at hfin
  exact ⟨w', hfin, hunarmed.congr hq.store⟩

theorem Controller.Calm.write (hw : c.Calm w) {x : Context} (hx : w.context? key = some x)
    {status : Status} (hs : x.status = some status) (k v : String) :
    (w.write x.manager status k v).1 = .ok () := by
  have hopen := hw.isOpen hx hs
  obtain ⟨t, ht⟩ := hopen.find?
  simp only [World.write, Store.write_of_open hopen.running ht]

/-- In a calm world a step that arms no failure does with the context what `onContext` says. -/
theorem BodyStep.run_eq_onContext (hw : c.Calm w) {step : BodyStep} (ha : step.arms = false) :
    ((step.run key w).1, ((step.run key w).2.context? key).map Context.anonymous) =
      step.onContext key ((w.context? key).map Context.anonymous) := by
  cases hx : w.context? key with
  | none =>
    cases step <;> simp [run, World.writeCurrent, InTest.isActive, InTest.isFlaggedForRollback,
      InTest.flagForRollback, InTest.flagForCommit, InTest.setFlag, InTest.finish, InTest.start,
      InTest.withContext_of_none hx, hx, onContext, unmanaged] <;> cases ha
  | some x =>
    have hactive := hw.isActive hx
    cases step with
    | failNextBegin | failNextFinish => cases ha
    | isActive =>
      simp [run, InTest.isActive, hx, hactive, onContext, Context.anonymous]
    | isFlaggedForRollback =>
      simp only [run, InTest.isFlaggedForRollback, InTest.withContext_of_some hx,
        World.context?_setContext_self]
      rfl
    | flagForRollback | flagForCommit =>
      simp only [run, InTest.flagForRollback, InTest.flagForCommit, InTest.setFlag,
        InTest.withContext_of_some hx, World.context?_setContext_self, hactive]
      cases hs : x.status <;> simp [onContext, Context.reflagged, Context.anonymous, hs]
    | finish =>
      simp only [run, InTest.finish, InTest.withContext_of_some hx, World.context?_setContext_self]
      cases hs : x.status with
      | none =>
        rw [Context.finish_of_none hs]
        simp [onContext, Context.released, Context.anonymous, hs]
      | some status =>
        obtain ⟨w', hfin, -⟩ := hw.finish hx hs
        rw [hfin]
        simp [onContext, Context.released, Context.anonymous, hs]
    | start =>
      simp only [run, InTest.start, InTest.withContext_of_some hx, World.context?_setContext_self]
      cases hs : x.status with
      | some status =>
        rw [Context.start_of_some hs]
        simp [onContext, Context.renewed, Context.anonymous, hs]
      | none =>
        rw [(hw.start hs).1]
        simp [onContext, Context.renewed, Context.anonymous, hs, Context.begun, World.nextHandle,
          Status.ofAttribute, Status.anonymous]
    | write k v =>
      simp only [run, World.writeCurrent, hx]
      cases hs : x.status with
      | none => simp [onContext, Context.anonymous, hs, hx]
      | some status =>
        have hwrite := hw.write hx hs k v
        have hslot : (w.write x.manager status k v).2.context? key = some x := hx
        simp [hwrite, hslot, onContext, Context.anonymous, hs]

/-- It arms none. -/
theorem BodyStep.unarmed_run (hw : c.Calm w) {step : BodyStep} (ha : step.arms = false) :
    (step.run key w).2.Unarmed := by
  -- on a published context, what it does to the slot does not count
  have hcontext : ∀ {ρ : Type}
      (f : Context → World α → Except LifecycleError ρ × Context × World α),
      (∀ x, w.context? key = some x → (f x w).2.2.Unarmed) →
      (InTest.withContext key f w).2.Unarmed := by
    intro ρ f hf
    cases hx : w.context? key with
    | none =>
      rw [InTest.withContext_of_none hx]
      exact hw.unarmed
    | some x =>
      rw [InTest.withContext_of_some hx]
      exact (hf x hx).congr fun _ => rfl
  cases step with
  | failNextBegin | failNextFinish => cases ha
  | isActive => exact hw.unarmed
  | isFlaggedForRollback => exact hcontext _ fun _ _ => hw.unarmed
  | flagForRollback | flagForCommit =>
    refine hcontext _ fun x _ => ?_
    split <;> exact hw.unarmed
  | finish =>
    refine hcontext _ fun x hx => ?_
    cases hs : x.status with
    | none =>
      rw [Context.finish_of_none hs]
      exact hw.unarmed
    | some status =>
      obtain ⟨w', hfin, hunarmed⟩ := hw.finish hx hs
      rw [hfin]
      exact hunarmed
  | start =>
    refine hcontext _ fun x hx => ?_
    cases hs : x.status with
    | some status =>
      rw [Context.start_of_some hs]
      exact hw.unarmed
    | none =>
      rw [(hw.start hs).1]
      exact (hw.start hs).2
  | write k v =>
    simp only [run, World.writeCurrent]
    split
    · exact hw.unarmed
    · split
      · exact hw.unarmed
      · exact hw.unarmed.write ..

end

section

variable {c : Controller} {own : ExecutionKey → α → β} {key : ExecutionKey}

/-- A step of a body that arms no failure is private to its key. -/
theorem BodyStep.private_run {step : BodyStep} (ha : step.arms = false) :
    Private c own key (step.run key) :=
  .of_onlyContext (fun w _ => step.onlyContext_run w) (fun _ hw => unarmed_run hw ha)
    (fun _ hw => (step.move hw.secure key).secure hw.secure) fun _ hw => run_eq_onContext hw ha

/-! ### Hooks -/

namespace HookRunner

theorem private_hooksFor (cls : TestClass) (phase : HookPhase) :
    Private c own key (c.runner.hooksFor cls phase : World α → List HookMethod × World α) :=
  .of_quiet (quiet_hooksFor c.runner cls phase) (fun _ hw => hw.recalls.hooksFor cls phase)
    fun _ _ hw hw' _ => (hw.recalls.hooksFor_fst cls phase).trans
      (hw'.recalls.hooksFor_fst cls phase).symm

end HookRunner

/-! ### Settings of a test -/

namespace Controller

variable {t : TestRun α}

theorem private_transactionManager (t : TestRun α) (qualifier : Option String) :
    Private c own key (c.transactionManager t qualifier) := by
  have hresolve : Private c own key (c.configurationAttributes t.cls) :=
    .of_quiet (c.resolver.quiet_resolve t.cls) (fun _ hw => hw.recalls.resolve t.cls)
      fun _ _ hw hw' _ => (hw.recalls.resolve_fst t.cls).trans (hw'.recalls.resolve_fst t.cls).symm
  refine hresolve.bind fun a => .of_quiet (World.quiet_lookup _ _ _ _)
    (fun w hw => hw.recalls.congr (w.sameCaches_lookup ..)) fun w w' _ _ hv => ?_
  exact World.lookup_fst_congr _ _ _ _ (congrArg View.registry hv)

theorem private_isRollback (t : TestRun α) : Private c own key (c.isRollback t) := by
  refine .of_quiet (c.quiet_isRollback t)
    (fun w hw => (hw.recalls.resolve t.cls).congr ⟨rfl, rfl⟩) fun w w' hw hw' _ => ?_
  simp only [isRollback, isDefaultRollback, configurationAttributes, hw.recalls.resolve_fst,
    hw'.recalls.resolve_fst]

/-! ### Before the test -/

variable {w : World α} {x : Context}

theorem launch_of_free (hw : c.Calm w) (hs : x.status = none) (hfree : w.context? key = none) :
    launch key x w = (.ok (), (x.begunWorld w).setContext key (x.begun w)) := by
  simp only [launch, (hw.start hs).1, publish, World.tryPublish, context?_begunWorld, hfree]
  rfl

theorem launch_of_taken (hw : c.Calm w) (hs : x.status = none) {y : Context}
    (hy : w.context? key = some y) : launch key x w =
      (.error (.illegalState (.slotTakenDuringSetUp key.display x.testName)),
        rollBackUnpublished (x.begun w) (x.begunWorld w)) := by
  simp only [launch, (hw.start hs).1, publish, World.tryPublish, context?_begunWorld, hy]
  rfl

/-- What a launch answers, and what becomes of the slot, as far as the key sees it. -/
def launched (key : ExecutionKey) (x : Context) :
    Option Context → Except LifecycleError Unit × Option Context
  | none => (.ok (), some { x with
      status := some (Status.ofAttribute (.serial 0) x.intent), starts := x.starts + 1 })
  | some y => (.error (.illegalState (.slotTakenDuringSetUp key.display x.testName)), some y)

/-- In a calm world a rejected context is rolled back without a failure. -/
theorem unarmed_rollBackUnpublished (hw : c.Calm w) (hs : x.status = none) :
    (rollBackUnpublished (x.begun w) (x.begunWorld w)).Unarmed := by
  have hopen := Context.isOpen_begunWorld hw.secure.minted x
  have hq := quiet_rollBackUnpublished (x := x.begun w) rfl hopen.running
  exact ((hw.start hs).2.ending (x := { x.begun w with flaggedForRollback := true })
    hopen).2.congr hq.store

theorem private_launch (hs : x.status = none) :
    Private c own key (launch key x : World α → Except LifecycleError Unit × World α) := by
  -- each of the four parts for a free slot and for a taken one
  refine .of_onlyContext (F := launched key x) (fun w hw => ?_) (fun w hw => ?_) (fun w hw => ?_)
    fun w hw => ?_ <;> rcases hx : w.context? key with _ | y
  · rw [launch_of_free hw hs hx]
    exact (OnlyContext.begunWorld x w).trans (.setContext key _ _)
  · rw [launch_of_taken hw hs hx]
    exact (OnlyContext.begunWorld x w).trans (.rollBackUnpublished _ _)
  · rw [launch_of_free hw hs hx]
    exact (hw.start hs).2.congr fun _ => rfl
  · rw [launch_of_taken hw hs hx]
    exact unarmed_rollBackUnpublished hw hs
  · rw [launch_of_free hw hs hx]
    exact (Context.move_begun hw.secure.minted (World.held_of_free hx) x).secure hw.secure
  · obtain ⟨e, hfresh, hproper, hledger⟩ := ledger_rollBackUnpublished hw.secure.minted x
    rw [launch_of_taken hw hs hx, hledger]
    exact hw.secure.discarded hfresh
  · rw [launch_of_free hw hs hx, World.context?_setContext_self]
    rfl
  · have hslot : (rollBackUnpublished (x.begun w) (x.begunWorld w)).context? key = some y :=
      ((sameSlots_rollBackUnpublished ..).context? key).trans hx
    rw [launch_of_taken hw hs hx, hslot]
    rfl

theorem private_isBusy (key : ExecutionKey) :
    Private c own key fun w : World α => (c.isBusy key w, w) := by
  refine .look fun w w' _ _ hv => ?_
  have hcontext : ∀ w : World α, (c.view own key w).context.isSome = (w.context? key).isSome :=
    fun w => Option.isSome_map
  have hstate : c.state key w = c.state key w' := congrArg View.state hv
  rw [isBusy, isBusy, ← hcontext, ← hcontext, hv, hstate]

/-! ### After the test -/

/-- In a calm world the transaction of a taken context is ended without a failure. -/
theorem Calm.finishTaken (hw : c.Calm w) (hx : w.context? t.key = some x) :
    (finishTaken t x (taken t w)).1 = .ok () ∧ (finishTaken t x (taken t w)).2.Unarmed := by
  have hunarmed : (taken t w).Unarmed := hw.unarmed.congr fun _ => rfl
  cases hs : x.status with
  | none =>
    rw [finishTaken_of_inactive (by simp [Context.isActive, hs])]
    exact ⟨rfl, hunarmed.congr fun _ => rfl⟩
  | some status =>
    have hopen : (taken t w).IsOpen x.manager status :=
      ⟨(hw.isOpen hx hs).opened, (hw.isOpen hx hs).running⟩
    obtain ⟨hok, hended⟩ := hunarmed.ending hopen
    obtain ⟨w', hq, hfin⟩ := finishTaken_of_active (t := t) hs hopen.running
    rw [hfin, hok]
    exact ⟨rfl, hended.congr hq.store⟩

theorem onlyContext_taken (t : TestRun α) (w : World α) : OnlyContext t.key w (taken t w) where
  toSameCaches := ⟨rfl, rfl⟩
  registry := rfl
  states := rfl
  app := rfl
  callsFor :=
    (World.Quiet.report (.phaseEntered Operation.afterTest t.name t.key.display) w).callsFor
  others _ hj := Table.find?_erase_of_ne hj w.contexts

theorem onlyContext_finishTaken (t : TestRun α) (x : Context) (w : World α) :
    OnlyContext key w (finishTaken t x w).2 := by
  have hcaches := sameCaches_finishTaken t x w
  by_cases ha : x.isActive w = true
  · obtain ⟨status, hs, hc⟩ := Context.isActive_iff.1 ha
    obtain ⟨w', hq, h⟩ := finishTaken_of_active (t := t) hs hc
    rw [h] at hcaches ⊢
    exact (OnlyContext.ending x status w).of_caches hq hcaches
  · rw [finishTaken_of_inactive (by simpa using ha)] at hcaches ⊢
    exact (OnlyContext.refl key w).of_caches (.report _ w) hcaches

theorem private_endTaken (t : TestRun α) :
    Private c own t.key (endTaken t : World α → Option (Except LifecycleError Unit) × World α) := by
  have hslot : ∀ w : World α, (taken t w).context? t.key = none := fun w =>
    Table.find?_erase_self t.key w.contexts
  -- each of the four parts without a context and with one
  refine .of_onlyContext (F := fun x => (x.map fun _ => .ok (), none)) (fun w hw => ?_)
    (fun w hw => ?_) (fun w hw => ?_) fun w hw => ?_ <;> unfold endTaken <;>
    rcases hx : w.context? t.key with _ | x <;> simp only
  · exact onlyContext_taken t w
  · exact (onlyContext_taken t w).trans (onlyContext_finishTaken t x _)
  · exact hw.unarmed.congr fun _ => rfl
  · exact (hw.finishTaken hx).2
  · have hheld : w.ledger.held t.key = none := World.held_of_free hx
    rw [ledger_taken, ← hheld, Ledger.hold_held]
    exact hw.secure
  · exact (move_finishTaken hw.secure hx).1.secure hw.secure
  · rw [hslot]
    rfl
  · rw [(hw.finishTaken hx).1, (sameSlots_finishTaken t x _).context?, hslot]
    rfl

/-! ### Both phases -/

theorem private_steps (ht : ∀ hook, Private c own t.key (t.subject hook)) :
    c.Steps t fun _ f => Private c own t.key f where
  toComposable := Private.composable
  report event _ := Private.report event
  hook := ht
  invoked := Private.invoked
  hooksFor := HookRunner.private_hooksFor t.cls
  isRollback := private_isRollback t
  transactionManager := private_transactionManager t
  isBusy := private_isBusy t.key
  state := .look fun _ _ _ _ hv => congrArg View.state hv
  setState := Private.setState
  launch _ hs := private_launch hs
  endTaken := private_endTaken t

/-- The before-test phase of a test with private hooks is private to its key. -/
theorem private_beforeTest (ht : ∀ hook, Private c own t.key (t.subject hook)) :
    Private c own t.key (c.beforeTest t) :=
  (private_steps ht).beforeTest

/-- The after-test phase of a test with private hooks is private to its key. -/
theorem private_afterTest (ht : ∀ hook, Private c own t.key (t.subject hook)) :
    Private c own t.key (c.afterTest t) :=
  (private_steps ht).afterTest

end Controller

end

end TransactionalTest
