import TransactionalTest.Proofs.Closure

/-!
# A set-up that fails leaves nothing behind

A before-test phase can fail at many depths: the key is busy, there is no manager, a hook fails,
the manager refuses to begin, or a hook has published another context meanwhile.

* `LifecycleError.IsEarly` : the errors that arise before any hook is called;
* `Controller.lastHookReturn` : the world as the last before-hook that is called leaves it;
* `LeavesNothing` : what has begun since has been rolled back, and nothing else has changed;
* `Controller.nothing_left_behind` : what a before-test phase that fails leaves behind.
-/

namespace TransactionalTest

variable {α : Type}

/-- The error arises before any hook is called. -/
def LifecycleError.IsEarly : LifecycleError → Prop
  | .illegalState (.busy _) | .managerLookup _ | .managerNotFound _ => True
  | _ => False

/-- The error is that the key still has a test. -/
def LifecycleError.IsBusy : LifecycleError → Prop
  | .illegalState (.busy _) => True
  | _ => False

theorem HookRunner.IsBeforeError.not_isEarly {e : LifecycleError} (h : IsBeforeError e) :
    ¬ e.IsEarly :=
  match e, h with
  | .beforeHook _ _, _ | .hookInvocation _ _, _ => fun he => he

/-! ### Nothing is left behind -/

/-- What tests share: the holder, the managers and the requests made to them. -/
def World.shared (w : World α) :
    Table ExecutionKey Context × Table Manager Store × List (Manager × Status) × List Ending :=
  (w.contexts, w.stores, w.beginnings, w.endings)

theorem World.Quiet.shared {w w' : World α} (q : w.Quiet w') : w'.shared = w.shared := by
  rw [World.shared, q.contexts, q.stores, q.beginnings, q.endings, World.shared]

theorem World.frame_shared : World.Frame fun w w' : World α => w'.shared = w.shared :=
  .keeping World.shared Quiet.shared fun key hook r w => by
    simp only [shared, Prod.mk.injEq]
    exact ⟨rfl, rfl, (beginnings_record ..).trans (List.append_nil _),
      (endings_record ..).trans (List.append_nil _)⟩

/-- Every transaction that has begun since has been rolled back, whether or not the manager
reported success; otherwise holder, open transactions and committed stores are as they were. -/
structure LeavesNothing (s w : World α) : Prop where
  contexts : w.contexts = s.contexts
  opened : ∀ m, (w.store m).opened = (s.store m).opened
  committed : ∀ m, (w.store m).committed = (s.store m).committed
  undone : ∃ es : List Ending, w.beginnings = s.beginnings ++ es.map Ending.transaction ∧
    w.endings = s.endings ++ es ∧
    ∀ e ∈ es, e.rollback = true ∧ e.status.id ∈ (w.store e.manager).completed

namespace LeavesNothing

variable {s s' w w' : World α}

theorem of_shared (h : w.shared = s.shared) : LeavesNothing s w := by
  simp only [World.shared, Prod.mk.injEq] at h
  obtain ⟨hc, hs, hb, he⟩ := h
  refine ⟨hc, fun m => ?_, fun m => ?_, [], ?_, ?_, fun _ he => nomatch he⟩
  · rw [World.store, hs, World.store]
  · rw [World.store, hs, World.store]
  · rw [hb, List.map_nil, List.append_nil]
  · rw [he, List.append_nil]

theorem congr (hl : LeavesNothing s w) (hs : s.shared = s'.shared) (hw : w'.shared = w.shared) :
    LeavesNothing s' w' := by
  simp only [World.shared, Prod.mk.injEq] at hs hw
  obtain ⟨hsc, hss, hsb, hse⟩ := hs
  obtain ⟨hwc, hws, hwb, hwe⟩ := hw
  have hstore : ∀ m, s.store m = s'.store m := fun m => by rw [World.store, hss, World.store]
  have hstore' : ∀ m, w'.store m = w.store m := fun m => by rw [World.store, hws, World.store]
  obtain ⟨es, hb, he, hes⟩ := hl.undone
  refine ⟨?_, fun m => ?_, fun m => ?_, es, ?_, ?_, fun e hmem => ?_⟩
  · rw [hwc, hl.contexts, hsc]
  · rw [hstore', hl.opened, hstore]
  · rw [hstore', hl.committed, hstore]
  · rw [hwb, hb, hsb]
  · rw [hwe, he, hse]
  · rw [hstore']
    exact hes e hmem

end LeavesNothing

namespace Controller

variable {c : Controller} {t : TestRun α} {m : Manager} {a : Attribute} {w : World α}

theorem leavesNothing_refusing (m : Manager) (a : Attribute) (reason : String) (w : World α) :
    LeavesNothing w (w.refusing m a reason) := by
  have hstore : ∀ n, ((w.refusing m a reason).store n).opened = (w.store n).opened ∧
      ((w.refusing m a reason).store n).committed = (w.store n).committed := by
    intro n
    by_cases hn : n = m
    · rw [hn, World.store_refusing_self]
      exact ⟨rfl, rfl⟩
    · rw [World.store_refusing_of_ne hn]
      exact ⟨rfl, rfl⟩
  refine ⟨rfl, fun n => (hstore n).1, fun n => (hstore n).2, [], ?_, ?_, fun _ he => nomatch he⟩
  · rw [World.beginnings_refusing, List.map_nil, List.append_nil]
  · rw [World.endings_refusing, List.append_nil]

/-- A transaction that is begun and rolled back at once leaves its manager with the open
transactions and the committed store that it had. -/
theorem leavesNothing_opening_finish (hw : w.Minted) (m : Manager) (a : Attribute) {v : World α}
    (hq : (w.opening m a).Quiet v) : LeavesNothing w (v.finish m (w.nextHandle a) true).2 := by
  have hv : v.store m = _ := (hq.store m).trans (World.store_opening_self m a w)
  have hrun : (w.nextHandle a).id ∉ (v.store m).completed := by
    rw [hv]
    exact hw.not_completed m a
  have hopen : (v.store m).opened.find? (w.nextHandle a).id = some ⟨a.name, []⟩ := by
    rw [hv]
    exact Table.find?_insert_self ..
  have hr := Store.finish_released hrun hopen true
  have hself := World.store_finish_self m (w.nextHandle a) true v
  have hother : ∀ n, n ≠ m → (v.finish m (w.nextHandle a) true).2.store n = w.store n :=
    fun n hn => by rw [World.store_finish_of_ne hn, hq.store, World.store_opening_of_ne hn]
  refine ⟨hq.contexts, fun n => ?_, fun n => ?_, ⟨[⟨m, w.nextHandle a, true,
    (v.finish m (w.nextHandle a) true).1⟩], ?_, ?_, ?_⟩⟩
  · by_cases hn : n = m
    · rw [hn, hself, hr.opened, hv]
      -- the identifier is new, so that taking it out undoes putting it in
      exact Table.erase_insert_of_notMem (hw.not_opened m a) _
    · rw [hother n hn]
  · by_cases hn : n = m
    · rw [hn, hself, hr.committed, Bool.not_true, Bool.and_false, hv]
      rfl
    · rw [hother n hn]
  · rw [World.beginnings_finish, hq.beginnings, World.beginnings_opening]
    rfl
  · rw [World.endings_finish, hq.endings, World.endings_opening]
  · intro e he
    rw [List.mem_singleton.1 he]
    refine ⟨rfl, ?_⟩
    rw [hself, hr.completed]
    exact List.mem_append_right _ (List.mem_singleton.2 rfl)

/-- The transaction of a rejected context is rolled back whatever its flag. -/
theorem leavesNothing_rollBackUnpublished (hw : w.Minted) (x : Context) :
    LeavesNothing w (rollBackUnpublished (x.begun w) (x.begunWorld w)) := by
  have hrun : (w.nextHandle x.intent).id ∉ ((x.begunWorld w).store x.manager).completed := by
    rw [Context.store_begunWorld_self]
    exact hw.not_completed x.manager x.intent
  have hend := quiet_rollBackUnpublished (x := x.begun w) rfl hrun
  refine LeavesNothing.congr ?_ rfl hend.shared
  exact leavesNothing_opening_finish hw x.manager x.intent
    ((Context.quiet_begunWorld x w).trans (.report _ _))

/-- What a set-up that fails leaves behind, once its hooks are through. -/
theorem leavesNothing_setUp (hw : w.Minted)
    (ht : t.subject.Within fun w w' => w.Minted → w'.Minted) {e : LifecycleError}
    (he : (c.setUp t m a w).1 = .error e) :
    LeavesNothing (c.runner.runBefore t w).2 (c.setUp t m a w).2 := by
  have hrun := HookRunner.runBefore_within World.closed_minted.toFrame ht c.runner w hw
  have hexit := c.setUp_exit t m a w
  generalize c.setUp t m a w = out at hexit he
  cases hexit with
  | hookFailed hooks =>
    rw [hooks]
    exact .of_shared rfl
  | beginFailed hooks =>
    rw [hooks]
    exact (leavesNothing_refusing ..).congr (c.quiet_isRollback t _).shared rfl
  | @rejected w₁ hooks taken =>
    rw [hooks] at hrun ⊢
    have hq := c.quiet_isRollback t w₁
    exact (leavesNothing_rollBackUnpublished (hrun.quiet hq) _).congr hq.shared rfl
  | published => cases he

/-! ### The last hook to come back -/

/-- The world as the last before-hook of a test that is called leaves it; that before the phase
when none is called. -/
def lastHookReturn (c : Controller) (t : TestRun α) (w : World α) : World α :=
  match t.intent? with
  | none => w
  | some a =>
    let found := c.runner.hooksFor t.cls .beforeTransaction
      (c.transition t.key .transactionRequested (c.managerFor t a w).2).2
    HookRunner.lastReturn t w found.1.reverse found.2

/-- When the hooks are through, what tests share is as the last of them left it. -/
theorem shared_runBefore (hi : t.intent? = some a) {w₁ : World α}
    {r : Except LookupError (Option Manager)} (hl : c.managerFor t a w = (r, w₁))
    (hidle : c.state t.key w₁ = .idle) :
    (c.runner.runBefore t (c.requested t.key w₁)).2.shared = (c.lastHookReturn t w).shared := by
  have hreq : c.transition t.key .transactionRequested w₁ = (.ok .pending, c.requested t.key w₁) :=
    transition_of_next hidle rfl
  have hentry : (c.requested t.key w₁).shared = w.shared := by
    rw [requested, setState_eq]
    exact ((quiet_of_managerFor hl).trans (.report _ _)).shared
  simp only [lastHookReturn, hi, hl, hreq]
  exact HookRunner.lastReturn_keeps World.shared World.frame_shared t _
    ((HookRunner.quiet_hooksFor ..).shared.trans hentry)

/-- What a test that is entered with an error leaves behind. -/
theorem leavesNothing_enter (hw : w.Minted) (hs : t.subject.Within (c.KeepsState t.key))
    (ht : t.subject.Within fun w w' => w.Minted → w'.Minted) (hi : t.intent? = some a)
    {w₁ : World α} (hl : c.managerFor t a w = (.ok (some m), w₁))
    (hidle : c.state t.key w₁ = .idle) {e : LifecycleError}
    (he : (c.enter t m a w₁).1 = .error e) :
    LeavesNothing (c.lastHookReturn t w) (c.enter t m a w₁).2 ∧
      c.state t.key (c.enter t m a w₁).2 = .idle ∧ ¬ e.IsEarly := by
  have hminted : (c.requested t.key w₁).Minted := by
    rw [requested, setState_eq]
    exact World.closed_minted.states _ _ (hw.quiet ((quiet_of_managerFor hl).trans (.report _ _)))
  rcases enter_of_idle hidle hs m a with ⟨w₂, hset, henter⟩ | ⟨e', w₂, hset, henter⟩ <;>
    rw [henter] at he ⊢ <;> cases he
  have hleft := leavesNothing_setUp hminted ht (congrArg Prod.fst hset)
  rw [hset] at hleft
  refine ⟨hleft.congr (shared_runBefore hi hl hidle) ?_, state_setState_self .., ?_⟩
  · rw [setState_eq]
    exact (World.Quiet.report _ w₂).shared
  · have hexit := c.setUp_exit t m a (c.requested t.key w₁)
    rw [hset] at hexit
    cases hexit with
    | hookFailed hooks =>
      exact (HookRunner.isBeforeError_of_runBefore (congrArg Prod.fst hooks)).not_isEarly
    | beginFailed => exact fun h => h
    | rejected => exact fun h => h

/-- **A before-test phase that fails leaves nothing behind.**  If it fails before any hook is
called, only reports have been made.  If it fails later, everything is as the last hook left it,
but that a transaction has been begun, and rolled back, if a hook had published another context.
The state of the key is as before, and so `idle` unless the key was busy. -/
theorem nothing_left_behind (c : Controller) {t : TestRun α} {w : World α} (hw : w.Minted)
    (hs : t.subject.Within (c.KeepsState t.key))
    (ht : t.subject.Within fun w w' => w.Minted → w'.Minted) {e : LifecycleError}
    (he : (c.beforeTest t w).1 = .error e) :
    (e.IsEarly → w.Quiet (c.beforeTest t w).2) ∧
      (¬ e.IsEarly → LeavesNothing (c.lastHookReturn t w) (c.beforeTest t w).2) ∧
      c.state t.key (c.beforeTest t w).2 = c.state t.key w ∧
      (¬ e.IsBusy → c.state t.key (c.beforeTest t w).2 = .idle) := by
  have hexit := c.beforeTest_exit t w
  generalize c.beforeTest t w = out at hexit he
  cases hexit with
  | busy occupied quiet =>
    cases he
    exact ⟨fun _ => quiet, fun h => absurd trivial h, state_congr quiet.states,
      fun h => absurd trivial h⟩
  | undeclared => cases he
  | optedOut => cases he
  | unmanaged => cases he
  | lookupFailed free _ _ lookup =>
    cases he
    have hq := quiet_of_managerFor lookup
    exact ⟨fun _ => hq, fun h => absurd trivial h, state_congr hq.states,
      fun _ => (state_congr hq.states).trans (isBusy_eq_false.1 free).2⟩
  | notFound free _ _ lookup =>
    cases he
    have hq := quiet_of_managerFor lookup
    exact ⟨fun _ => hq, fun h => absurd trivial h, state_congr hq.states,
      fun _ => (state_congr hq.states).trans (isBusy_eq_false.1 free).2⟩
  | entered free intent _ lookup =>
    have hidle := (isBusy_eq_false.1 free).2
    have hq := quiet_of_managerFor lookup
    obtain ⟨hleft, hstate, hearly⟩ := leavesNothing_enter hw hs ht intent lookup
      ((state_congr hq.states).trans hidle) he
    exact ⟨fun h => absurd h hearly, fun _ => hleft, hstate.trans hidle.symm, fun _ => hstate⟩

/-- A hook publishes a context of its own and makes the next end fail. -/
theorem nothing_left_behind_sample :
    let other : Context := ⟨"other", Sample.accounts, {}, false, none, 0⟩
    let t := Sample.run fun w =>
      (.ok (), (w.failNextFinish Sample.accounts "disk full").setContext (.thread 0) other)
    let w' := (Sample.controller.beforeTest t Sample.start).2
    LeavesNothing (Sample.controller.lastHookReturn t Sample.start) w' ∧
      Sample.controller.state t.key w' = .idle ∧ w'.context? t.key = some other := by
  intro other t w'
  have hs : t.subject.Within (Sample.controller.KeepsState t.key) :=
    Sample.run_within (R := Sample.controller.KeepsState t.key) (fun _ => rfl) fun _ => rfl
  have hm : t.subject.Within fun w w' => w.Minted → w'.Minted :=
    Sample.run_within (fun _ h => h) fun w hw => World.closed_minted.contexts _ _
      (World.closed_minted.failNextFinish Sample.accounts "disk full" w hw)
  have he : (Sample.controller.beforeTest t Sample.start).1 = .error (.illegalState
      (.slotTakenDuringSetUp "<thread>" "AccountTest.transfer")) := rfl
  obtain ⟨-, hleft, -, hidle⟩ := nothing_left_behind Sample.controller Sample.minted_start hs hm he
  exact ⟨hleft fun h => h, hidle fun h => h, rfl⟩

end Controller

end TransactionalTest
