import TransactionalTest.Proofs.HookCauses
import TransactionalTest.Proofs.Journal
import TransactionalTest.Proofs.Reentrancy

/-!
# Failures and the log

More than one thing can fail in a phase of a test, and the phase answers one error.  What the error
does not carry is in the log: the hook runner reports every failed hook, and the controller reports
a failed end that nobody else hears of.

* `World.proceedings` : the chronicle without the reports that are no errors;
* `HookCall.account` : the proceedings of one call of a hook;
* `HookRunner.proceedings_callUntilFailure`, `HookRunner.proceedings_callAll` : those of the calls;
* `Controller.Asks` : what a before-test phase asks of the manager when its hooks are through;
* `Controller.StaysOut` : hooks that run no phase of the controller on the key of their test;
* `Controller.Admits` : the before-test phases that come to run their hooks;
* `Controller.proceedings_beforeTest`, `Controller.proceedings_afterTest` : those of the phases;
* `Controller.failures_told` : every failure is answered or reported, and nothing is reported that
  has not failed.
-/

namespace TransactionalTest

variable {α : Type}

/-! ### Proceedings -/

/-- The entry is a report, and not of an error. -/
def Occurrence.isRemark : Occurrence → Bool
  | reported event => event.level != .error
  | _ => false

namespace World

variable {w w' : World α}

/-- Requests to managers, calls of hooks and reports of errors: the chronicle without remarks. -/
def proceedings (w : World α) : List Occurrence := w.chronicle.filter fun o => !o.isRemark

theorem proceedings_record {o : Occurrence} (h : o.isRemark = false) (w : World α) :
    (w.record o).proceedings = w.proceedings ++ [o] := by
  simp [proceedings, record, h]

theorem proceedings_report {event : LogEvent} (h : (Occurrence.reported event).isRemark = true)
    (w : World α) : (w.report event).proceedings = w.proceedings := by
  simp [proceedings, report, record, h]

theorem proceedings_managerByName (name : String) (w : World α) :
    (w.managerByName name).2.proceedings = w.proceedings := by
  unfold managerByName
  simp only
  split
  · exact proceedings_report rfl w
  · rfl

theorem proceedings_lookup (strict : Bool) (test : String) (qualifier : Option String)
    (name : String) (w : World α) :
    (w.lookup strict test qualifier name).2.proceedings = w.proceedings := by
  have hn := w.proceedings_managerByName name
  unfold lookup
  split
  · split
    · rfl
    · exact proceedings_report rfl w
  · split <;> rename_i h <;> rw [h] at hn
    · exact hn
    · exact hn
    · split
      · exact hn
      · exact (proceedings_report rfl _).trans hn

end World

theorem Appends.proceedings {w w' : World α} (h : Appends w w') :
    w.proceedings <+: w'.proceedings :=
  List.IsPrefix.filter _ h

theorem ConfigurationResolver.proceedings_resolve (r : ConfigurationResolver) (c : TestClass)
    (w : World α) : (r.resolve c w).2.proceedings = w.proceedings := by
  unfold resolve
  split
  · rfl
  · exact (World.proceedings_report rfl _).trans (World.proceedings_report rfl w)

theorem HookRunner.proceedings_hooksFor (r : HookRunner) (c : TestClass) (phase : HookPhase)
    (w : World α) : (r.hooksFor c phase w).2.proceedings = w.proceedings := by
  unfold hooksFor
  split
  · rfl
  · exact World.proceedings_report rfl w

namespace Context

variable {x : Context} {status : Status} {w : World α}

theorem proceedings_begunWorld (x : Context) (w : World α) : (x.begunWorld w).proceedings =
    w.proceedings ++ [.begun x.manager x.intent (.ok (w.nextHandle x.intent))] :=
  (World.proceedings_report rfl _).trans (World.proceedings_record rfl _)

theorem proceedings_refusing (m : Manager) (a : Attribute) (reason : String) (w : World α) :
    (w.refusing m a reason).proceedings =
      w.proceedings ++ [.begun m a (.error (.begin reason))] :=
  World.proceedings_record rfl _

/-- That an end is asked for and that it is granted are remarks. -/
theorem proceedings_finish (hs : x.status = some status) (w : World α) :
    (x.finish w).2.2.proceedings =
      w.proceedings ++ [.finished x.manager status x.flaggedForRollback (x.ending status w).1] := by
  have hasked : (w.report (.transactionEnding status x.testName x.flaggedForRollback)).proceedings =
      w.proceedings := World.proceedings_report rfl w
  have hending : (x.ending status w).2.proceedings =
      w.proceedings ++ [.finished x.manager status x.flaggedForRollback (x.ending status w).1] := by
    rw [← hasked]
    exact World.proceedings_record rfl _
  rw [finish_snd hs, ← hending]
  split
  · exact World.proceedings_report rfl _
  · rfl

end Context

/-! ### Calls of hooks -/

namespace HookCall

theorem any_failed_iff {ys : List (HookCall α)} :
    ys.any failed = true ↔ ∃ y r, FirstFailed ys y r := by
  constructor
  · intro h
    obtain ⟨y, hy⟩ := Option.isSome_iff_exists.1 (List.find?_isSome.2 (List.any_eq_true.1 h))
    have hfailed := List.find?_some hy
    rcases hr : y.answer with r | _
    · exact ⟨y, r, hy, hr⟩
    · simp [failed, hr, Except.isOk, Except.toBool] at hfailed
  · rintro ⟨y, r, hy⟩
    exact List.any_eq_true.2 ⟨y, hy.mem, List.find?_some hy.1⟩

/-- What the hook runner reports about a call: its failure, with the hook and the test. -/
def alarm? (operation : String) (t : TestRun α) (y : HookCall α) : Option LogEvent :=
  match y.answer with
  | .ok () => none
  | .error e =>
    some (.failure "hook_runner" operation e.message (some (y.hook.display ++ " for " ++ t.name)))

/-- The proceedings of a call: what the hook does itself, that it was called, and its failure. -/
def account (operation : String) (t : TestRun α) (y : HookCall α) : List Occurrence :=
  y.back.proceedings.drop y.entry.proceedings.length ++
    .invoked t.key y.hook y.answer :: (y.alarm? operation t).toList.map .reported

end HookCall

namespace HookRunner

variable {t : TestRun α} {w : World α}

/-- The call of a hook in this world. -/
def made (operation : String) (t : TestRun α) (hook : HookMethod) (w : World α) : HookCall α where
  hook := hook
  entry := w.report (.hook operation t.name hook.display)
  answer := (t.subject hook (w.report (.hook operation t.name hook.display))).1
  back := (t.subject hook (w.report (.hook operation t.name hook.display))).2

section

variable (ht : t.subject.Within Appends)
include ht

theorem proceedings_call (operation : String) (hook : HookMethod) (w : World α) :
    (call operation t hook w).2.proceedings =
      w.proceedings ++ (made operation t hook w).account operation t := by
  have hback : (made operation t hook w).back.proceedings = w.proceedings ++
      (made operation t hook w).back.proceedings.drop
        (made operation t hook w).entry.proceedings.length := by
    -- a hook undoes nothing, so that what it finds is the first part of what it leaves
    have hentry : (made operation t hook w).entry.proceedings = w.proceedings :=
      World.proceedings_report rfl w
    obtain ⟨os, hos⟩ := (ht hook (made operation t hook w).entry).proceedings
    rw [hentry] at hos ⊢
    rw [show (made operation t hook w).back.proceedings = w.proceedings ++ os from hos.symm,
      List.drop_left]
  rw [HookCall.account, ← List.append_assoc, ← hback]
  unfold call HookCall.alarm? made
  simp only
  split <;> rename_i hr <;> rw [hr]
  · exact World.proceedings_record rfl _
  · rw [World.report, World.proceedings_record rfl, World.proceedings_record rfl]
    exact List.append_assoc ..

/-- The proceedings of before-hooks are those of the calls that are made. -/
theorem proceedings_callUntilFailure (hooks : List HookMethod) (w : World α) :
    (callUntilFailure t hooks w).2.proceedings = w.proceedings ++
      (trials t hooks w).flatMap (HookCall.account Operation.beforeTransactionHook t) := by
  induction hooks generalizing w with
  | nil => exact (List.append_nil _).symm
  | cons hook hooks ih =>
    have hcall := proceedings_call ht Operation.beforeTransactionHook hook w
    unfold callUntilFailure trials
    rcases hc : call Operation.beforeTransactionHook t hook w with ⟨r | _, w₁⟩ <;>
      rw [hc] at hcall <;> simp only
    · rw [hcall, List.flatMap_cons, List.flatMap_nil, List.append_nil]
      rfl
    · rw [ih, hcall, List.flatMap_cons, List.append_assoc]
      rfl

/-- So are those of after-hooks. -/
theorem proceedings_callAll (hooks : List HookMethod) (w : World α) :
    (callAll t hooks w).2.proceedings = w.proceedings ++
      (calls t hooks w).flatMap (HookCall.account Operation.afterTransactionHook t) := by
  induction hooks generalizing w with
  | nil => exact (List.append_nil _).symm
  | cons hook hooks ih =>
    rw [callAll_cons_snd, ih, proceedings_call ht, calls, List.flatMap_cons, List.append_assoc]
    rfl

end

end HookRunner

/-! ### The before-test phase -/

namespace Controller

variable {c : Controller} {t : TestRun α} {m : Manager} {a : Attribute} {w w₁ : World α}

theorem proceedings_isRollback (c : Controller) (t : TestRun α) (w : World α) :
    (c.isRollback t w).2.proceedings = w.proceedings := by
  refine Eq.trans ?_ (c.resolver.proceedings_resolve t.cls w)
  unfold isRollback
  simp only
  cases t.cls.rollbackOf? t.method with
  | none => exact World.proceedings_report rfl _
  | some rollback => exact World.proceedings_report rfl _

theorem proceedings_managerFor (c : Controller) (t : TestRun α) (a : Attribute) (w : World α) :
    (c.managerFor t a w).2.proceedings = w.proceedings := by
  have hasked : (asked t a w).proceedings = w.proceedings :=
    (World.proceedings_report rfl _).trans (World.proceedings_report rfl w)
  exact (World.proceedings_lookup ..).trans ((c.resolver.proceedings_resolve ..).trans hasked)

theorem proceedings_setState (c : Controller) (key : ExecutionKey) (s : LifecycleState)
    (w : World α) : (c.setState key s w).proceedings = w.proceedings := by
  rw [setState_eq]
  rfl

theorem proceedings_transition (c : Controller) (key : ExecutionKey) (event : LifecycleEvent)
    (w : World α) : (c.transition key event w).2.proceedings = w.proceedings := by
  rcases c.transition_cases key event w with ⟨target, -, h⟩ | h
  · rw [h, proceedings_setState]
    exact World.proceedings_report rfl w
  · rw [h]

theorem proceedings_requested (c : Controller) (key : ExecutionKey) (w : World α) :
    (c.requested key w).proceedings = w.proceedings := by
  rw [requested, proceedings_setState]
  exact World.proceedings_report rfl w

/-- The report that a context could not be rolled back after it had found its slot taken. -/
def undoAlarm (test : String) (e : TransactionError) : LogEvent :=
  .failure "lifecycle_controller" Operation.beforeTest
    (LifecycleError.transactionEnd test e).message
    (some ("rolling back unpublished transaction for " ++ test))

/-- A request of a before-test phase, and the report of it if it is an end that failed. -/
def told (test : String) : Occurrence → List Occurrence
  | .finished m status rollback (.error e) =>
    [.finished m status rollback (.error e), .reported (undoAlarm test e)]
  | o => [o]

/-- What a before-test phase asks of the manager when its hooks are through: nothing, or to begin;
and to roll back again, when the slot is taken.  If it is refused a begin, it answers that. -/
inductive Asks (t : TestRun α) : Except LifecycleError Unit → List Occurrence → Prop
  | nothing {r : Except LifecycleError Unit} : Asks t r []
  | refused {m : Manager} {a : Attribute} {e : TransactionError} (intent : t.intent? = some a) :
      Asks t (.error (.transactionStart t.name e)) [.begun m a (.error e)]
  | begun {m : Manager} {a : Attribute} {status : Status} {r : Except LifecycleError Unit}
      (intent : t.intent? = some a) : Asks t r [.begun m a (.ok status)]
  | undone {m : Manager} {a : Attribute} {status : Status} {r : Except LifecycleError Unit}
      {outcome : Except TransactionError Unit} (intent : t.intent? = some a) :
      Asks t r [.begun m a (.ok status), .finished m status true outcome]

theorem proceedings_rollBackUnpublished (x : Context) (w : World α) :
    (rollBackUnpublished x w).proceedings = w.proceedings ∨ ∃ status outcome,
      x.status = some status ∧ (rollBackUnpublished x w).proceedings =
        w.proceedings ++ told x.testName (.finished x.manager status true outcome) := by
  unfold rollBackUnpublished
  by_cases ha : x.isActive w = true
  · rw [if_pos ha]
    obtain ⟨status, hs, -⟩ := Context.isActive_iff.1 ha
    have hfin := Context.proceedings_finish (x := { x with flaggedForRollback := true }) hs w
    obtain ⟨w', -, hanswer⟩ :=
      Context.finish_of_some (c := { x with flaggedForRollback := true }) hs w
    generalize (Context.ending { x with flaggedForRollback := true } status w).1 = outcome
      at hfin hanswer
    refine .inr ⟨status, outcome, hs, ?_⟩
    rw [hanswer] at hfin ⊢
    rcases outcome with e | _
    · exact (World.proceedings_record rfl _).trans (by rw [hfin, List.append_assoc]; rfl)
    · exact hfin
  · rw [if_neg ha]
    exact .inl rfl

/-- Whatever becomes of a set-up, its requests come after its hooks. -/
theorem proceedings_setUp (intent : t.intent? = some a) (m : Manager) (w : World α) :
    ∃ requests, Asks t (c.setUp t m a w).1 requests ∧ (c.setUp t m a w).2.proceedings =
      (c.runner.runBefore t w).2.proceedings ++ requests.flatMap (told t.name) := by
  have hexit := c.setUp_exit t m a w
  generalize c.setUp t m a w = out at hexit
  cases hexit with
  | hookFailed hooks =>
    rw [hooks]
    exact ⟨[], .nothing, (List.append_nil _).symm⟩
  | @beginFailed w₁ reason hooks =>
    rw [hooks, Context.proceedings_refusing, proceedings_isRollback]
    exact ⟨_, .refused intent, rfl⟩
  | @rejected w₁ hooks =>
    -- the context holds the handle of the begin, so this is what it gives back
    have hbegun := (c.freshContext t m a w₁).proceedings_begunWorld (c.isRollback t w₁).2
    rw [proceedings_isRollback] at hbegun
    rw [hooks]
    rcases proceedings_rollBackUnpublished ((c.freshContext t m a w₁).begun (c.isRollback t w₁).2)
      ((c.freshContext t m a w₁).begunWorld (c.isRollback t w₁).2) with h | ⟨status, outcome, hs, h⟩
    · rw [h, hbegun]
      exact ⟨_, .begun intent, rfl⟩
    · cases hs
      rw [h, hbegun, List.append_assoc]
      refine ⟨[.begun m a (.ok (World.nextHandle a (c.isRollback t w₁).2)),
        .finished m (World.nextHandle a (c.isRollback t w₁).2) true outcome], .undone intent, ?_⟩
      rw [List.flatMap_cons, List.flatMap_cons, List.flatMap_nil, List.append_nil]
      rfl
  | @published w₁ hooks =>
    have hbegun := (c.freshContext t m a w₁).proceedings_begunWorld (c.isRollback t w₁).2
    rw [proceedings_isRollback] at hbegun
    rw [hooks]
    exact ⟨_, .begun intent, hbegun⟩

/-- A failed before-hook ends a set-up. -/
theorem setUp_of_runBefore_error {e : LifecycleError}
    (h : c.runner.runBefore t w = (.error e, w₁)) : c.setUp t m a w = (.error e, w₁) := by
  simp only [setUp, openTransaction, h]

/-- The hooks leave the state of the key on this controller as it is, and undo nothing of what has
happened; so it is with hooks that run no phase of the controller on the key. -/
structure StaysOut (c : Controller) (key : ExecutionKey) (w w' : World α) : Prop where
  state : c.KeepsState key w w'
  appends : Appends w w'

theorem frame_staysOut (c : Controller) (key : ExecutionKey) :
    World.Frame (c.StaysOut key : World α → World α → Prop) where
  refl w := ⟨rfl, frame_appends.refl w⟩
  trans h h' := ⟨(c.frame_keepsState key).trans h.state h'.state,
    frame_appends.trans h.appends h'.appends⟩
  quiet q := ⟨(c.frame_keepsState key).quiet q, frame_appends.quiet q⟩
  invoked k hook r w := ⟨rfl, frame_appends.invoked k hook r w⟩

/-- Between its two transitions, entering a test is its set-up. -/
theorem proceedings_enter (hidle : c.state t.key w = .idle) (m : Manager) (a : Attribute) :
    (c.enter t m a w).2.proceedings = (c.setUp t m a (c.requested t.key w)).2.proceedings := by
  rcases hset : c.setUp t m a (c.requested t.key w) with ⟨e | _, w₂⟩
  · obtain ⟨e', he⟩ := enter_of_setUp_error hidle hset
    rw [he]
    exact c.proceedings_transition ..
  · rw [enter_of_setUp_ok hidle hset]
    exact c.proceedings_transition ..

theorem enter_fst (hidle : c.state t.key w = .idle) (ht : t.subject.Within (c.KeepsState t.key))
    (m : Manager) (a : Attribute) :
    (c.enter t m a w).1 = (c.setUp t m a (c.requested t.key w)).1 := by
  rcases enter_of_idle hidle ht m a with ⟨w₁, hset, he⟩ | ⟨e, w₁, hset, he⟩ <;> rw [hset, he]

/-- A before-test phase admits its test: the key is free, and the manager has been found when the
world has become `w₁`. -/
structure Admits (c : Controller) (t : TestRun α) (m : Manager) (a : Attribute)
    (w w₁ : World α) : Prop where
  free : c.isBusy t.key w = false
  intent : t.intent? = some a
  inside : a.propagation.optsOut = false
  lookup : c.managerFor t a w = (.ok (some m), w₁)

namespace Admits

variable (h : c.Admits t m a w w₁)
include h

theorem idle : c.state t.key w₁ = .idle :=
  (state_congr (quiet_of_managerFor h.lookup).states).trans (isBusy_eq_false.1 h.free).2

theorem beforeTest : c.beforeTest t w = c.enter t m a w₁ :=
  beforeTest_of_found (isBusy_eq_false.1 h.free).1 (isBusy_eq_false.1 h.free).2 h.intent h.inside
    h.lookup

theorem proceedings : (c.requested t.key w₁).proceedings = w.proceedings := by
  have hfound := c.proceedings_managerFor t a w
  rw [h.lookup] at hfound
  exact (c.proceedings_requested t.key w₁).trans hfound

/-- The proceedings of the hooks, on a key that has been requested. -/
theorem proceedings_hooks (ht : t.subject.Within Appends) :
    (c.runner.runBefore t (c.requested t.key w₁)).2.proceedings = w.proceedings ++
      (c.beforeCalls t w).flatMap (HookCall.account Operation.beforeTransactionHook t) := by
  have hrun := HookRunner.proceedings_callUntilFailure ht
    (c.runner.hooksFor t.cls .beforeTransaction (c.requested t.key w₁)).1.reverse
    (c.runner.hooksFor t.cls .beforeTransaction (c.requested t.key w₁)).2
  rw [HookRunner.proceedings_hooksFor, h.proceedings] at hrun
  rw [beforeCalls_of_entered h.free h.intent h.inside h.lookup]
  exact hrun

end Admits

/-- A before-test phase that does not admit its test calls no hook and asks for nothing. -/
theorem admits_or_uneventful (c : Controller) (t : TestRun α) (w : World α) :
    (∃ m a w₁, c.Admits t m a w w₁) ∨
      c.beforeCalls t w = [] ∧ (c.beforeTest t w).2.proceedings = w.proceedings := by
  -- every exit before the hooks makes reports only, and none of them is of an error
  let entered := w.report (.phaseEntered Operation.beforeTest t.name t.key.display)
  have hentered : entered.proceedings = w.proceedings := World.proceedings_report rfl w
  by_cases hb : c.isBusy t.key w = true
  · rw [beforeCalls, if_pos hb, beforeTest, if_pos (show c.isBusy t.key entered = true from hb)]
    exact .inr ⟨rfl, hentered⟩
  · rw [beforeCalls, if_neg hb, beforeTest, if_neg (show ¬ c.isBusy t.key entered = true from hb)]
    cases hi : t.intent? with
    | none => exact .inr ⟨rfl, (World.proceedings_report rfl _).trans hentered⟩
    | some a =>
      simp only
      by_cases ho : a.propagation.optsOut = true
      · rw [if_pos ho, if_pos ho]
        exact .inr ⟨rfl, (World.proceedings_report rfl _).trans
          ((World.proceedings_report rfl _).trans hentered)⟩
      · rw [if_neg ho, if_neg ho]
        have hfound := c.proceedings_managerFor t a w
        rcases hl : c.managerFor t a w with ⟨e | (_ | m), w₁⟩ <;> rw [hl] at hfound
        · simp only [managerFor, asked] at hl
          simp only [hl]
          exact .inr ⟨trivial, hfound⟩
        · simp only [managerFor, asked] at hl
          simp only [hl]
          refine .inr ⟨trivial, ?_⟩
          split
          · exact hfound
          · exact (World.proceedings_report rfl _).trans hfound
        · exact .inl ⟨m, a, w₁, by simpa using hb, hi, by simpa using ho, hl⟩

/-- The proceedings of a before-test phase are those of its hooks, and then its requests; and if a
hook fails it asks for nothing and answers with that failure. -/
theorem proceedings_beforeTest (ht : t.subject.Within (c.StaysOut t.key)) (w : World α) :
    ∃ requests, Asks t (c.beforeTest t w).1 requests ∧
      (c.beforeTest t w).2.proceedings = w.proceedings ++
        (c.beforeCalls t w).flatMap (HookCall.account Operation.beforeTransactionHook t) ++
        requests.flatMap (told t.name) ∧
      ∀ y r, HookCall.FirstFailed (c.beforeCalls t w) y r → requests = [] ∧
        (c.beforeTest t w).1 = .error (HookRunner.beforeError y.hook r) := by
  rcases c.admits_or_uneventful t w with ⟨m, a, w₁, hadmits⟩ | ⟨hcalls, hworld⟩
  · have hhooks := hadmits.proceedings_hooks (ht.mono fun _ _ h => h.appends)
    rw [hadmits.beforeTest, enter_fst hadmits.idle (ht.mono fun _ _ h => h.state),
      proceedings_enter hadmits.idle, ← hhooks]
    by_cases hfail : ∃ y r, HookCall.FirstFailed (c.beforeCalls t w) y r
    · obtain ⟨y, r, hy⟩ := hfail
      have hrun : (c.runner.runBefore t (c.requested t.key w₁)).1 =
          .error (HookRunner.beforeError y.hook r) := by
        rw [beforeCalls_of_entered hadmits.free hadmits.intent hadmits.inside hadmits.lookup] at hy
        exact HookRunner.callUntilFailure_error.2 ⟨y, r, hy, rfl⟩
      rw [setUp_of_runBefore_error (Prod.ext hrun rfl)]
      refine ⟨[], .nothing, (List.append_nil _).symm, fun y' r' hy' => ⟨rfl, ?_⟩⟩
      obtain rfl := Option.some.inj (hy.1.symm.trans hy'.1)
      rw [Except.error.inj (hy.2.symm.trans hy'.2)]
    · obtain ⟨requests, hasks, hworld⟩ :=
        proceedings_setUp hadmits.intent m (c.requested t.key w₁)
      exact ⟨requests, hasks, hworld, fun y r hy => absurd ⟨y, r, hy⟩ hfail⟩
  · refine ⟨[], .nothing, ?_, fun y r hy => ?_⟩
    · rw [hworld, hcalls]
      simp
    · rw [hcalls] at hy
      cases hy.mem

/-! ### The after-test phase -/

theorem proceedings_finishTaken (t : TestRun α) (x : Context) (w : World α) :
    (finishTaken t x w).2.proceedings =
      w.proceedings ++ ((x.due? w).map Ending.occurrence).toList := by
  unfold finishTaken Context.due?
  by_cases ha : x.isActive w = true
  · obtain ⟨status, hs, -⟩ := Context.isActive_iff.1 ha
    rw [if_pos ha, if_pos ha, hs]
    exact Context.proceedings_finish hs w
  · rw [if_neg ha, if_neg ha]
    exact (World.proceedings_report rfl w).trans (List.append_nil _).symm

/-- The report that the end of a context's transaction has failed, which nobody is told because a
hook has failed, too. -/
def endAlarm (t : TestRun α) (e : LifecycleError) : LogEvent :=
  .failure "lifecycle_controller" Operation.afterTest e.message
    (some ("superseded by after-transaction hook failure in " ++ t.name))

/-- The answer about the hooks comes before that about the end, which is then reported. -/
theorem settle_of_hooks_error (t : TestRun α) (ended finished : Except LifecycleError Unit)
    (h : LifecycleError) (w : World α) :
    (settle t ended (.error h) finished w).1 = .error h ∧
      (settle t ended (.error h) finished w).2.proceedings = w.proceedings ++ match ended with
        | .error e => [.reported (endAlarm t e)]
        | .ok () => [] := by
  cases ended
  · exact ⟨rfl, World.proceedings_record rfl w⟩
  · exact ⟨rfl, (List.append_nil _).symm⟩

theorem settle_of_hooks_ok (t : TestRun α) (ended finished : Except LifecycleError Unit)
    (w : World α) :
    (∀ e, ended = .error e → (settle t ended (.ok ()) finished w).1 = .error e) ∧
      (settle t ended (.ok ()) finished w).2.proceedings = w.proceedings := by
  cases ended
  · exact ⟨fun _ h => h, rfl⟩
  · exact ⟨nofun, rfl⟩

/-- Without a context an after-test phase does nothing. -/
theorem proceedings_afterTest_of_none (h : w.context? t.key = none) :
    (c.afterTest t w).2.proceedings = w.proceedings := by
  rw [afterTest_of_none h, proceedings_setState]
  exact World.proceedings_report rfl w

/-- With one, the end that is due is asked for, and the hooks are called. -/
theorem proceedings_teardown (ht : t.subject.Within Appends) (x : Context) (w : World α) :
    (c.runner.runAfter t (finishTaken t x (taken t w)).2).2.proceedings = w.proceedings ++
      ((x.due? w).map Ending.occurrence).toList ++
      (c.afterCalls t x w).flatMap (HookCall.account Operation.afterTransactionHook t) := by
  have htaken : (taken t w).proceedings = w.proceedings := World.proceedings_report rfl w
  unfold HookRunner.runAfter
  simp only
  rw [HookRunner.proceedings_callAll ht, HookRunner.proceedings_hooksFor, proceedings_finishTaken,
    htaken]
  rfl

/-- The report about a failed end, if one of these calls has failed, too. -/
def endAlarm? (t : TestRun α) (ended : Except LifecycleError Unit) (calls : List (HookCall α)) :
    Option LogEvent :=
  match ended with
  | .error e => if calls.any HookCall.failed then some (endAlarm t e) else none
  | .ok () => none

/-- An after-test phase answers the failure of the first hook that failed, else that of the end;
and what it does not answer it reports. -/
theorem proceedings_afterTest (ht : t.subject.Within Appends) {x : Context}
    (hx : w.context? t.key = some x) :
    (c.afterTest t w).2.proceedings = w.proceedings ++
        ((x.due? w).map Ending.occurrence).toList ++
        (c.afterCalls t x w).flatMap (HookCall.account Operation.afterTransactionHook t) ++
        ((endAlarm? t (endAnswer x (x.due? w)) (c.afterCalls t x w)).map .reported).toList ∧
      (∀ y r, HookCall.FirstFailed (c.afterCalls t x w) y r →
        (c.afterTest t w).1 = .error (.afterHook y.hook.display r.toFailure)) ∧
      ((∀ y ∈ c.afterCalls t x w, y.answer = .ok ()) →
        ∀ e, endAnswer x (x.due? w) = .error e → (c.afterTest t w).1 = .error e) := by
  have hended : (finishTaken t x (taken t w)).1 = endAnswer x (x.due? w) :=
    (finishTaken_eq t x (taken t w)).1
  have hworld := proceedings_teardown (c := c) ht x w
  have hanswer : ∀ e, (c.runner.runAfter t (finishTaken t x (taken t w)).2).1 = .error e ↔
      ∃ y r, HookCall.FirstFailed (c.afterCalls t x w) y r ∧
        e = .afterHook y.hook.display r.toFailure := fun _ => HookRunner.callAll_error
  rw [afterTest_of_some hx]
  simp only [hended]
  generalize c.runner.runAfter t (finishTaken t x (taken t w)).2 = ran at hworld hanswer
  -- the answer of the hooks decides what becomes of that of the end
  rcases ran with ⟨h | _, w₂⟩ <;> rw [← hworld, ← c.proceedings_transition t.key .testFinished w₂]
  · obtain ⟨y, r, hy, rfl⟩ := (hanswer h).1 rfl
    have hfailed := HookCall.any_failed_iff.2 ⟨y, r, hy⟩
    refine ⟨?_, fun y' r' hy' => ?_, fun hall => ?_⟩
    · rw [(settle_of_hooks_error ..).2]
      unfold endAlarm?
      cases endAnswer x (x.due? w) <;> simp [hfailed]
    · rw [(settle_of_hooks_error ..).1]
      exact ((hanswer _).2 ⟨y', r', hy', rfl⟩)
    · cases (hall y hy.mem).symm.trans hy.2
  · have hnone : ∀ y r, ¬ HookCall.FirstFailed (c.afterCalls t x w) y r := fun y r hy =>
      nomatch (hanswer _).2 ⟨y, r, hy, rfl⟩
    refine ⟨?_, fun y r hy => absurd hy (hnone y r), fun _ => (settle_of_hooks_ok ..).1⟩
    have hpassed : (c.afterCalls t x w).any HookCall.failed = false := by
      refine Bool.eq_false_iff.2 fun h => ?_
      obtain ⟨y, r, hy⟩ := HookCall.any_failed_iff.1 h
      exact hnone y r hy
    rw [(settle_of_hooks_ok ..).2]
    unfold endAlarm?
    cases endAnswer x (x.due? w) <;> simp [hpassed]

/-- **No failure is lost.**  Hooks that stay out of the controller's business on their key may fail,
use managers and report as they like.  Between the calls of hooks, a phase of a test adds to the
proceedings nothing but what is listed here: every call of a hook, followed by one report if the
hook has failed, with the hook and its failure; every request to a manager; one report if the
rollback of a transaction that found its slot taken has failed; and one report if the transaction
could not be ended and a hook has failed, too.  Every other failure is the answer of the phase: of a
before-hook, which is the last thing to happen then; of a begin; of the first after-hook that has
failed; and of an end when all after-hooks succeed. -/
theorem failures_told (c : Controller) (ht : t.subject.Within (c.StaysOut t.key)) (w : World α) :
    (∃ requests, Asks t (c.beforeTest t w).1 requests ∧
      (c.beforeTest t w).2.proceedings = w.proceedings ++
        (c.beforeCalls t w).flatMap (HookCall.account Operation.beforeTransactionHook t) ++
        requests.flatMap (told t.name) ∧
      ∀ y r, HookCall.FirstFailed (c.beforeCalls t w) y r → requests = [] ∧
        (c.beforeTest t w).1 = .error (HookRunner.beforeError y.hook r)) ∧
    (w.context? t.key = none → (c.afterTest t w).2.proceedings = w.proceedings) ∧
    ∀ x, w.context? t.key = some x →
      let calls := c.afterCalls t x w
      let ended := endAnswer x (x.due? w)
      (c.afterTest t w).2.proceedings = w.proceedings ++
        ((x.due? w).map Ending.occurrence).toList ++
        calls.flatMap (HookCall.account Operation.afterTransactionHook t) ++
        ((endAlarm? t ended calls).map .reported).toList ∧
      (∀ y r, HookCall.FirstFailed calls y r →
        (c.afterTest t w).1 = .error (.afterHook y.hook.display r.toFailure)) ∧
      ((∀ y ∈ calls, y.answer = .ok ()) →
        ∀ e, ended = .error e → (c.afterTest t w).1 = .error e) :=
  ⟨proceedings_beforeTest ht w, proceedings_afterTest_of_none,
    fun _ hx => proceedings_afterTest (ht.mono fun _ _ h => h.appends) hx⟩

end Controller

namespace Sample

/-- A hook that publishes a context of its own in the slot of the test, and makes the manager fail
the next end. -/
def usurp : HookBody Unit := fun w =>
  let x : Context := { testName := "Usurper", manager := accounts, intent := {},
                       flaggedForRollback := false }
  (.ok (), (w.setContext (.thread 0) x).failNextFinish accounts "disk full")

theorem staysOut_usurp (w : World Unit) :
    controller.StaysOut (.thread 0) w (usurp w).2 :=
  ⟨rfl, List.prefix_refl _⟩

end Sample

/-- The slot of a test is taken by its hook, and the rollback of its transaction fails; the error
speaks of the slot, and the log of the rollback.  Then two after-hooks and an end fail: the error
speaks of the first hook, and the log of all three. -/
theorem Controller.failures_told_sample :
    let usurped := Sample.run Sample.usurp
    let out := Sample.controller.beforeTest usurped Sample.start
    let t := Sample.auditedTest fun w => (.error ⟨"no auditor", []⟩, w)
    let opened := (Sample.controller.beforeTest t Sample.start).2.failNextFinish Sample.accounts
      "disk full"
    let out' := Sample.controller.afterTest t opened
    let lost := TransactionError.rollback (.serial 1) "disk full"
    (out.1 = .error (.illegalState
        (.slotTakenDuringSetUp usurped.key.display "AccountTest.transfer")) ∧
      (∃ requests, Asks usurped out.1 requests ∧ out.2.proceedings = Sample.start.proceedings ++
        (Sample.controller.beforeCalls usurped Sample.start).flatMap
          (HookCall.account Operation.beforeTransactionHook usurped) ++
        requests.flatMap (told "AccountTest.transfer")) ∧
      out.2.reports.filter (·.level == .error) = [undoAlarm "AccountTest.transfer" lost]) ∧
    (∃ y r, HookCall.FirstFailed (Sample.controller.afterCallsOn t opened) y r ∧
      out'.1 = .error (.afterHook y.hook.display r.toFailure)) ∧
    (out'.2.reports.filter (·.level == .error)).map (fun event => event.fields.head?) =
      ["hook_runner", "hook_runner", "lifecycle_controller"].map fun component =>
        some ("component", .bare component) := by
  intro usurped out t opened out' lost
  have husurped : usurped.subject.Within (Sample.controller.StaysOut usurped.key) :=
    Sample.run_within (frame_staysOut Sample.controller (.thread 0)).refl Sample.staysOut_usurp
  have ht : t.subject.Within (Sample.controller.StaysOut t.key) :=
    Bindings.subject_within (frame_staysOut Sample.controller (.thread 0)).refl fun e he w => by
      rw [List.mem_singleton.1 he]
      exact (frame_staysOut Sample.controller (.thread 0)).refl w
  obtain ⟨requests, hasks, hworld, -⟩ :=
    (failures_told Sample.controller husurped Sample.start).1
  obtain ⟨x, hx⟩ : ∃ x, opened.context? t.key = some x :=
    Option.isSome_iff_exists.1 (by decide +kernel)
  obtain ⟨-, hfirst, -⟩ := (failures_told Sample.controller ht opened).2.2 x hx
  have hfailed : (Sample.controller.afterCallsOn t opened).any HookCall.failed = true := by
    decide +kernel
  obtain ⟨y, r, hy⟩ := HookCall.any_failed_iff.1 hfailed
  refine ⟨⟨by decide +kernel, ⟨requests, hasks, hworld⟩, by decide +kernel⟩, ⟨y, r, hy, ?_⟩,
    by decide +kernel⟩
  rw [afterCallsOn, hx] at hy
  exact hfirst y r hy

end TransactionalTest
