import TransactionalTest.Proofs.Remembered
import TransactionalTest.Proofs.Slots

/-!
# Teardown

An after-test phase does three things that can fail apart from each other: it ends the transaction,
calls every after-hook, and makes the key idle again.  It does all of them whatever becomes of the
others, and reports the failure that comes first by rank, not by time.

* `World.deeds` : the chronicle without the reports;
* `HandsOff` : hooks that leave holder and states alone, and what has happened;
* `HookRunner.calls` : the calls that a list of after-hooks makes;
* `HookRunner.callAll_fst`, `HookRunner.deeds_callAll` : their answer and their deeds;
* `Context.due?` : the end that the context of a test still has to ask for;
* `Controller.afterTest_tears_down` : what an after-test phase does, whatever it answers.
-/

namespace TransactionalTest

variable {α : Type}

/-! ### Deeds -/

namespace World

variable {w w' : World α}

/-- What has happened, reports apart: requests to managers and calls of hooks. -/
def deeds (w : World α) : List Occurrence := w.chronicle.filter fun o => o.report?.isNone

theorem deeds_record {o : Occurrence} (h : o.report? = none) (w : World α) :
    (w.record o).deeds = w.deeds ++ [o] := by
  simp [deeds, record, h]

theorem deeds_finish (m : Manager) (status : Status) (rollback : Bool) (w : World α) :
    (w.finish m status rollback).2.deeds =
      w.deeds ++ [.finished m status rollback ((w.store m).finish status rollback).1] :=
  deeds_record rfl _

theorem Quiet.deeds (q : w.Quiet w') : w'.deeds = w.deeds := by
  obtain ⟨es, he⟩ := q.chronicle
  have hes : (es.map Occurrence.reported).filter (fun o => o.report?.isNone) = [] := by
    simp [List.filter_eq_nil_iff, Occurrence.report?]
  rw [World.deeds, he, List.filter_append, hes, List.append_nil, World.deeds]

end World

/-! ### Hooks that keep their hands off -/

/-- What had happened before is not undone. -/
def Appends (w w' : World α) : Prop := w.chronicle <+: w'.chronicle

theorem frame_appends : World.Frame (Appends : World α → World α → Prop) where
  refl _ := List.prefix_refl _
  trans h h' := List.IsPrefix.trans h h'
  quiet q := by
    obtain ⟨es, he⟩ := q.chronicle
    exact ⟨es.map .reported, he.symm⟩
  invoked _ _ _ _ := List.prefix_append ..

theorem Appends.deeds {w w' : World α} (h : Appends w w') : w.deeds <+: w'.deeds :=
  List.IsPrefix.filter _ h

/-- Holder and states are as they were, and so is what had happened before. -/
structure HandsOff (w w' : World α) : Prop extends SameSlots w w' where
  appends : Appends w w'

theorem frame_handsOff : World.Frame (HandsOff : World α → World α → Prop) where
  refl w := ⟨.refl w, frame_appends.refl w⟩
  trans h h' := ⟨h.toSameSlots.trans h'.toSameSlots, frame_appends.trans h.appends h'.appends⟩
  quiet q := ⟨.quiet q, frame_appends.quiet q⟩
  invoked key hook r w := ⟨⟨rfl, rfl⟩, frame_appends.invoked key hook r w⟩

/-! ### The calls of after-hooks -/

/-- A call of a hook: the world that it finds, its answer and the world that it leaves. -/
structure HookCall (α : Type) where
  hook : HookMethod
  entry : World α
  answer : Except HookError Unit
  back : World α

namespace HookCall

/-- The call is one of this test object. -/
def IsOf (y : HookCall α) (s : Subject α) : Prop := s y.hook y.entry = (y.answer, y.back)

/-- The failure of an after-hook. -/
def failure? (y : HookCall α) : Option LifecycleError :=
  match y.answer with
  | .ok () => none
  | .error e => some (.afterHook y.hook.display e.toFailure)

/-- What the hook did, and that it was called. -/
def deeds (key : ExecutionKey) (y : HookCall α) : List Occurrence :=
  y.back.deeds.drop y.entry.deeds.length ++ [.invoked key y.hook y.answer]

end HookCall

namespace HookRunner

variable {t : TestRun α} {w : World α}

/-- The world that a called after-hook finds. -/
def entryOf (t : TestRun α) (hook : HookMethod) (w : World α) : World α :=
  w.report (.hook Operation.afterTransactionHook t.name hook.display)

/-- The call of one after-hook. -/
def callOf (t : TestRun α) (hook : HookMethod) (w : World α) : HookCall α where
  hook := hook
  entry := entryOf t hook w
  answer := (t.subject hook (entryOf t hook w)).1
  back := (t.subject hook (entryOf t hook w)).2

/-- The calls that a list of after-hooks makes, one after another. -/
def calls (t : TestRun α) : List HookMethod → World α → List (HookCall α)
  | [], _ => []
  | hook :: hooks, w =>
    callOf t hook w :: calls t hooks (call Operation.afterTransactionHook t hook w).2

theorem calls_map_hook (t : TestRun α) (hooks : List HookMethod) (w : World α) :
    (calls t hooks w).map HookCall.hook = hooks := by
  induction hooks generalizing w with
  | nil => rfl
  | cons hook hooks ih => rw [calls, List.map_cons, ih]; rfl

theorem call_fst (t : TestRun α) (hook : HookMethod) (w : World α) :
    (call Operation.afterTransactionHook t hook w).1 = (callOf t hook w).answer := by
  unfold call callOf entryOf
  simp only
  split <;> rename_i h <;> exact h.symm

/-- Whatever an after-hook answers, the next ones are called. -/
theorem callAll_cons_snd (t : TestRun α) (hook : HookMethod) (hooks : List HookMethod)
    (w : World α) : (callAll t (hook :: hooks) w).2 =
      (callAll t hooks (call Operation.afterTransactionHook t hook w).2).2 := by
  rw [callAll]
  split <;> rename_i h <;> rw [h]

/-- The answer of a list of after-hooks is the first failure. -/
theorem callAll_fst (t : TestRun α) (hooks : List HookMethod) (w : World α) :
    (callAll t hooks w).1 = match (calls t hooks w).findSome? HookCall.failure? with
      | some e => .error e
      | none => .ok () := by
  induction hooks generalizing w with
  | nil => rfl
  | cons hook hooks ih =>
    have hfst := call_fst t hook w
    rw [calls, List.findSome?_cons, HookCall.failure?, ← hfst]
    unfold callAll
    rcases call Operation.afterTransactionHook t hook w with ⟨e | _, w₁⟩
    · rfl
    · exact ih w₁

section

variable (ht : t.subject.Within Appends)
include ht

theorem deeds_call (hook : HookMethod) (w : World α) :
    (call Operation.afterTransactionHook t hook w).2.deeds =
      w.deeds ++ (callOf t hook w).deeds t.key := by
  have hentry : (entryOf t hook w).deeds = w.deeds := (World.Quiet.report _ w).deeds
  have hback : (callOf t hook w).back.deeds = w.deeds ++
      (callOf t hook w).back.deeds.drop (callOf t hook w).entry.deeds.length := by
    obtain ⟨os, hos⟩ := (ht hook (entryOf t hook w)).deeds
    rw [show (callOf t hook w).back.deeds = w.deeds ++ os from hentry ▸ hos.symm,
      show (callOf t hook w).entry.deeds = w.deeds from hentry, List.drop_left]
  -- the failure is reported, and a report is no deed
  have hcall : (call Operation.afterTransactionHook t hook w).2.deeds =
      (callOf t hook w).back.deeds ++ [.invoked t.key hook (callOf t hook w).answer] := by
    unfold call callOf entryOf
    simp only
    split
    · exact World.deeds_record rfl _
    · exact (World.Quiet.report _ _).deeds.trans (World.deeds_record rfl _)
  rw [hcall, hback, List.append_assoc]
  rfl

/-- Every after-hook is called, and nothing happens but what the hooks do. -/
theorem deeds_callAll (hooks : List HookMethod) (w : World α) :
    (callAll t hooks w).2.deeds =
      w.deeds ++ (calls t hooks w).flatMap (HookCall.deeds t.key) := by
  induction hooks generalizing w with
  | nil => simp [callAll, calls]
  | cons hook hooks ih =>
    rw [callAll_cons_snd, ih, deeds_call ht, calls, List.flatMap_cons, List.append_assoc]

end

/-- Every call is one of the test object. -/
theorem isOf_of_mem_calls {hooks : List HookMethod} {y : HookCall α} (hy : y ∈ calls t hooks w) :
    y.IsOf t.subject := by
  induction hooks generalizing w with
  | nil => cases hy
  | cons hook hooks ih =>
    rcases List.mem_cons.1 hy with rfl | hy
    · rfl
    · exact ih hy

/-- It finds the slots as the first of them did. -/
theorem sameSlots_of_mem_calls (ht : t.subject.Within SameSlots) {hooks : List HookMethod}
    {y : HookCall α} (hy : y ∈ calls t hooks w) : SameSlots w y.entry := by
  induction hooks generalizing w with
  | nil => cases hy
  | cons hook hooks ih =>
    rcases List.mem_cons.1 hy with rfl | hy
    · exact ⟨rfl, rfl⟩
    · exact (call_within frame_sameSlots ht Operation.afterTransactionHook hook w).trans (ih hy)

end HookRunner

/-! ### The end that is due -/

/-- The request to end the transaction of a taken context, as its flag says; none if the
transaction is not active. -/
def Context.due? (x : Context) (w : World α) : Option Ending :=
  if x.isActive w then
    x.status.map fun status => ⟨x.manager, status, x.flaggedForRollback,
      ((w.store x.manager).finish status x.flaggedForRollback).1⟩
  else none

/-- The request in the chronicle. -/
def Ending.occurrence (e : Ending) : Occurrence :=
  .finished e.manager e.status e.rollback e.outcome

namespace Controller

variable {c : Controller} {t : TestRun α} {w : World α}

theorem deeds_transition (c : Controller) (key : ExecutionKey) (event : LifecycleEvent)
    (w : World α) : (c.transition key event w).2.deeds = w.deeds := by
  rcases c.transition_cases key event w with ⟨target, -, h⟩ | h
  · rw [h, setState_eq]
    exact (World.Quiet.report _ w).deeds
  · rw [h]

/-- What is answered to the end of a context's transaction. -/
def endAnswer (x : Context) : Option Ending → Except LifecycleError Unit
  | none => .ok ()
  | some e => e.outcome.mapError (.transactionEnd x.testName)

/-- The end that is due is asked for, and nothing else. -/
theorem finishTaken_eq (t : TestRun α) (x : Context) (w : World α) :
    (finishTaken t x w).1 = endAnswer x (x.due? w) ∧
      (finishTaken t x w).2.deeds = w.deeds ++ ((x.due? w).map Ending.occurrence).toList := by
  by_cases ha : x.isActive w = true
  · obtain ⟨status, hs, hc⟩ := Context.isActive_iff.1 ha
    obtain ⟨w', hq, hfin⟩ := finishTaken_of_active (t := t) hs hc
    rw [Context.due?, if_pos ha, hs, hfin]
    refine ⟨rfl, ?_⟩
    rw [hq.deeds, Context.ending, World.deeds_finish, (World.Quiet.report _ w).deeds]
    rfl
  · rw [Context.due?, if_neg ha, finishTaken_of_inactive (by simpa using ha)]
    exact ⟨rfl, (World.Quiet.report _ w).deeds.trans (List.append_nil _).symm⟩

/-- The answer of an after-test phase: the first failure of a hook, else that of the end. -/
def teardownAnswer (x : Context) (due : Option Ending) (calls : List (HookCall α)) :
    Except LifecycleError Unit :=
  match calls.findSome? HookCall.failure? with
  | some e => .error e
  | none => endAnswer x due

theorem settle_fst (t : TestRun α) (ended hooks : Except LifecycleError Unit) (w : World α) :
    (settle t ended hooks (.ok ()) w).1 = match hooks with
      | .error e => .error e
      | .ok () => ended := by
  cases ended <;> cases hooks <;> rfl

/-- The calls of after-hooks that an after-test phase makes when it has taken this context. -/
def afterCalls (c : Controller) (t : TestRun α) (x : Context) (w : World α) :
    List (HookCall α) :=
  let found := c.runner.hooksFor t.cls .afterTransaction (finishTaken t x (taken t w)).2
  HookRunner.calls t found.1 found.2

theorem afterCalls_map_hook (c : Controller) (t : TestRun α) (x : Context) (w : World α) :
    (c.afterCalls t x w).map HookCall.hook =
      (c.runner.hooksFor t.cls .afterTransaction w).1 := by
  have hfound : (c.runner.hooksFor t.cls .afterTransaction (finishTaken t x (taken t w)).2).1 =
      (c.runner.hooksFor t.cls .afterTransaction w).1 :=
    hooksFor_fst_congr _ _ _ (sameCaches_finishTaken t x (taken t w)).hookCache
  rw [afterCalls, HookRunner.calls_map_hook, hfound]

/-- They find the slot of the test empty. -/
theorem context?_of_mem_afterCalls (ht : t.subject.Within SameSlots) {x : Context}
    {y : HookCall α} (hy : y ∈ c.afterCalls t x w) : y.entry.context? t.key = none := by
  have hquiet := HookRunner.quiet_hooksFor c.runner t.cls .afterTransaction
    (finishTaken t x (taken t w)).2
  have hentry := (HookRunner.sameSlots_of_mem_calls ht hy).context? t.key
  rw [hentry, hquiet.context?, (sameSlots_finishTaken t x (taken t w)).context?]
  exact Table.find?_erase_self ..

/-- With a context in its slot, an after-test phase asks for the end that is due, calls every
after-hook, and does nothing else. -/
theorem deeds_afterTest (ht : t.subject.Within Appends) {x : Context}
    (hx : w.context? t.key = some x) :
    (c.afterTest t w).2.deeds = w.deeds ++ ((x.due? w).map Ending.occurrence).toList ++
      (c.afterCalls t x w).flatMap (HookCall.deeds t.key) := by
  -- the three steps: the end, the hooks, and the transition, which is no deed
  have hended := (finishTaken_eq t x (taken t w)).2
  have hquiet := HookRunner.quiet_hooksFor c.runner t.cls .afterTransaction
    (finishTaken t x (taken t w)).2
  have htaken : (taken t w).deeds = w.deeds := (World.Quiet.report _ w).deeds
  rw [afterTest_of_some hx]
  simp only [(quiet_settle ..).deeds, deeds_transition]
  unfold HookRunner.runAfter
  simp only
  rw [HookRunner.deeds_callAll ht, hquiet.deeds, hended, htaken]
  rfl

/-- It answers by rank. -/
theorem afterTest_fst_of_taken (hstate : c.state t.key w ≠ .pending)
    (ht : t.subject.Within (c.KeepsState t.key)) {x : Context} (hx : w.context? t.key = some x) :
    (c.afterTest t w).1 = teardownAnswer x (x.due? w) (c.afterCalls t x w) := by
  have hended := (finishTaken_eq t x (taken t w)).1
  have hnot := (state_runAfter ht x w).trans_ne hstate
  rw [afterTest_of_some hx]
  simp only [transition_testFinished hnot, Except.map]
  rw [settle_fst, hended]
  unfold HookRunner.runAfter
  simp only [HookRunner.callAll_fst, teardownAnswer, afterCalls]
  cases (HookRunner.calls t _ _).findSome? HookCall.failure? <;> rfl

/-- **An after-test phase always cleans up, and answers by rank.**  Whatever the slot of the key
holds and whatever is answered on the way, afterwards the slot is empty and the key is idle.
Without a context nothing else is done.  With one, its transaction is ended first, if it is
active, as its flag says at that moment; then every after-hook of the class is called, in
discovery order and each once; and the answer is the first failure of a hook, else that of the
end. -/
theorem afterTest_tears_down (c : Controller) (hstate : c.state t.key w ≠ .pending)
    (ht : t.subject.Within HandsOff) :
    (c.afterTest t w).2.contexts = w.contexts.erase t.key ∧
      (c.afterTest t w).2.context? t.key = none ∧
      c.state t.key (c.afterTest t w).2 = .idle ∧
      (w.context? t.key = none → (c.afterTest t w).1 = .ok () ∧
        (c.afterTest t w).2.deeds = w.deeds ∧ (c.afterTest t w).2.stores = w.stores) ∧
      ∀ x, w.context? t.key = some x → ∃ calls : List (HookCall α),
        calls.map HookCall.hook = (c.runner.hooksFor t.cls .afterTransaction w).1 ∧
        (c.Recalls w → calls.map HookCall.hook = t.cls.discover .afterTransaction) ∧
        (∀ y ∈ calls, y.IsOf t.subject ∧ y.entry.context? t.key = none) ∧
        (c.afterTest t w).2.deeds = w.deeds ++ ((x.due? w).map Ending.occurrence).toList ++
          calls.flatMap (HookCall.deeds t.key) ∧
        (c.afterTest t w).1 = teardownAnswer x (x.due? w) calls := by
  have hslots : t.subject.Within SameSlots := ht.mono fun _ _ h => h.toSameSlots
  refine ⟨contexts_afterTest hslots c w, context?_afterTest hslots c w,
    state_afterTest (keepsState_of_sameSlots hslots) hstate, fun hnone => ?_, fun x hx => ?_⟩
  · rw [afterTest_of_none hnone, setState_eq]
    exact ⟨rfl, (World.Quiet.report _ w).deeds, rfl⟩
  · have hhooks := c.afterCalls_map_hook t x w
    exact ⟨c.afterCalls t x w, hhooks, fun h => hhooks.trans (h.hooksFor_fst ..),
      fun y hy => ⟨HookRunner.isOf_of_mem_calls hy, context?_of_mem_afterCalls hslots hy⟩,
      deeds_afterTest (ht.mono fun _ _ h => h.appends) hx,
      afterTest_fst_of_taken hstate (keepsState_of_sameSlots hslots) hx⟩

end Controller

namespace Sample

/-- A hook that runs after the transaction of every test. -/
def review : Method := { signature := ⟨"review", []⟩, hook := some .afterTransaction }

/-- Another one, which no test object has a body for. -/
def archive : Method := { signature := ⟨"archive", []⟩, hook := some .afterTransaction }

/-- A class with both. -/
def audited : TestClass where
  id := 1
  leaf := {
    name := "AuditedTest"
    transactional := some {}
    methods := [review, archive, transfer] }

/-- Its test, with a body for the first hook. -/
def auditedTest (body : HookBody Unit) : TestRun Unit :=
  ⟨audited, transfer, Bindings.subject [(("AuditedTest", review.signature), body)], .thread 0⟩

end Sample

/-- Another test has left its context, the manager cannot commit, and both hooks fail. -/
theorem Controller.afterTest_tears_down_sample :
    let opened := (Sample.controller.beforeTest Sample.quietTest Sample.start).2
    let w := opened.failNextFinish Sample.accounts "disk full"
    let t := Sample.auditedTest fun w => (.error ⟨"no auditor", []⟩, w)
    let out := Sample.controller.afterTest t w
    out.2.context? t.key = none ∧ Sample.controller.state t.key out.2 = .idle ∧
      out.1 = .error (.afterHook "AuditedTest::review()" ⟨"no auditor", []⟩) ∧
      ∃ x, w.context? t.key = some x ∧ ∃ calls : List (HookCall Unit),
        calls.map (·.hook.display) = ["AuditedTest::review()", "AuditedTest::archive()"] ∧
        out.1 = teardownAnswer x (x.due? w) calls := by
  intro opened w t out
  have ht : t.subject.Within HandsOff :=
    Bindings.subject_within frame_handsOff.refl fun e he w => by
      rw [List.mem_singleton.1 he]
      exact frame_handsOff.refl w
  have hactive : Sample.controller.state t.key w = .active := by decide +kernel
  have hfound : (Sample.controller.runner.hooksFor t.cls .afterTransaction w).1.map
      HookMethod.display = ["AuditedTest::review()", "AuditedTest::archive()"] := by decide +kernel
  obtain ⟨x, hx⟩ : ∃ x, w.context? t.key = some x := Option.isSome_iff_exists.1 (by decide +kernel)
  obtain ⟨-, hempty, hidle, -, htaken⟩ := afterTest_tears_down Sample.controller
    (t := t) (w := w) (by rw [hactive]; exact LifecycleState.noConfusion) ht
  obtain ⟨calls, hhooks, -, -, -, hanswer⟩ := htaken x hx
  refine ⟨hempty, hidle, by decide +kernel, x, hx, calls, ?_, hanswer⟩
  rw [← hfound, ← hhooks, List.map_map]
  rfl

end TransactionalTest
