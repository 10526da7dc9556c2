import TransactionalTest.Proofs.Steps
import TransactionalTest.Proofs.Teardown

/-!
# No illegal transition

A phase of a test asks to move its key on, and an event that is not legal in the state of the key
would make the answer of the phase say something wrong: an after-test phase would answer with a
fault of its own, although the test body ran.  It never comes to that, unless a hook runs another
phase of the same controller on the same key.

* `Move`, `Controller.beforeMoves`, `Controller.afterMoves` : the moves that a phase asks for;
* `Controller.beforeTest_error`, `Controller.afterTest_error` : what an error of a phase says, and
  that an illegal transition is that of one of its moves;
* `Orderly` : work that runs no phase at a place where one is in progress;
* `World.Settled` : nothing is being set up but where a phase is in progress;
* `Reached` : the worlds between the operations of a run, also within hooks;
* `Controller.phases_told_apart` : every move is legal, and the errors of the two phases are told
  apart.
-/

namespace TransactionalTest

variable {α : Type}

/-! ### Moves -/

/-- A request to move a key on: the state in which the request finds the key, and the event. -/
structure Move where
  source : LifecycleState
  event : LifecycleEvent

/-- The event is legal in the state. -/
def Move.IsLegal (x : Move) : Prop := (x.source.next? x.event).isSome = true

namespace Controller

variable {c : Controller} {t : TestRun α} {m : Manager} {a : Attribute} {w : World α}
  {e : LifecycleError}

/-- The moves that entering a test asks for: one before the set-up, and one after it. -/
def enterMoves (c : Controller) (t : TestRun α) (m : Manager) (a : Attribute) (w : World α) :
    List Move :=
  let (requested, w₁) := c.transition t.key .transactionRequested w
  ⟨c.state t.key w, .transactionRequested⟩ :: match requested with
    | .error _ => []
    | .ok _ =>
      let (ready, w₂) := c.setUp t m a w₁
      [⟨c.state t.key w₂, match ready with
        | .ok () => .transactionStarted
        | .error e => .setupAborted e.message⟩]

/-- The moves that a before-test phase asks for. -/
def beforeMoves (c : Controller) (t : TestRun α) (w : World α) : List Move :=
  if c.isBusy t.key w then []
  else match t.intent? with
    | none => []
    | some a =>
      if a.propagation.optsOut then []
      else match c.managerFor t a w with
        | (.ok (some m), w) => c.enterMoves t m a w
        | _ => []

/-- The moves that an after-test phase asks for: one when the hooks are through, if there was a
context. -/
def afterMoves (c : Controller) (t : TestRun α) (w : World α) : List Move :=
  match w.context? t.key with
  | none => []
  | some x =>
    [⟨c.state t.key (c.runner.runAfter t (finishTaken t x (taken t w)).2).2, .testFinished⟩]

theorem beforeMoves_of_entered {w₁ : World α} (free : c.isBusy t.key w = false)
    (intent : t.intent? = some a) (inside : a.propagation.optsOut = false)
    (lookup : c.managerFor t a w = (.ok (some m), w₁)) :
    c.beforeMoves t w = c.enterMoves t m a w₁ := by
  simp [beforeMoves, free, intent, inside, lookup]

/-- A before-test phase asks for no move, or for those of entering a test on an idle key. -/
theorem beforeMoves_cases (c : Controller) (t : TestRun α) (w : World α) :
    c.beforeMoves t w = [] ∨ ∃ m a w₁, c.state t.key w₁ = .idle ∧
      c.beforeMoves t w = c.enterMoves t m a w₁ := by
  have hexit := c.beforeTest_exit t w
  generalize c.beforeTest t w = out at hexit
  cases hexit with
  | busy occupied => exact .inl (by simp [beforeMoves, occupied])
  | undeclared free intent => exact .inl (by simp [beforeMoves, intent])
  | optedOut free intent out => exact .inl (by simp [beforeMoves, intent, out])
  | lookupFailed free intent inside lookup | notFound free intent inside lookup
  | unmanaged free intent inside lookup => exact .inl (by simp [beforeMoves, intent, lookup])
  | @entered a m w₁ free intent inside lookup =>
    have hidle : c.state t.key w₁ = .idle :=
      (state_congr (quiet_of_managerFor lookup).states).trans (isBusy_eq_false.1 free).2
    exact .inr ⟨m, a, w₁, hidle, beforeMoves_of_entered free intent inside lookup⟩

/-! ### Legal moves -/

section

variable (ht : t.subject.Within (c.KeepsState t.key))
include ht

theorem legal_enterMoves (hidle : c.state t.key w = .idle) {x : Move}
    (hx : x ∈ c.enterMoves t m a w) : x.IsLegal := by
  have hpending := state_setUp_requested ht m a w
  simp only [enterMoves, transition_requested hidle, List.mem_cons, List.not_mem_nil,
    or_false] at hx
  rcases hx with rfl | rfl
  · simp [Move.IsLegal, hidle, LifecycleState.next?]
  · rcases hset : c.setUp t m a (c.requested t.key w) with ⟨e | _, w₂⟩ <;> rw [hset] at hpending <;>
      simp [Move.IsLegal, hpending, LifecycleState.next?]

/-- A before-test phase asks for legal moves only: it starts on an idle key or not at all. -/
theorem legal_beforeMoves {x : Move} (hx : x ∈ c.beforeMoves t w) : x.IsLegal := by
  rcases c.beforeMoves_cases t w with h | ⟨m, a, w₁, hidle, h⟩ <;> rw [h] at hx
  · cases hx
  · exact legal_enterMoves ht hidle hx

/-- So does an after-test phase, if its key was not being set up when it started. -/
theorem legal_afterMoves (hstate : c.state t.key w ≠ .pending) {x : Move}
    (hx : x ∈ c.afterMoves t w) : x.IsLegal := by
  unfold afterMoves at hx
  cases hc : w.context? t.key with
  | none =>
    rw [hc] at hx
    cases hx
  | some y =>
    rw [hc] at hx
    obtain rfl := List.mem_singleton.1 hx
    have hnot := (state_runAfter ht y w).trans_ne hstate
    generalize c.runner.runAfter t (finishTaken t y (taken t w)).2 = ran at hnot ⊢
    cases hs : c.state t.key ran.2 with
    | pending => exact absurd hs hnot
    | idle | active => rfl

end

/-! ### What an error says -/

theorem not_legal_of_transition_error {key : ExecutionKey} {event : LifecycleEvent}
    (h : (c.transition key event w).1 = .error e) : ¬ Move.IsLegal ⟨c.state key w, event⟩ := by
  intro hlegal
  obtain ⟨target, hnext⟩ := Option.isSome_iff_exists.1 hlegal
  rw [transition_of_next rfl hnext] at h
  cases h

/-- An illegal transition that entering a test answers is that of one of its moves. -/
theorem enter_badTransition {s : LifecycleState} {event : LifecycleEvent}
    (h : (c.enter t m a w).1 = .error (.illegalState (.badTransition s event))) :
    ∃ x ∈ c.enterMoves t m a w, ¬ x.IsLegal := by
  unfold enter at h
  unfold enterMoves
  rcases hreq : c.transition t.key .transactionRequested w with ⟨e | s', w₁⟩
  · have hnot := not_legal_of_transition_error (congrArg Prod.fst hreq)
    exact ⟨_, List.mem_cons_self, hnot⟩
  · simp only [hreq] at h ⊢
    -- the second move is the last one; the set-up itself never answers an illegal transition
    rcases hset : c.setUp t m a w₁ with ⟨e | _, w₂⟩ <;> simp only [hset] at h ⊢
    · rcases hab : c.transition t.key (.setupAborted e.message) w₂ with ⟨e' | _, w₃⟩
      · have hnot := not_legal_of_transition_error (congrArg Prod.fst hab)
        exact ⟨_, List.mem_cons_of_mem _ List.mem_cons_self, hnot⟩
      · rw [hab] at h
        cases h
        exact (isSetUpError_of_setUp (congrArg Prod.fst hset)).elim
    · rcases hst : c.transition t.key .transactionStarted w₂ with ⟨e' | _, w₃⟩
      · have hnot := not_legal_of_transition_error (congrArg Prod.fst hst)
        exact ⟨_, List.mem_cons_of_mem _ List.mem_cons_self, hnot⟩
      · rw [hst] at h
        cases h

/-- An illegal transition that a before-test phase answers is that of one of its moves. -/
theorem beforeTest_badTransition {s : LifecycleState} {event : LifecycleEvent}
    (h : (c.beforeTest t w).1 = .error (.illegalState (.badTransition s event))) :
    ∃ x ∈ c.beforeMoves t w, ¬ x.IsLegal := by
  have hexit := c.beforeTest_exit t w
  generalize c.beforeTest t w = out at hexit h
  cases hexit with
  | entered free intent inside lookup =>
    rw [beforeMoves_of_entered free intent inside lookup]
    exact enter_badTransition h
  | _ => cases h

/-- An error of a before-test phase says that the test body did not run. -/
theorem beforeTest_error (h : (c.beforeTest t w).1 = .error e) : e.isSetupFailure = true ∧
    (e.phase = .configuration ∨ e.phase = .setup ∨ e.phase = .invariant) := by
  have hphase : e.phase = .configuration ∨ e.phase = .setup ∨ e.phase = .invariant := by
    have hexit := c.beforeTest_exit t w
    generalize c.beforeTest t w = out at hexit h
    cases hexit with
    | busy =>
      cases h
      exact .inr (.inr rfl)
    | lookupFailed | notFound =>
      cases h
      exact .inl rfl
    | undeclared | optedOut | unmanaged => cases h
    | entered =>
      have hentry := isEntryError_of_enter h
      cases e <;> first | exact .inr (.inl rfl) | exact .inr (.inr rfl) | exact hentry.elim
  refine ⟨?_, hphase⟩
  rcases hphase with h | h | h <;> simp [LifecycleError.isSetupFailure, h]

theorem phase_of_finishTaken_error {x : Context} (h : (finishTaken t x w).1 = .error e) :
    e.phase = .teardown := by
  rw [(finishTaken_eq t x w).1] at h
  cases hdue : x.due? w with
  | none =>
    rw [hdue] at h
    cases h
  | some due =>
    rw [hdue] at h
    cases houtcome : due.outcome <;> simp only [endAnswer, houtcome, Except.mapError] at h <;>
      cases h
    rfl

theorem phase_of_runAfter_error (h : (c.runner.runAfter t w).1 = .error e) :
    e.phase = .teardown := by
  unfold HookRunner.runAfter at h
  simp only [HookRunner.callAll_fst] at h
  split at h
  · rename_i hfirst
    obtain ⟨y, -, hy⟩ := List.exists_of_findSome?_eq_some hfirst
    cases h
    unfold HookCall.failure? at hy
    split at hy <;> cases hy
    rfl
  · cases h

/-- An error of an after-test phase says that the test body ran, or that a move was illegal. -/
theorem afterTest_error (h : (c.afterTest t w).1 = .error e) :
    e.phase = .teardown ∨ ∃ x ∈ c.afterMoves t w, ¬ x.IsLegal := by
  cases hx : w.context? t.key with
  | none =>
    rw [afterTest_of_none hx] at h
    cases h
  | some x =>
    rw [afterTest_of_some hx] at h
    rcases settle_error h with he | he | he
    · exact .inl (phase_of_finishTaken_error he)
    · exact .inl (phase_of_runAfter_error he)
    · refine .inr ⟨_, by rw [afterMoves, hx]; exact List.mem_singleton_self _, ?_⟩
      generalize c.runner.runAfter t (finishTaken t x (taken t w)).2 = ran at he ⊢
      rcases hmove : c.transition t.key .testFinished ran.2 with ⟨e' | _, w₁⟩
      · exact not_legal_of_transition_error (congrArg Prod.fst hmove)
      · rw [hmove] at he
        cases he

end Controller

/-! ### Places -/

/-- Where a phase runs: on a controller and a key. -/
abbrev Place := OwnerId × ExecutionKey

/-- The place where the phases of a test run. -/
def Controller.place (c : Controller) (t : TestRun α) : Place := (c.id, t.key)

namespace World

/-- The state of a key on a controller. -/
def stateAt (p : Place) (w : World α) : LifecycleState := (w.states.find? p).getD .idle

theorem stateAt_setState_of_ne {p : Place} {c : Controller} {key : ExecutionKey}
    (h : p ≠ (c.id, key)) (s : LifecycleState) (w : World α) :
    (c.setState key s w).stateAt p = w.stateAt p :=
  Controller.state_setState_of_owner_ne (d := { c with id := p.1 }) h s w

theorem stateAt_congr {w w' : World α} (h : w'.states = w.states) (p : Place) :
    w'.stateAt p = w.stateAt p := by
  rw [stateAt, h, stateAt]

/-- Nothing is being set up but where a phase is in progress, or elsewhere. -/
def Settled (elsewhere : Place → Prop) (inProgress : List Place) (w : World α) : Prop :=
  ∀ p, ¬ elsewhere p → p ∉ inProgress → w.stateAt p ≠ .pending

end World

section

variable {elsewhere : Place → Prop} {inProgress : List Place}

/-! ### Orderly work -/

/-- Work that runs no phase at a place where one is in progress.  Apart from the phases it may do
anything: to the holder, to managers, to the registry, to the application.  The states of the
places elsewhere belong to somebody else, who may move them on at any time, in the middle of a
phase too. -/
inductive Orderly (elsewhere : Place → Prop) :
    List Place → {ρ : Type} → (World α → ρ × World α) → Prop
  /-- It leaves the states alone. -/
  | work {inProgress : List Place} {ρ : Type} {f : World α → ρ × World α}
      (keeps : ∀ w p, ¬ elsewhere p → (f w).2.stateAt p = w.stateAt p) :
      Orderly elsewhere inProgress f
  /-- It runs a before-test phase where none is in progress, with hooks that keep to this as
  well. -/
  | before {inProgress : List Place} {c : Controller} {t : TestRun α}
      (here : ¬ elsewhere (c.place t)) (free : c.place t ∉ inProgress)
      (hooks : ∀ hook, Orderly elsewhere (c.place t :: inProgress) (t.subject hook)) :
      Orderly elsewhere inProgress (c.beforeTest t)
  /-- It runs an after-test phase in this way. -/
  | after {inProgress : List Place} {c : Controller} {t : TestRun α}
      (here : ¬ elsewhere (c.place t)) (free : c.place t ∉ inProgress)
      (hooks : ∀ hook, Orderly elsewhere (c.place t :: inProgress) (t.subject hook)) :
      Orderly elsewhere inProgress (c.afterTest t)
  /-- One after the other, the second chosen by the answer of the first. -/
  | bind {inProgress : List Place} {ρ σ : Type} {f : World α → ρ × World α}
      {g : ρ → World α → σ × World α} (first : Orderly elsewhere inProgress f)
      (second : ∀ r, Orderly elsewhere inProgress (g r)) :
      Orderly elsewhere inProgress fun w => g (f w).1 (f w).2

/-- What orderly work does to the states: those of the places in progress are as before, and
nothing is left in the middle of a set-up. -/
structure Undisturbed (elsewhere : Place → Prop) (inProgress : List Place) (w w' : World α) :
    Prop where
  held : ∀ p ∈ inProgress, ¬ elsewhere p → w'.stateAt p = w.stateAt p
  settled : w.Settled elsewhere inProgress → w'.Settled elsewhere inProgress

namespace Undisturbed

variable {u v w w' : World α}

theorem of_stateAt (h : ∀ p, ¬ elsewhere p → w'.stateAt p = w.stateAt p) :
    Undisturbed elsewhere inProgress w w' where
  held p _ hp := h p hp
  settled hw p hp hnot := (h p hp).trans_ne (hw p hp hnot)

theorem of_states (h : w'.states = w.states) : Undisturbed elsewhere inProgress w w' :=
  of_stateAt fun p _ => World.stateAt_congr h p

theorem trans (h : Undisturbed elsewhere inProgress u v)
    (h' : Undisturbed elsewhere inProgress v w) : Undisturbed elsewhere inProgress u w where
  held p hp he := (h'.held p hp he).trans (h.held p hp he)
  settled := h'.settled ∘ h.settled

/-- While a phase is in progress it may do to its own state what it likes, as far as the other
phases are concerned. -/
theorem stateFrame (elsewhere : Place → Prop) (c : Controller) (key : ExecutionKey)
    (free : (c.id, key) ∉ inProgress) :
    c.StateFrame key fun w w' : World α =>
      (∀ p ∈ inProgress, ¬ elsewhere p → w'.stateAt p = w.stateAt p) ∧
        (w.Settled elsewhere ((c.id, key) :: inProgress) →
          w'.Settled elsewhere ((c.id, key) :: inProgress)) where
  trans h h' := ⟨fun p hp he => (h'.1 p hp he).trans (h.1 p hp he), h'.2 ∘ h.2⟩
  of_states h := by
    have hsame : Undisturbed elsewhere ((c.id, key) :: inProgress) _ _ := of_states h
    exact ⟨fun p _ _ => World.stateAt_congr h p, hsame.settled⟩
  setState s w := by
    refine ⟨fun p hp _ => ?_, fun hw p he hp => ?_⟩
    · refine World.stateAt_setState_of_ne (fun h => ?_) s w
      exact free (h ▸ hp)
    · have hne : p ≠ (c.id, key) := fun h => hp (h ▸ List.mem_cons_self)
      rw [World.stateAt_setState_of_ne hne]
      exact hw p he hp

end Undisturbed

namespace Controller

variable {c : Controller} {t : TestRun α} {w : World α}

/-- Hooks within which the phase itself is in progress leave its state alone. -/
theorem keepsState_of_undisturbed (here : ¬ elsewhere (c.place t))
    (ht : t.subject.Within (Undisturbed elsewhere (c.place t :: inProgress))) :
    t.subject.Within (c.KeepsState t.key) :=
  ht.mono fun _ _ h => h.held (c.place t) List.mem_cons_self here

/-- A phase that does not leave its own key in the middle of a set-up leaves no other one there. -/
theorem undisturbed_of_stays {f : World α → World α} (free : c.place t ∉ inProgress)
    (hstays : ∀ {R : World α → World α → Prop}, c.StateFrame t.key R → t.subject.Within R →
      R w (f w))
    (hown : c.state t.key w ≠ .pending → c.state t.key (f w) ≠ .pending)
    (ht : t.subject.Within (Undisturbed elsewhere (c.place t :: inProgress))) :
    Undisturbed elsewhere inProgress w (f w) := by
  obtain ⟨hheld, hsettled⟩ := hstays (Undisturbed.stateFrame elsewhere c t.key free)
    (ht.mono fun _ _ h => ⟨fun p hp => h.held p (List.mem_cons_of_mem _ hp), h.settled⟩)
  refine ⟨hheld, fun hw p he hp => ?_⟩
  by_cases hp' : p = c.place t
  · subst hp'
    exact hown (hw _ he hp)
  -- any other place is settled by the frame, which leaves the own one out
  · refine hsettled (fun q hq hnot => hw q hq fun h => ?_) p he ?_
    · exact hnot (List.mem_cons_of_mem _ h)
    · simp only [List.mem_cons, not_or]
      exact ⟨hp', hp⟩

/-- A before-test phase leaves its key idle or active, unless it finds it in the middle of a
set-up. -/
theorem state_beforeTest_ne_pending (ht : t.subject.Within (c.KeepsState t.key))
    (hstate : c.state t.key w ≠ .pending) : c.state t.key (c.beforeTest t w).2 ≠ .pending := by
  rcases c.beforeTest_cases t w with hq | ⟨m, a, w₁, hq, -, hidle, he⟩
  · exact (state_congr hq.states).trans_ne hstate
  · have hidle₁ : c.state t.key w₁ = .idle := (state_congr hq.states).trans hidle
    rw [he]
    rcases enter_of_idle hidle₁ ht m a with ⟨w₂, -, h⟩ | ⟨e, w₂, -, h⟩ <;> rw [h] <;>
      simp only [state_setState_self] <;> nofun

end Controller

/-- Orderly work disturbs no phase that is in progress, and leaves nothing behind in the middle of
a set-up. -/
theorem Orderly.undisturbed {ρ : Type} {f : World α → ρ × World α}
    (h : Orderly elsewhere inProgress f) (w : World α) :
    Undisturbed elsewhere inProgress w (f w).2 := by
  -- on how the work is made up; within its hooks a phase counts as one in progress, so that what
  -- they leave alone is its own state, too
  induction h generalizing w with
  | work keeps => exact .of_stateAt (keeps w)
  | @before _ c t here free hooks ih =>
    have hkeeps := Controller.keepsState_of_undisturbed here fun hook w => ih hook w
    exact Controller.undisturbed_of_stays (f := fun w => (c.beforeTest t w).2) free
      (fun hR hin => Controller.beforeTest_stays hR hin w)
      (Controller.state_beforeTest_ne_pending hkeeps) fun hook w => ih hook w
  | @after _ c t here free hooks ih =>
    have hkeeps := Controller.keepsState_of_undisturbed here fun hook w => ih hook w
    refine Controller.undisturbed_of_stays (f := fun w => (c.afterTest t w).2) free
      (fun hR hin => Controller.afterTest_stays hR hin w) (fun hnot => ?_) fun hook w => ih hook w
    rw [Controller.state_afterTest hkeeps hnot]
    nofun
  | bind first second ihf ihg => exact (ihf w).trans (ihg _ _)

theorem Orderly.composable :
    Composable fun _ (f : World α → _ × World α) => Orderly elsewhere inProgress f where
  pure _ := .work fun _ _ _ => rfl
  bind := .bind

/-! What a run consists of besides phases leaves the states alone. -/

theorem Orderly.of_states {ρ : Type} {f : World α → ρ × World α}
    (h : ∀ w, (f w).2.states = w.states) : Orderly elsewhere inProgress f :=
  .work fun w p _ => World.stateAt_congr (h w) p

theorem Orderly.body (key : ExecutionKey) (step : BodyStep) :
    Orderly elsewhere inProgress (step.run (α := α) key) :=
  .of_states (step.states_run key)

theorem Orderly.publish (key : ExecutionKey) (x : Context) :
    Orderly elsewhere inProgress (World.publish (α := α) key x) := by
  refine .of_states fun w => ?_
  unfold World.publish World.tryPublish
  cases w.context? key <;> rfl

theorem Orderly.take (key : ExecutionKey) :
    Orderly elsewhere inProgress (World.take (α := α) key) :=
  .of_states fun _ => rfl

theorem Orderly.finish (m : Manager) (status : Status) (rollback : Bool) :
    Orderly elsewhere inProgress (World.finish (α := α) m status rollback) :=
  .of_states fun _ => rfl

/-! ### The worlds of a run -/

/-- A world that a run comes through, between two operations, and the places at which phases are in
progress then. -/
inductive Reached (elsewhere : Place → Prop) (start : World α) : List Place → World α → Prop
  | start : Reached elsewhere start [] start
  /-- After orderly work. -/
  | step {inProgress : List Place} {w : World α} {ρ : Type} {f : World α → ρ × World α}
      (reached : Reached elsewhere start inProgress w) (orderly : Orderly elsewhere inProgress f) :
      Reached elsewhere start inProgress (f w).2
  /-- Within a hook of a phase, which may have done anything, also to its own state. -/
  | call {inProgress : List Place} {p : Place} {w v : World α}
      (reached : Reached elsewhere start inProgress w) (here : ¬ elsewhere p)
      (free : p ∉ inProgress)
      (others : ∀ q, q ≠ p → ¬ elsewhere q → v.stateAt q = w.stateAt q) :
      Reached elsewhere start (p :: inProgress) v

/-- In no world of a run is a key in the middle of a set-up, but where a phase is in progress. -/
theorem Reached.settled {start w : World α} (hstart : start.Settled elsewhere [])
    (h : Reached elsewhere start inProgress w) : w.Settled elsewhere inProgress := by
  induction h with
  | start => exact hstart
  | step _ orderly ih => exact (orderly.undisturbed _).settled ih
  | @call inProgress p w v _ here free others ih =>
    intro q hq hnot
    have hne : q ≠ p := fun h => hnot (h ▸ List.mem_cons_self)
    rw [others q hne hq]
    exact ih q hq fun h => hnot (List.mem_cons_of_mem _ h)

namespace Controller

/-- **No phase of a test ever asks for an illegal transition, and the errors of the two phases are
told apart.**  In every world of a run, also within hooks, a phase may start at every place at which
none is in progress, with hooks that may do anything but run another phase there.  All its moves
are legal, so that it never answers that a transition is not; an error of a before-test phase says
that the test body did not run, and one of an after-test phase that it did. -/
theorem phases_told_apart {start w : World α} (hstart : start.Settled elsewhere [])
    (hw : Reached elsewhere start inProgress w) (c : Controller) (t : TestRun α)
    (here : ¬ elsewhere (c.place t)) (free : c.place t ∉ inProgress)
    (hooks : ∀ hook, Orderly elsewhere (c.place t :: inProgress) (t.subject hook)) :
    (∀ x ∈ c.beforeMoves t w ++ c.afterMoves t w, x.IsLegal) ∧
      (∀ e, (c.beforeTest t w).1 = .error e →
        (∀ s event, e ≠ .illegalState (.badTransition s event)) ∧ e.isSetupFailure = true ∧
          (e.phase = .configuration ∨ e.phase = .setup ∨ e.phase = .invariant)) ∧
      ∀ e, (c.afterTest t w).1 = .error e →
        (∀ s event, e ≠ .illegalState (.badTransition s event)) ∧ e.isSetupFailure = false ∧
          e.phase = .teardown := by
  have hkeeps : t.subject.Within (c.KeepsState t.key) :=
    keepsState_of_undisturbed here fun hook w => (hooks hook).undisturbed w
  have hstate : c.state t.key w ≠ .pending := hw.settled hstart (c.place t) here free
  have hbefore : ∀ x ∈ c.beforeMoves t w, x.IsLegal := fun _ hx => legal_beforeMoves hkeeps hx
  have hafter : ∀ x ∈ c.afterMoves t w, x.IsLegal := fun _ hx => legal_afterMoves hkeeps hstate hx
  refine ⟨fun x hx => ?_, fun e he => ⟨?_, beforeTest_error he⟩, fun e he => ?_⟩
  · rcases List.mem_append.1 hx with hx | hx
    · exact hbefore x hx
    · exact hafter x hx
  · rintro s event rfl
    obtain ⟨x, hx, hnot⟩ := beforeTest_badTransition he
    exact hnot (hbefore x hx)
  · have hphase : e.phase = .teardown := by
      rcases afterTest_error he with hphase | ⟨x, hx, hnot⟩
      · exact hphase
      · exact absurd (hafter x hx) hnot
    refine ⟨?_, by rw [LifecycleError.isSetupFailure, hphase]; rfl, hphase⟩
    rintro s event rfl
    cases hphase

end Controller

end

/-! ### A hook that lets another controller take the slot -/

namespace Sample

/-- The test, with a hook that starts the same test on the other controller. -/
def contested : TestRun Unit :=
  run fun w => (.ok (), ((pair true).beforeTest quietTest w).2)

theorem orderly_run {elsewhere : Place → Prop} {inProgress : List Place} {body : HookBody Unit}
    (h : Orderly elsewhere inProgress body) (hook : HookMethod) :
    Orderly elsewhere inProgress ((run body).subject hook) :=
  Orderly.composable.subject (fun e he => by rwa [List.mem_singleton.1 he]) hook

theorem orderly_contested (hook : HookMethod) :
    Orderly (fun _ => False) [(pair false).place contested] (contested.subject hook) := by
  have hquiet : ∀ inProgress hook,
      Orderly (fun _ => False) inProgress (quietTest.subject hook) := fun _ =>
    orderly_run (.work fun _ _ _ => rfl)
  have hother : (pair true).place quietTest ∉ [(pair false).place contested] := by decide
  have hbody := Orderly.composable.answering (Except.ok () : Except Failure Unit)
    (Orderly.before not_false hother (hquiet _))
  exact orderly_run hbody hook

end Sample

/-- The set-up finds its slot taken, and the teardown of the foreign context fails: one error says
that the test did not run, the other one that it did. -/
theorem Controller.phases_told_apart_contested :
    let c := Sample.pair false
    let t := Sample.contested
    let fault := BodyStep.failNextFinish Sample.accounts "disk full"
    let w := (fault.run t.key (c.beforeTest t Sample.start).2).2
    (∃ e, (c.beforeTest t Sample.start).1 = .error e ∧ e.isSetupFailure = true) ∧
      (∃ e, (c.afterTest t w).1 = .error e ∧ e.isSetupFailure = false) ∧
      (c.beforeMoves t Sample.start).length = 2 ∧ (c.afterMoves t w).length = 1 ∧
      ∀ x ∈ c.beforeMoves t Sample.start ++ c.afterMoves t w, x.IsLegal := by
  intro c t fault w
  have hstart : Sample.start.Settled (fun _ => False) [] := fun _ _ _ => nofun
  have hnot : c.place t ∉ [] := List.not_mem_nil
  have hreached : Reached (fun _ => False) Sample.start [] w :=
    .step (.step .start (.before not_false hnot Sample.orderly_contested)) (.body t.key fault)
  obtain ⟨hlegal, hbefore, -⟩ :=
    phases_told_apart hstart .start c t not_false hnot Sample.orderly_contested
  obtain ⟨hlegal', -, hafter⟩ :=
    phases_told_apart hstart hreached c t not_false hnot Sample.orderly_contested
  have htaken : (c.beforeTest t Sample.start).1 =
      .error (.illegalState (.slotTakenDuringSetUp "<thread>" "AccountTest.transfer")) := by
    decide +kernel
  have hbroken : ((c.afterTest t w).1.isOk) = false := by decide +kernel
  have hlengths : (c.beforeMoves t Sample.start).length = 2 ∧ (c.afterMoves t w).length = 1 := by
    decide +kernel
  refine ⟨⟨_, htaken, (hbefore _ htaken).2.1⟩, ?_, hlengths.1, hlengths.2, fun x hx => ?_⟩
  · cases he : (c.afterTest t w).1 with
    | ok _ =>
      rw [he] at hbroken
      cases hbroken
    | error e => exact ⟨e, rfl, (hafter e he).2.1⟩
  · rcases List.mem_append.1 hx with hx | hx
    · exact hlegal x (List.mem_append_left _ hx)
    · exact hlegal' x (List.mem_append_right _ hx)

end TransactionalTest
