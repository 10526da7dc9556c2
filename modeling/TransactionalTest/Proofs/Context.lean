import TransactionalTest.InTest
import TransactionalTest.Proofs.World

/-!
# Contexts, operation by operation

* `SameSlots` : the published contexts and the states of the controllers are as they were;
* `Context.start_cases` : a start without a handle fails with the manager or takes a new handle;
* `Context.finish_of_some` : an end gives the handle up whatever the manager answers;
* `InTest.withContext_of_none`, `InTest.withContext_of_some` : work on the published context.
-/

namespace TransactionalTest

variable {α : Type}

/-! ### Slots and states -/

/-- The published contexts and the states of the controllers are as they were. -/
structure SameSlots (w w' : World α) : Prop where
  contexts : w'.contexts = w.contexts
  states : w'.states = w.states

namespace SameSlots

variable {u v w w' : World α}

theorem refl (w : World α) : SameSlots w w := ⟨rfl, rfl⟩

theorem trans (h : SameSlots u v) (h' : SameSlots v w) : SameSlots u w :=
  ⟨h'.contexts.trans h.contexts, h'.states.trans h.states⟩

theorem quiet (q : w.Quiet w') : SameSlots w w' := ⟨q.contexts, q.states⟩

theorem context? (h : SameSlots w w') (key : ExecutionKey) :
    w'.context? key = w.context? key := by
  rw [World.context?, World.context?, h.contexts]

end SameSlots

/-! ### Operations of a context -/

namespace Context

variable {c : Context} {status : Status} {w : World α}

theorem quiet_reportOperation (c : Context) (operation : String) (status : Status)
    (w : World α) : w.Quiet (c.reportOperation operation status w) :=
  World.Quiet.report _ w

theorem isActive_of_some (hs : c.status = some status)
    (h : status.id ∉ (w.store c.manager).completed) : c.isActive w = true := by
  simp [isActive, hs, Store.isCompleted_eq_false h]

theorem isActive_iff : c.isActive w = true ↔
    ∃ status, c.status = some status ∧ status.id ∉ (w.store c.manager).completed := by
  unfold isActive
  cases hs : c.status with
  | none => simp
  | some status => simp [Store.isCompleted]

/-- The context after its manager has begun a transaction. -/
def begun (c : Context) (w : World α) : Context :=
  { c with status := some (w.nextHandle c.intent), starts := c.starts + 1 }

/-- The world after that, with the report. -/
def begunWorld (c : Context) (w : World α) : World α :=
  c.reportOperation Operation.transactionStarted (w.nextHandle c.intent)
    (w.opening c.manager c.intent)

theorem quiet_begunWorld (c : Context) (w : World α) :
    (w.opening c.manager c.intent).Quiet (c.begunWorld w) :=
  quiet_reportOperation ..

theorem store_begunWorld_self (c : Context) (w : World α) :
    (c.begunWorld w).store c.manager = { w.store c.manager with
      opened := (w.store c.manager).opened.insert (w.nextHandle c.intent).id ⟨c.intent.name, []⟩
      events := (w.store c.manager).events ++ [.began c.intent.name c.intent.readOnly] } :=
  ((quiet_begunWorld c w).store _).trans (World.store_opening_self ..)

theorem start_of_some (hs : c.status = some status) (w : World α) :
    c.start w = (.error (.illegalState .alreadyStarted), c, w) := by
  simp only [start, hs]

/-- A start without a handle fails with the manager or takes a new handle. -/
theorem start_cases (hs : c.status = none) (w : World α) :
    (∃ reason, c.start w = (.error (.transactionStart c.testName (.begin reason)), c,
        w.refusing c.manager c.intent reason)) ∨
      c.start w = (.ok (), c.begun w, c.begunWorld w) := by
  unfold start
  rw [hs]
  rcases w.begin_cases c.manager c.intent with ⟨reason, h⟩ | h
  · exact .inl ⟨reason, by rw [h]⟩
  · exact .inr (by rw [h]; rfl)

theorem start_of_unarmed (hs : c.status = none)
    (h : (w.store c.manager).beginFailure = none) :
    c.start w = (.ok (), c.begun w, c.begunWorld w) := by
  unfold start
  rw [hs, World.begin_of_unarmed h]
  rfl

theorem start_of_armed {reason : String} (hs : c.status = none)
    (h : (w.store c.manager).beginFailure = some reason) :
    c.start w = (.error (.transactionStart c.testName (.begin reason)), c,
      w.refusing c.manager c.intent reason) := by
  unfold start
  rw [hs, World.begin_of_armed h]

/-- The request with which a context ends its transaction. -/
def ending (c : Context) (status : Status) (w : World α) :
    Except TransactionError Unit × World α :=
  (w.report (.transactionEnding status c.testName c.flaggedForRollback)).finish c.manager status
    c.flaggedForRollback

theorem finish_of_none (hs : c.status = none) (w : World α) :
    c.finish w = (.error (.illegalState .nothingToEnd), c, w) := by
  simp only [finish, hs]

/-- An end gives the handle up whatever the manager answers. -/
theorem finish_of_some (hs : c.status = some status) (w : World α) :
    ∃ w', (c.ending status w).2.Quiet w' ∧ c.finish w =
      ((c.ending status w).1.mapError (.transactionEnd c.testName), { c with status := none },
        w') := by
  unfold finish
  simp only [hs]
  rcases h : (w.report (.transactionEnding status c.testName c.flaggedForRollback)).finish
    c.manager status c.flaggedForRollback with ⟨_ | _, w₁⟩
  · exact ⟨w₁, by rw [ending, h]; exact .refl w₁, by rw [ending, h]; rfl⟩
  · refine ⟨c.reportOperation (if c.flaggedForRollback then Operation.transactionRolledBack
      else Operation.transactionCommitted) status w₁, ?_, ?_⟩
    · rw [ending, h]
      exact quiet_reportOperation ..
    · rw [ending, h]
      rfl

theorem store_ending_self (c : Context) (status : Status) (w : World α) :
    (c.ending status w).2.store c.manager =
      ((w.store c.manager).finish status c.flaggedForRollback).2 :=
  World.store_finish_self ..

theorem endings_ending (c : Context) (status : Status) (w : World α) :
    (c.ending status w).2.endings = w.endings ++
      [⟨c.manager, status, c.flaggedForRollback, (c.ending status w).1⟩] :=
  (World.endings_finish ..).trans (by rw [(World.Quiet.report _ w).endings]; rfl)

theorem sameSlots_start (c : Context) (w : World α) : SameSlots w (c.start w).2.2 := by
  cases hs : c.status with
  | some status =>
    rw [start_of_some hs]
    exact .refl w
  | none => rcases start_cases hs w with ⟨reason, h⟩ | h <;> rw [h] <;> exact ⟨rfl, rfl⟩

theorem sameSlots_ending (c : Context) (status : Status) (w : World α) :
    SameSlots w (c.ending status w).2 := ⟨rfl, rfl⟩

theorem sameSlots_finish (c : Context) (w : World α) : SameSlots w (c.finish w).2.2 := by
  cases hs : c.status with
  | none =>
    rw [finish_of_none hs]
    exact .refl w
  | some status =>
    obtain ⟨w', hq, h⟩ := finish_of_some hs w
    rw [h]
    exact (c.sameSlots_ending status w).trans (.quiet hq)

end Context

namespace World

/-! ### Slots -/

/-- The world with another context in a slot. -/
def setContext (key : ExecutionKey) (c : Context) (w : World α) : World α :=
  { w with contexts := w.contexts.insert key c }

theorem context?_setContext_self (key : ExecutionKey) (c : Context) (w : World α) :
    (w.setContext key c).context? key = some c :=
  Table.find?_insert_self ..

theorem context?_setContext_of_ne {j key : ExecutionKey} (h : j ≠ key) (c : Context)
    (w : World α) : (w.setContext key c).context? j = w.context? j :=
  Table.find?_insert_of_ne h ..

end World

namespace InTest

variable {ρ : Type} {key : ExecutionKey} {w : World α}

theorem withContext_of_none (h : w.context? key = none)
    (f : Context → World α → Except LifecycleError ρ × Context × World α) :
    withContext key f w = (.error (.illegalState (.unmanaged key.display)), w) := by
  simp only [withContext, World.withCurrent, h]

theorem withContext_of_some {c : Context} (h : w.context? key = some c)
    (f : Context → World α → Except LifecycleError ρ × Context × World α) :
    withContext key f w = ((f c w).1, (f c w).2.2.setContext key (f c w).2.1) := by
  simp only [withContext, World.withCurrent, h]
  rfl

end InTest

end TransactionalTest
