import Mathlib.Data.List.Perm.Basic
import TransactionalTest.Proofs.Ownership

/-!
# Who can still end an open transaction

The handle of a transaction is in one context, and the context is in a slot of the holder or in the
hands of a caller.  As long as it is, somebody can end the transaction.  A context that is handed
over for good and then let go of takes its handle with it, and if the transaction is open nobody
will ever end it.

* `World.Running` : a transaction that has begun and has not been ended;
* `Custody` : the contexts in hands, and the world with those in slots;
* `HolderStep` : what can be done with the holder and with the contexts;
* `HolderStep.lost?` : the open transaction of a context that a publish refuses and keeps;
* `Custody.Move`, `HolderStep.move` : what a step does to handles and open transactions;
* `Custody.orphaned_runAll` : after every run, the open transactions that nobody can end are those
  there were before, and those that a refused publish has lost;
* `Custody.orphan_of_refused_publish` : such a one.
-/

namespace TransactionalTest

variable {α : Type}

/-! ### Transactions that are open -/

namespace World

variable {w w' : World α} {k : Manager × TransactionId}

/-- The transaction has begun at its manager and has not been ended there. -/
def Running (k : Manager × TransactionId) (w : World α) : Prop :=
  (w.store k.1).IsOpen k.2 ∧ k.2 ∉ (w.store k.1).completed

/-- The transaction has begun at its manager, whether or not it has been ended. -/
def Knows (k : Manager × TransactionId) (w : World α) : Prop := (w.store k.1).Knows k.2

instance (k : Manager × TransactionId) (w : World α) : Decidable (w.Running k) :=
  inferInstanceAs (Decidable (k.2 ∈ (w.store k.1).opened.keys ∧ k.2 ∉ (w.store k.1).completed))

theorem Running.knows (h : w.Running k) : w.Knows k := .inl h.1

/-- Every manager has the same transactions open and the same ones completed. -/
structure SameTransactions (w w' : World α) : Prop where
  opened : ∀ m, (w'.store m).opened.keys = (w.store m).opened.keys
  completed : ∀ m, (w'.store m).completed = (w.store m).completed

namespace SameTransactions

theorem of_ledger (h : w'.ledger = w.ledger) : w.SameTransactions w' :=
  ⟨fun m => congrFun (congrArg Ledger.opened h) m,
    fun m => congrFun (congrArg Ledger.completed h) m⟩

theorem running (h : w.SameTransactions w') : w'.Running k ↔ w.Running k := by
  rw [Running, Running, Store.IsOpen, Store.IsOpen, h.opened, h.completed]

theorem knows (h : w.SameTransactions w') : w'.Knows k ↔ w.Knows k := by
  rw [Knows, Knows, Store.Knows, Store.Knows, Store.IsOpen, Store.IsOpen, h.opened, h.completed]

end SameTransactions

/-- An end that is refused leaves every transaction as it is. -/
theorem sameTransactions_finish {m : Manager} {status : Status} (h : ¬ w.Running (m, status.id))
    (rollback : Bool) : w.SameTransactions (w.finish m status rollback).2 := by
  obtain ⟨e, he⟩ : ∃ e, (w.store m).Refused status.id e :=
    ((w.store m).refused_or_open status.id).resolve_right fun ⟨hc, _, ho⟩ =>
      h ⟨Table.mem_keys_of_find? ho, hc⟩
  have hstore : ∀ n, (w.finish m status rollback).2.store n = w.store n := by
    intro n
    by_cases hn : n = m
    · subst hn
      rw [store_finish_self, Store.finish_of_refused he]
    · exact store_finish_of_ne hn ..
  exact ⟨fun n => by rw [hstore], fun n => by rw [hstore]⟩

end World

namespace Context

variable {w w' : World α} {x x' : Context} {status : Status} {k : Manager × TransactionId}

/-- The transaction whose handle the context has. -/
def handle? (x : Context) : Option (Manager × TransactionId) :=
  x.status.map fun status => (x.manager, status.id)

theorem handle?_of_some (h : x.status = some status) :
    x.handle? = some (x.manager, status.id) := by
  rw [handle?, h]
  rfl

/-- A context with the handle of an open transaction is active. -/
theorem isActive_of_running (hx : x.handle? = some k) (hk : w.Running k) : x.isActive w = true := by
  obtain ⟨status, hs, rfl⟩ := Option.map_eq_some_iff.1 hx
  exact isActive_of_some hs hk.2

theorem mem_opened_begunWorld (h : w.Minted) (x : Context) (m : Manager) (id : TransactionId) :
    id ∈ ((x.begunWorld w).store m).opened.keys ↔
      id ∈ (w.store m).opened.keys ∨ m = x.manager ∧ id = (w.nextHandle x.intent).id := by
  have hledger : ((x.begunWorld w).store m).opened.keys =
      (w.ledger.begin x.manager (w.nextHandle x.intent)).opened m :=
    congrFun (congrArg Ledger.opened (ledger_begunWorld h x)) m
  rw [hledger]
  exact Ledger.mem_opened_begin

theorem completed_begunWorld (h : w.Minted) (x : Context) (m : Manager) :
    ((x.begunWorld w).store m).completed = (w.store m).completed :=
  congrFun (congrArg Ledger.completed (ledger_begunWorld h x)) m

theorem running_begunWorld (h : w.Minted) (x : Context) : (x.begunWorld w).Running k ↔
    k = (x.manager, (w.nextHandle x.intent).id) ∨ w.Running k := by
  have hnew := h.not_completed x.manager x.intent
  rw [World.Running, World.Running, Store.IsOpen, mem_opened_begunWorld h,
    completed_begunWorld h, Prod.ext_iff]
  constructor
  · rintro ⟨hold | hk, hc⟩
    · exact .inr ⟨hold, hc⟩
    · exact .inl hk
  · rintro (⟨hm, hid⟩ | ⟨hold, hc⟩)
    · exact ⟨.inr ⟨hm, hid⟩, by rw [hm, hid]; exact hnew⟩
    · exact ⟨.inl hold, hc⟩

theorem knows_begunWorld (h : w.Minted) (x : Context) (hk : w.Knows k) :
    (x.begunWorld w).Knows k := by
  rw [World.Knows, Store.Knows, Store.IsOpen, mem_opened_begunWorld h, completed_begunWorld h]
  exact hk.imp .inl id

/-- The manager refuses to end a transaction that is not open, and else completes it. -/
theorem ending_cases (x : Context) (status : Status) (w : World α) :
    (¬ w.Running (x.manager, status.id) ∧ w.SameTransactions (x.ending status w).2) ∨
      (∀ m id, id ∈ ((x.ending status w).2.store m).opened.keys ↔
        id ∈ (w.store m).opened.keys ∧ ¬ (m = x.manager ∧ id = status.id)) ∧
      ∀ m id, id ∈ ((x.ending status w).2.store m).completed ↔
        id ∈ (w.store m).completed ∨ m = x.manager ∧ id = status.id := by
  by_cases hopen : w.Running (x.manager, status.id)
  · have hledger : (x.ending status w).2.ledger = w.ledger.finish (x.entry status w) :=
      ledger_ending ⟨hopen.1, hopen.2⟩
    refine .inr ⟨fun m id => ?_, fun m id => ?_⟩
    · have hopened : ((x.ending status w).2.store m).opened.keys =
          (w.ledger.finish (x.entry status w)).opened m :=
        congrFun (congrArg Ledger.opened hledger) m
      rw [hopened]
      exact Ledger.mem_opened_finish
    · have hcompleted : ((x.ending status w).2.store m).completed =
          (w.ledger.finish (x.entry status w)).completed m :=
        congrFun (congrArg Ledger.completed hledger) m
      rw [hcompleted]
      exact Ledger.mem_completed_finish
  · -- the report that the end is asked for touches no store
    have hsame := World.sameTransactions_finish (w := w.report (.transactionEnding status x.testName
      x.flaggedForRollback)) hopen x.flaggedForRollback
    exact .inl ⟨hopen, hsame.opened, hsame.completed⟩

/-- Whatever the manager answers to an end, the transaction is not open afterwards, and every other
one is as before. -/
theorem running_ending (x : Context) (status : Status) (w : World α) :
    (x.ending status w).2.Running k ↔ k ≠ (x.manager, status.id) ∧ w.Running k := by
  rcases x.ending_cases status w with ⟨hnot, hsame⟩ | ⟨hopened, hcompleted⟩
  · rw [hsame.running]
    refine ⟨fun hk => ⟨?_, hk⟩, And.right⟩
    rintro rfl
    exact hnot hk
  · rw [World.Running, World.Running, Store.IsOpen, hopened, hcompleted, ne_eq, Prod.ext_iff]
    tauto

theorem knows_ending (x : Context) (status : Status) (hk : w.Knows k) :
    (x.ending status w).2.Knows k := by
  rcases x.ending_cases status w with ⟨-, hsame⟩ | ⟨hopened, hcompleted⟩
  · exact hsame.knows.2 hk
  · rw [World.Knows, Store.Knows, Store.IsOpen] at hk ⊢
    rw [hopened, hcompleted]
    tauto

end Context

/-! ### What a context can do -/

/-- What can be done with a context by whoever has it in hand, or works on it in its slot. -/
inductive ContextStep where
  | start
  | finish
  | flag (rollback : Bool)

namespace ContextStep

variable {w : World α} {k : Manager × TransactionId}

/-- Take the step. -/
def run (step : ContextStep) (x : Context) (w : World α) :
    Except LifecycleError Unit × Context × World α :=
  match step with
  | start => x.start w
  | finish => x.finish w
  | flag rollback => (.ok (), { x with flaggedForRollback := rollback }, w)

end ContextStep

/-- What may become of the handle of a context, and of the open transactions. -/
inductive Context.Turn (x x' : Context) (w w' : World α) : Prop
  /-- Nothing. -/
  | kept (handle : x'.handle? = x.handle?) (running : ∀ k, w'.Running k ↔ w.Running k)
  /-- The context has a new transaction. -/
  | begun (k : Manager × TransactionId) (had : x.handle? = none) (has : x'.handle? = some k)
      (fresh : ¬ w.Knows k) (running : ∀ j, w'.Running j ↔ j = k ∨ w.Running j)
  /-- Its transaction is open no more. -/
  | ended (k : Manager × TransactionId) (had : x.handle? = some k) (has : x'.handle? = none)
      (running : ∀ j, w'.Running j ↔ j ≠ k ∧ w.Running j)

/-- No slot is there twice, identifiers that are to be given out are still new, and those that have
been given out are still known. -/
structure World.Onward (w w' : World α) : Prop where
  slots : w.contexts.keys.Nodup → w'.contexts.keys.Nodup
  minted : w.Minted → w'.Minted
  knows : w.Minted → ∀ k, w.Knows k → w'.Knows k

namespace World.Onward

variable {u v w w' : World α}

theorem refl (w : World α) : w.Onward w := ⟨id, id, fun _ _ => id⟩

theorem trans (h : u.Onward v) (h' : v.Onward w) : u.Onward w :=
  ⟨h'.slots ∘ h.slots, h'.minted ∘ h.minted, fun hm k hk => h'.knows (h.minted hm) k (h.knows hm k hk)⟩

theorem of_ledger (hc : w'.contexts = w.contexts) (hm : w.Minted → w'.Minted)
    (h : w'.ledger = w.ledger) : w.Onward w' :=
  ⟨fun hn => hc ▸ hn, hm, fun _ _ hk => (SameTransactions.of_ledger h).knows.2 hk⟩

theorem refusing (m : Manager) (a : Attribute) (reason : String) (w : World α) :
    w.Onward (w.refusing m a reason) :=
  .of_ledger rfl (fun h => h.refusing m a reason) (ledger_refusing ..)

theorem begunWorld (x : Context) (w : World α) : w.Onward (x.begunWorld w) :=
  ⟨id, fun h => (h.opening x.manager x.intent).quiet (x.quiet_begunWorld w),
    fun h _ hk => x.knows_begunWorld h hk⟩

/-- The end of a transaction, with whatever is reported of it. -/
theorem ending {x : Context} {status : Status} (q : (x.ending status w).2.Quiet w') :
    w.Onward w' := by
  refine ⟨fun hn => ?_, fun h => ?_, fun _ k hk => ?_⟩
  · rw [q.contexts]
    exact hn
  · exact ((h.quiet (Quiet.report _ w)).finish x.manager status x.flaggedForRollback).quiet q
  · exact (SameTransactions.of_ledger q.ledger).knows.2 (x.knows_ending status hk)

theorem setContext (key : ExecutionKey) (x : Context) (w : World α) :
    w.Onward (w.setContext key x) :=
  ⟨fun hn => Table.nodup_keys_insert hn x, id, fun _ _ => id⟩

theorem take (key : ExecutionKey) (w : World α) : w.Onward (w.take key).2 :=
  ⟨fun hn => Table.nodup_keys_erase hn key, id, fun _ _ => id⟩

end World.Onward

namespace ContextStep

variable {w : World α}

/-- A step of a context gives it a new transaction, ends the one that it has, or does neither. -/
theorem turn (h : w.Minted) (step : ContextStep) (x : Context) :
    x.Turn (step.run x w).2.1 w (step.run x w).2.2 := by
  cases step with
  | flag rollback => exact .kept rfl fun _ => .rfl
  | start =>
    cases hs : x.status with
    | some status =>
      rw [run, Context.start_of_some hs]
      exact .kept rfl fun _ => .rfl
    | none =>
      rcases Context.start_cases hs w with ⟨reason, hr⟩ | hr <;> rw [run, hr]
      · exact .kept rfl fun _ =>
          (World.SameTransactions.of_ledger (World.ledger_refusing ..)).running
      · exact .begun (x.manager, (w.nextHandle x.intent).id) (by simp [Context.handle?, hs]) rfl
          (h.nextHandle x.manager x.intent) fun _ => x.running_begunWorld h
  | finish =>
    cases hs : x.status with
    | none =>
      rw [run, Context.finish_of_none hs]
      exact .kept rfl fun _ => .rfl
    | some status =>
      obtain ⟨w', hq, hfin⟩ := Context.finish_of_some hs w
      rw [run, hfin]
      refine .ended (x.manager, status.id) (Context.handle?_of_some hs) rfl fun j => ?_
      rw [(World.SameTransactions.of_ledger hq.ledger).running]
      exact x.running_ending status w

theorem onward (step : ContextStep) (x : Context) (w : World α) :
    w.Onward (step.run x w).2.2 := by
  cases step with
  | flag rollback => exact .refl w
  | start =>
    cases hs : x.status with
    | some status =>
      rw [run, Context.start_of_some hs]
      exact .refl w
    | none =>
      rcases Context.start_cases hs w with ⟨reason, hr⟩ | hr <;> rw [run, hr]
      · exact .refusing ..
      · exact .begunWorld x w
  | finish =>
    cases hs : x.status with
    | none =>
      rw [run, Context.finish_of_none hs]
      exact .refl w
    | some status =>
      obtain ⟨w', hq, hfin⟩ := Context.finish_of_some hs w
      rw [run, hfin]
      exact .ending hq

end ContextStep

/-- A rejected context whose transaction is open gets it rolled back; no other one is touched. -/
theorem Controller.running_rollBackUnpublished (x : Context) (w : World α)
    (k : Manager × TransactionId) :
    (rollBackUnpublished x w).Running k ↔ x.handle? ≠ some k ∧ w.Running k := by
  by_cases ha : x.isActive w = true
  · obtain ⟨status, hs, hc⟩ := Context.isActive_iff.1 ha
    rw [(World.SameTransactions.of_ledger (quiet_rollBackUnpublished hs hc).ledger).running,
      Context.running_ending, Context.handle?_of_some hs, ne_eq, ne_eq, Option.some.injEq, eq_comm]
  · rw [rollBackUnpublished, if_neg ha]
    exact ⟨fun hk => ⟨fun hx => ha (Context.isActive_of_running hx hk), hk⟩, And.right⟩

theorem Controller.onward_rollBackUnpublished (x : Context) (w : World α) :
    w.Onward (rollBackUnpublished x w) := by
  by_cases ha : x.isActive w = true
  · obtain ⟨status, hs, hc⟩ := Context.isActive_iff.1 ha
    exact .ending (x := { x with flaggedForRollback := true }) (quiet_rollBackUnpublished hs hc)
  · rw [rollBackUnpublished, if_neg ha]
    exact .refl w

/-! ### The holder and the hands -/

/-- The contexts in the hands of callers, and the world, where the others are in their slots. -/
structure Custody (α : Type) where
  hands : List Context
  world : World α

namespace Custody

variable {s s' : Custody α} {k : Manager × TransactionId}

/-- All contexts, in hands and in slots. -/
def contexts (s : Custody α) : List Context := s.hands ++ s.world.contexts.map Prod.snd

/-- The transactions whose handles these contexts have. -/
def handles (s : Custody α) : List (Manager × TransactionId) :=
  s.contexts.filterMap Context.handle?

/-- Do something with the context in a hand, if there is one. -/
def withHand (i : Nat) (f : Context → Custody α) (s : Custody α) : Custody α :=
  match s.hands[i]? with
  | none => s
  | some x => f x

/-- The transaction is open, and no context in a hand or a slot has its handle. -/
def Orphaned (k : Manager × TransactionId) (s : Custody α) : Prop :=
  s.world.Running k ∧ k ∉ s.handles

/-- No two contexts have the handle of one transaction, a handle is that of a transaction that has
begun, and identifiers that are to be given out are new. -/
structure Sound (s : Custody α) : Prop where
  slots : s.world.contexts.keys.Nodup
  unique : s.handles.Nodup
  known : ∀ k ∈ s.handles, s.world.Knows k
  minted : s.world.Minted

/-- Before the first context there is nothing to be kept track of. -/
theorem sound_of_unopened {w : World α} (h : w.Unopened) : (⟨[], w⟩ : Custody α).Sound := by
  have hnone : (⟨[], w⟩ : Custody α).handles = [] := by
    simp [handles, contexts, h.contexts]
  refine ⟨?_, ?_, fun k hk => ?_, h.minted⟩
  · simp [h.contexts, Table.keys]
  · rw [hnone]
    exact List.nodup_nil
  · rw [hnone] at hk
    cases hk

end Custody

/-- What callers can do with the holder and with contexts. -/
inductive HolderStep where
  /-- Make a context; it has no transaction yet. -/
  | make (test : String) (manager : Manager) (intent : Attribute) (rollback : Bool)
  /-- Publish the context in a hand; the caller gives it away for good. -/
  | publish (hand : Nat) (key : ExecutionKey)
  /-- Publish the context in a hand, and take it back if the slot is not empty. -/
  | tryPublish (hand : Nat) (key : ExecutionKey)
  /-- Publish the context in a hand as the before-test phase does. -/
  | publishStarted (hand : Nat) (key : ExecutionKey)
  | take (key : ExecutionKey)
  /-- Work on the context in a slot; several steps of such work are several of these. -/
  | withCurrent (key : ExecutionKey) (step : ContextStep)
  /-- Work on the context in a hand. -/
  | withOwn (hand : Nat) (step : ContextStep)
  | failNextBegin (manager : Manager) (reason : String)
  | failNextFinish (manager : Manager) (reason : String)

namespace HolderStep

/-- Take the step; without a context in the hand nothing happens. -/
def run (step : HolderStep) (s : Custody α) : Custody α :=
  match step with
  | make test m a rollback =>
    { s with hands := s.hands ++
        [{ testName := test, manager := m, intent := a, flaggedForRollback := rollback }] }
  | publish i key =>
    s.withHand i fun x => ⟨s.hands.eraseIdx i, (s.world.publish key x).2⟩
  | tryPublish i key =>
    s.withHand i fun x =>
      let (rejected, w) := s.world.tryPublish key x
      ⟨s.hands.eraseIdx i ++ rejected.toList, w⟩
  | publishStarted i key =>
    s.withHand i fun x => ⟨s.hands.eraseIdx i, (Controller.publish key x s.world).2⟩
  | take key =>
    let (taken, w) := s.world.take key
    ⟨s.hands ++ taken.toList, w⟩
  | withCurrent key step => { s with world := (s.world.withCurrent key step.run).2 }
  | withOwn i step =>
    s.withHand i fun x =>
      let (_, x, w) := step.run x s.world
      ⟨s.hands.set i x, w⟩
  | failNextBegin m reason => { s with world := s.world.failNextBegin m reason }
  | failNextFinish m reason => { s with world := s.world.failNextFinish m reason }

/-- Take steps one after another. -/
def runAll : List HolderStep → Custody α → Custody α
  | [], s => s
  | step :: steps, s => runAll steps (step.run s)

/-- The open transaction of a context that a publish refuses and does not give back. -/
def lost? (step : HolderStep) (s : Custody α) : Option (Manager × TransactionId) :=
  match step with
  | publish i key =>
    s.hands[i]?.bind fun x =>
      if (s.world.publish key x).1.isOk then none
      else if x.isActive s.world then x.handle? else none
  | _ => none

/-- What the publishes of a run lose. -/
def lost : List HolderStep → Custody α → List (Manager × TransactionId)
  | [], _ => []
  | step :: steps, s => (step.lost? s).toList ++ lost steps (step.run s)

end HolderStep

/-! ### One step -/

namespace Custody

variable {s s' : Custody α} {x x' : Context} {k : Manager × TransactionId} {key : ExecutionKey}
  {i : Nat} {rest : List Context}

/-- What a step may do to handles and open transactions, and which transaction it loses. -/
inductive Move (s s' : Custody α) : Option (Manager × TransactionId) → Prop
  /-- Handles are moved about. -/
  | kept (handles : s'.handles.Perm s.handles)
      (running : ∀ j, s'.world.Running j ↔ s.world.Running j) : Move s s' none
  /-- A transaction begins, and a context gets its handle. -/
  | begun (k : Manager × TransactionId) (handles : s'.handles.Perm (k :: s.handles))
      (fresh : ¬ s.world.Knows k)
      (running : ∀ j, s'.world.Running j ↔ j = k ∨ s.world.Running j) : Move s s' none
  /-- A handle is given up, and its transaction is open no more. -/
  | ended (k : Manager × TransactionId) (handles : s.handles.Perm (k :: s'.handles))
      (running : ∀ j, s'.world.Running j ↔ j ≠ k ∧ s.world.Running j) : Move s s' none
  /-- A handle is given up, and its transaction stays open. -/
  | lost (k : Manager × TransactionId) (handles : s.handles.Perm (k :: s'.handles))
      (opened : s.world.Running k)
      (running : ∀ j, s'.world.Running j ↔ s.world.Running j) : Move s s' (some k)

/-- The handles of the contexts, one context taken apart. -/
theorem handles_perm (h : s.contexts.Perm (x :: rest)) :
    s.handles.Perm (x.handle?.toList ++ rest.filterMap Context.handle?) := by
  refine (h.filterMap _).trans ?_
  cases hx : x.handle? <;> simp [hx]

/-- A step that moves contexts about. -/
theorem Move.of_perm (h : s'.contexts.Perm s.contexts)
    (running : ∀ j, s'.world.Running j ↔ s.world.Running j) : Move s s' none :=
  .kept (h.filterMap _) running

/-- A step that works on one context. -/
theorem Move.of_turn (h : s.contexts.Perm (x :: rest)) (h' : s'.contexts.Perm (x' :: rest))
    (ht : x.Turn x' s.world s'.world) : Move s s' none := by
  have hs := handles_perm h
  have hs' := handles_perm h'
  cases ht with
  | kept handle running =>
    rw [handle] at hs'
    exact .kept (hs'.trans hs.symm) running
  | begun k had has fresh running =>
    rw [had] at hs
    rw [has] at hs'
    exact .begun k (hs'.trans (hs.symm.cons k)) fresh running
  | ended k had has running =>
    rw [had] at hs
    rw [has] at hs'
    exact .ended k (hs.trans (hs'.symm.cons k)) running

/-- A step that lets go of a context whose transaction, if it was open, is not open afterwards. -/
theorem Move.of_drop (h : s.contexts.Perm (x :: s'.contexts))
    (running : ∀ j, s'.world.Running j ↔ x.handle? ≠ some j ∧ s.world.Running j) :
    Move s s' none := by
  have hs := handles_perm h
  cases hx : x.handle? with
  | none =>
    rw [hx] at hs
    exact .kept hs.symm fun j => (running j).trans (by simp [hx])
  | some k =>
    rw [hx] at hs
    refine .ended k hs fun j => (running j).trans ?_
    rw [hx, ne_eq, Option.some.injEq, eq_comm]

/-! Where a context is. -/

theorem contexts_perm_hand (hi : s.hands[i]? = some x) : s.contexts.Perm
    (x :: (s.hands.eraseIdx i ++ s.world.contexts.map Prod.snd)) := by
  obtain ⟨hlt, rfl⟩ := List.getElem?_eq_some_iff.1 hi
  exact (List.getElem_cons_eraseIdx_perm hlt).symm.append_right _

theorem contexts_perm_slot (hn : s.world.contexts.keys.Nodup)
    (hx : s.world.context? key = some x) : s.contexts.Perm
      (x :: (s.hands ++ (s.world.contexts.erase key).map Prod.snd)) :=
  (((Table.perm_of_find? hn hx).map Prod.snd).append_left s.hands).trans List.perm_middle

theorem contexts_perm_setContext (hn : s.world.contexts.keys.Nodup) (hands : List Context)
    (key : ExecutionKey) (x : Context) :
    (⟨hands, s.world.setContext key x⟩ : Custody α).contexts.Perm
      (x :: (hands ++ (s.world.contexts.erase key).map Prod.snd)) :=
  (((Table.perm_insert hn key x).map Prod.snd).append_left hands).trans List.perm_middle

theorem contexts_perm_set (hi : s.hands[i]? = some x) (x' : Context) {w : World α}
    (hw : w.contexts = s.world.contexts) : (⟨s.hands.set i x', w⟩ : Custody α).contexts.Perm
      (x' :: (s.hands.eraseIdx i ++ s.world.contexts.map Prod.snd)) := by
  obtain ⟨hlt, -⟩ := List.getElem?_eq_some_iff.1 hi
  rw [contexts, hw]
  exact (List.set_perm_cons_eraseIdx hlt x').append_right _

/-- A context in a hand is published in a free slot. -/
theorem contexts_perm_published (h : s.Sound) (hi : s.hands[i]? = some x)
    (hfree : s.world.context? key = none) :
    (⟨s.hands.eraseIdx i, s.world.setContext key x⟩ : Custody α).contexts.Perm s.contexts := by
  have hput := contexts_perm_setContext h.slots (s.hands.eraseIdx i) key x
  rw [Table.erase_of_notMem (Table.find?_eq_none_iff.1 hfree)] at hput
  exact hput.trans (contexts_perm_hand hi).symm

/-- A step with a context in a hand is up to that context, and nothing happens without one. -/
theorem Move.withHand {f : Context → Custody α}
    (hf : ∀ x, s.hands[i]? = some x → Move s (f x) none) : Move s (s.withHand i f) none := by
  unfold Custody.withHand
  cases hi : s.hands[i]? with
  | none => exact .of_perm (.refl _) fun _ => .rfl
  | some x => exact hf x hi

end Custody

namespace World

variable {w w' : World α} {key : ExecutionKey} {x x' : Context}

theorem tryPublish_of_free (h : w.context? key = none) (x : Context) :
    w.tryPublish key x = (none, w.setContext key x) := by
  rw [tryPublish, h]
  rfl

theorem tryPublish_of_taken {y : Context} (h : w.context? key = some y) (x : Context) :
    w.tryPublish key x = (some x, w) := by
  rw [tryPublish, h]

theorem publish_of_free (h : w.context? key = none) (x : Context) :
    w.publish key x = (.ok (), w.setContext key x) := by
  rw [publish, tryPublish_of_free h]

theorem publish_of_taken {y : Context} (h : w.context? key = some y) (x : Context) :
    w.publish key x = (.error (.illegalState (.slotTaken key.display)), w) := by
  rw [publish, tryPublish_of_taken h]

theorem withCurrent_of_some {ρ : Type} (h : w.context? key = some x)
    (f : Context → World α → ρ × Context × World α) : w.withCurrent key f =
      (some (f x w).1, (f x w).2.2.setContext key (f x w).2.1) := by
  rw [withCurrent, h]
  rfl

end World

/-- To put a context in a slot touches no transaction. -/
theorem Context.Turn.setContext {w w' : World α} {x x' : Context} (h : x.Turn x' w w')
    (key : ExecutionKey) (y : Context) : x.Turn x' w (w'.setContext key y) := by
  cases h with
  | kept handle running => exact .kept handle running
  | begun k had has fresh running => exact .begun k had has fresh running
  | ended k had has running => exact .ended k had has running

theorem ContextStep.contexts_run (step : ContextStep) (x : Context) (w : World α) :
    (step.run x w).2.2.contexts = w.contexts := by
  cases step with
  | start => exact (x.sameSlots_start w).contexts
  | finish => exact (x.sameSlots_finish w).contexts
  | flag rollback => rfl

namespace HolderStep

open Custody

variable {s : Custody α} {x : Context} {key : ExecutionKey} {i : Nat}

section

variable (h : s.Sound)
include h

theorem move_publish (i : Nat) (key : ExecutionKey) :
    Move s ((publish i key).run s) ((publish i key).lost? s) := by
  simp only [run, withHand, lost?]
  cases hi : s.hands[i]? with
  | none => exact .of_perm (.refl _) fun _ => .rfl
  | some x =>
    simp only [Option.bind_some]
    cases hslot : s.world.context? key with
    | none =>
      rw [World.publish_of_free hslot]
      exact .of_perm (contexts_perm_published h hi hslot) fun _ => .rfl
    | some y =>
      -- the context is gone; what matters is whether it had an open transaction
      have hdrop := contexts_perm_hand hi
      rw [World.publish_of_taken hslot]
      by_cases ha : x.isActive s.world = true
      · obtain ⟨status, hs, hc⟩ := Context.isActive_iff.1 ha
        have hhandles := handles_perm hdrop
        rw [Context.handle?_of_some hs] at hhandles
        have hknown := h.known _ (hhandles.mem_iff.2 List.mem_cons_self)
        simp only [Except.isOk, Except.toBool, ha, Context.handle?_of_some hs, ↓reduceIte,
          Bool.false_eq_true]
        exact .lost _ hhandles ⟨hknown.resolve_right hc, hc⟩ fun _ => .rfl
      · simp only [Except.isOk, Except.toBool, ha, ↓reduceIte, Bool.false_eq_true]
        refine .of_drop hdrop fun k => ⟨fun hk => ⟨fun hx => ha ?_, hk⟩, And.right⟩
        exact Context.isActive_of_running hx hk

theorem move_tryPublish (i : Nat) (key : ExecutionKey) :
    Move s ((tryPublish i key).run s) none := by
  refine .withHand fun x hi => ?_
  cases hslot : s.world.context? key with
  | none =>
    rw [World.tryPublish_of_free hslot]
    simp only [Option.toList_none, List.append_nil]
    exact .of_perm (contexts_perm_published h hi hslot) fun _ => .rfl
  | some y =>
    rw [World.tryPublish_of_taken hslot]
    refine .of_perm (.trans ?_ (contexts_perm_hand hi).symm) fun _ => .rfl
    simp only [contexts, Option.toList_some, List.append_assoc, List.singleton_append]
    exact List.perm_middle

theorem move_publishStarted (i : Nat) (key : ExecutionKey) :
    Move s ((publishStarted i key).run s) none := by
  refine .withHand fun x hi => ?_
  cases hslot : s.world.context? key with
  | none =>
    rw [Controller.publish, World.tryPublish_of_free hslot]
    exact .of_perm (contexts_perm_published h hi hslot) fun _ => .rfl
  | some y =>
    rw [Controller.publish, World.tryPublish_of_taken hslot]
    refine .of_drop ?_ (Controller.running_rollBackUnpublished x s.world)
    have hsame := (Controller.sameSlots_rollBackUnpublished x s.world).contexts
    refine (contexts_perm_hand hi).trans (.cons x ?_)
    simp only [contexts, hsame]
    exact .refl _

theorem move_take (key : ExecutionKey) : Move s ((take key).run s) none := by
  refine .of_perm ?_ fun _ => .rfl
  simp only [run, World.take]
  cases hslot : s.world.context? key with
  | none =>
    rw [Table.erase_of_notMem (Table.find?_eq_none_iff.1 hslot), Option.toList_none,
      List.append_nil]
  | some x =>
    refine .trans ?_ (contexts_perm_slot h.slots hslot).symm
    simp only [contexts, Option.toList_some, List.append_assoc, List.singleton_append]
    exact List.perm_middle

theorem move_withCurrent (key : ExecutionKey) (step : ContextStep) :
    Move s ((withCurrent key step).run s) none := by
  rw [run]
  cases hslot : s.world.context? key with
  | none =>
    have hnone : (s.world.withCurrent key step.run).2 = s.world := by
      rw [World.withCurrent, hslot]
    rw [hnone]
    exact .of_perm (.refl _) fun _ => .rfl
  | some x =>
    have hcontexts := step.contexts_run x s.world
    have hput := contexts_perm_setContext (s := ⟨s.hands, (step.run x s.world).2.2⟩)
      (by rw [hcontexts]; exact h.slots) s.hands key (step.run x s.world).2.1
    rw [hcontexts] at hput
    rw [World.withCurrent_of_some hslot]
    exact .of_turn (contexts_perm_slot h.slots hslot) hput ((step.turn h.minted x).setContext ..)

theorem move_withOwn (i : Nat) (step : ContextStep) : Move s ((withOwn i step).run s) none :=
  .withHand fun x hi => .of_turn (contexts_perm_hand hi)
    (contexts_perm_set hi _ (step.contexts_run ..)) (step.turn h.minted x)

/-- **What a step does to handles and open transactions.**  One step starts or ends at most one
transaction, together with the handle of one context; and the only step to take the handle of an
open transaction away is a publish that is refused. -/
theorem move (step : HolderStep) : Move s (step.run s) (step.lost? s) := by
  cases step with
  | make test m a rollback =>
    -- one more context, but no more handles
    have hnew : ∀ y : Context, y.handle? = none →
        (⟨s.hands ++ [y], s.world⟩ : Custody α).handles = s.handles := by
      intro y hy
      simp [handles, contexts, List.filterMap_append, hy]
    refine .kept ?_ fun _ => .rfl
    rw [run, hnew _ rfl]
  | publish i key => exact move_publish h i key
  | tryPublish i key => exact move_tryPublish h i key
  | publishStarted i key => exact move_publishStarted h i key
  | take key => exact move_take h key
  | withCurrent key step => exact move_withCurrent h key step
  | withOwn i step => exact move_withOwn h i step
  | failNextBegin m reason =>
    exact .of_perm (.refl _) fun _ =>
      (World.SameTransactions.of_ledger (World.ledger_failNextBegin ..)).running
  | failNextFinish m reason =>
    exact .of_perm (.refl _) fun _ =>
      (World.SameTransactions.of_ledger (World.ledger_failNextFinish ..)).running

end

theorem onward_withHand {f : Context → Custody α}
    (hf : ∀ x, s.hands[i]? = some x → s.world.Onward (f x).world) :
    s.world.Onward (s.withHand i f).world := by
  unfold Custody.withHand
  cases hi : s.hands[i]? with
  | none => exact .refl _
  | some x => exact hf x hi

theorem onward_tryPublish (key : ExecutionKey) (x : Context) (w : World α) :
    w.Onward (w.tryPublish key x).2 := by
  cases hslot : w.context? key with
  | none =>
    rw [World.tryPublish_of_free hslot]
    exact .setContext key x w
  | some y =>
    rw [World.tryPublish_of_taken hslot]
    exact .refl w

theorem onward (step : HolderStep) (s : Custody α) : s.world.Onward (step.run s).world := by
  cases step with
  | make => exact .refl _
  | publish i key =>
    refine onward_withHand fun x _ => ?_
    have hpublish : (s.world.publish key x).2 = (s.world.tryPublish key x).2 := by
      unfold World.publish
      split <;> rename_i h <;> rw [h]
    rw [hpublish]
    exact onward_tryPublish ..
  | tryPublish i key => exact onward_withHand fun x _ => onward_tryPublish ..
  | publishStarted i key =>
    refine onward_withHand fun x _ => ?_
    have htry := onward_tryPublish key x s.world
    simp only [Controller.publish]
    split <;> rename_i h <;> rw [h] at htry
    · exact htry
    · exact htry.trans (Controller.onward_rollBackUnpublished ..)
  | take key => exact .take key _
  | withCurrent key step =>
    rw [run]
    cases hslot : s.world.context? key with
    | none =>
      rw [World.withCurrent, hslot]
      exact .refl _
    | some x =>
      rw [World.withCurrent_of_some hslot]
      exact (step.onward x s.world).trans (.setContext ..)
  | withOwn i step => exact onward_withHand fun x _ => step.onward x s.world
  | failNextBegin m reason =>
    exact .of_ledger rfl (fun h => h.setStore fun _ hk => hk) (World.ledger_failNextBegin ..)
  | failNextFinish m reason =>
    exact .of_ledger rfl (fun h => h.setStore fun _ hk => hk) (World.ledger_failNextFinish ..)

end HolderStep

/-! ### Runs -/

namespace Custody

variable {s s' : Custody α} {k : Manager × TransactionId} {l : Option (Manager × TransactionId)}

theorem Move.sound (h : s.Sound) (hw : s.world.Onward s'.world) (hm : Move s s' l) : s'.Sound := by
  refine ⟨hw.slots h.slots, ?_, fun j hj => ?_, hw.minted h.minted⟩
  · cases hm with
    | kept handles => exact handles.nodup_iff.2 h.unique
    | begun k handles fresh =>
      have hnew : k ∉ s.handles := fun hk => fresh (h.known k hk)
      exact handles.nodup_iff.2 (List.nodup_cons.2 ⟨hnew, h.unique⟩)
    | ended k handles | lost k handles =>
      exact (List.nodup_cons.1 (handles.nodup_iff.1 h.unique)).2
  · cases hm with
    | kept handles => exact hw.knows h.minted j (h.known j (handles.mem_iff.1 hj))
    | begun k handles fresh running =>
      rcases List.mem_cons.1 (handles.mem_iff.1 hj) with rfl | hj
      · exact ((running j).2 (.inl rfl)).knows
      · exact hw.knows h.minted j (h.known j hj)
    | ended k handles | lost k handles =>
      exact hw.knows h.minted j (h.known j (handles.mem_iff.2 (List.mem_cons_of_mem k hj)))

/-- The transaction that a step loses is open afterwards, and nobody can end it; the step does this
to no other one. -/
theorem Move.orphaned_iff (h : s.Sound) (hm : Move s s' l) :
    s'.Orphaned k ↔ s.Orphaned k ∨ l = some k := by
  unfold Orphaned
  cases hm with
  | kept handles running => simp [running, handles.mem_iff]
  | begun j handles fresh running =>
    -- the new transaction has an owner, and it was not open before
    have hne : s.world.Running k → k ≠ j := by
      rintro hk rfl
      exact fresh hk.knows
    simp only [running, handles.mem_iff, List.mem_cons, not_or, reduceCtorEq, or_false]
    constructor
    · rintro ⟨hk | hk, hj, hnot⟩
      · exact absurd hk hj
      · exact ⟨hk, hnot⟩
    · rintro ⟨hk, hnot⟩
      exact ⟨.inr hk, hne hk, hnot⟩
  | ended j handles running =>
    simp only [running, handles.mem_iff, List.mem_cons, not_or, reduceCtorEq, or_false]
    tauto
  | lost j handles opened running =>
    have hnot : j ∉ s'.handles := (List.nodup_cons.1 (handles.nodup_iff.1 h.unique)).1
    simp only [running, handles.mem_iff, List.mem_cons, not_or, Option.some.injEq]
    constructor
    · rintro ⟨hk, hout⟩
      by_cases hj : j = k
      · exact .inr hj
      · exact .inl ⟨hk, Ne.symm hj, hout⟩
    · rintro (⟨hk, -, hout⟩ | rfl)
      · exact ⟨hk, hout⟩
      · exact ⟨opened, hnot⟩

/-- What a run adds to the open transactions that nobody can end is what its publishes lose. -/
theorem sound_and_orphaned_runAll (h : s.Sound) (steps : List HolderStep) :
    (HolderStep.runAll steps s).Sound ∧ ∀ k,
      (HolderStep.runAll steps s).Orphaned k ↔ s.Orphaned k ∨ k ∈ HolderStep.lost steps s := by
  induction steps generalizing s with
  | nil => exact ⟨h, fun k => by simp [HolderStep.runAll, HolderStep.lost]⟩
  | cons step steps ih =>
    have hmove := HolderStep.move h step
    obtain ⟨hsound, horphaned⟩ := ih (hmove.sound h (HolderStep.onward step s))
    refine ⟨hsound, fun k => ?_⟩
    rw [HolderStep.runAll, horphaned k, hmove.orphaned_iff h, HolderStep.lost, List.mem_append,
      Option.mem_toList, or_assoc]

/-- Whoever has the context with the handle of a transaction can see to it that it is not open. -/
theorem exists_ends (h : s.Sound) (hk : k ∈ s.handles) :
    ∃ step : HolderStep, ¬ (step.run s).world.Running k := by
  obtain ⟨x, hx, hhandle⟩ := List.mem_filterMap.1 hk
  obtain ⟨status, hs, rfl⟩ := Option.map_eq_some_iff.1 hhandle
  -- the end of this context leaves the transaction closed, wherever the context is then put
  have hended : ¬ (x.finish s.world).2.2.Running (x.manager, status.id) := by
    obtain ⟨w', hq, hfin⟩ := Context.finish_of_some hs s.world
    rw [hfin, (World.SameTransactions.of_ledger hq.ledger).running, Context.running_ending]
    simp
  rcases List.mem_append.1 hx with hhand | hslot
  · obtain ⟨i, hi⟩ := List.mem_iff_getElem?.1 hhand
    refine ⟨.withOwn i .finish, ?_⟩
    simp only [HolderStep.run, withHand, hi]
    exact hended
  · obtain ⟨⟨key, y⟩, hmem, rfl⟩ := List.mem_map.1 hslot
    have hcurrent : s.world.context? key = some y := Table.find?_of_mem h.slots hmem
    refine ⟨.withCurrent key .finish, ?_⟩
    rw [HolderStep.run, World.withCurrent_of_some hcurrent]
    exact hended

/-- **Nobody can end an open transaction that a refused publish has lost, and every other one
somebody can.**  Start with any slots and hands in which no two contexts have the handle of one
transaction.  After any run of publishes, attempts to publish, takes and work on contexts in slots
or hands, with any failures of managers, an open transaction has no context with its handle if and
only if there was none before, or a publish on a taken slot has let go of the context during the
run.  And these are the open transactions that nothing ends any more, whatever is done; for every
other one there is a step that ends it. -/
theorem orphaned_runAll (h : s.Sound) (steps : List HolderStep)
    (k : Manager × TransactionId) :
    let s' := HolderStep.runAll steps s
    (s'.Orphaned k ↔ s.Orphaned k ∨ k ∈ HolderStep.lost steps s) ∧
      (s'.Orphaned k ↔ ∀ more, (HolderStep.runAll more s').world.Running k) ∧
      (s'.world.Running k → ¬ s'.Orphaned k →
        ∃ step : HolderStep, ¬ (step.run s').world.Running k) := by
  intro s'
  obtain ⟨hsound, horphaned⟩ := sound_and_orphaned_runAll h steps
  have hends : s'.world.Running k → ¬ s'.Orphaned k →
      ∃ step : HolderStep, ¬ (step.run s').world.Running k := by
    intro hk hnot
    have hhandle : k ∈ s'.handles := by
      by_contra hout
      exact hnot ⟨hk, hout⟩
    exact exists_ends hsound hhandle
  refine ⟨horphaned k, ⟨fun hk more => ?_, fun hall => ?_⟩, hends⟩
  · exact (((sound_and_orphaned_runAll hsound more).2 k).2 (.inl hk)).1
  · by_contra hnot
    obtain ⟨step, hstep⟩ := hends (hall []) hnot
    exact hstep (hall [step])

end Custody

namespace Sample

/-- Two contexts with open transactions are made; the first is published, and then the second on the
same key. -/
def rivalPublishes : List HolderStep :=
  [.make "First.test" accounts {} true, .make "Second.test" accounts {} true,
    .withOwn 0 .start, .withOwn 1 .start, .publish 0 (.thread 0), .publish 0 (.thread 0)]

/-- The second of them, with its open transaction. -/
def second : Context where
  testName := "Second.test"
  manager := accounts
  intent := {}
  flaggedForRollback := true
  status := some ⟨.serial 2, none, false⟩
  starts := 1

end Sample

/-- Of the two transactions the second one is lost, and the first one is not. -/
theorem Custody.orphaned_runAll_rivals :
    let s : Custody Unit := ⟨[], Sample.start⟩
    let s' := HolderStep.runAll Sample.rivalPublishes s
    s'.Orphaned (Sample.accounts, .serial 2) ∧
      (∀ more, (HolderStep.runAll more s').world.Running (Sample.accounts, .serial 2)) ∧
      ∃ step : HolderStep, ¬ (step.run s').world.Running (Sample.accounts, .serial 1) := by
  intro s s'
  have hsound : s.Sound := sound_of_unopened Sample.unopened_start
  have hlost : HolderStep.lost Sample.rivalPublishes s = [(Sample.accounts, .serial 2)] := by
    decide +kernel
  have hhandles : s'.handles = [(Sample.accounts, .serial 1)] := by decide +kernel
  have hopen : s'.world.Running (Sample.accounts, .serial 1) := by decide +kernel
  obtain ⟨hiff, hstuck, -⟩ :=
    orphaned_runAll hsound Sample.rivalPublishes (Sample.accounts, .serial 2)
  have horphaned := hiff.2 (.inr (by rw [hlost]; exact List.mem_singleton_self _))
  obtain ⟨-, -, hends⟩ := orphaned_runAll hsound Sample.rivalPublishes (Sample.accounts, .serial 1)
  refine ⟨horphaned, hstuck.1 horphaned, hends hopen fun h => h.2 ?_⟩
  rw [hhandles]
  exact List.mem_singleton_self _

/-- The second publish is refused.  Its context is in no slot and in no hand then, and its
transaction is open. -/
theorem Custody.orphan_of_refused_publish :
    let s : Custody Unit := HolderStep.runAll (Sample.rivalPublishes.take 5) ⟨[], Sample.start⟩
    let s' := (HolderStep.publish 0 (.thread 0)).run s
    s.hands = [Sample.second] ∧
      (s.world.publish (.thread 0) Sample.second).1 =
        .error (.illegalState (.slotTaken (ExecutionKey.thread 0).display)) ∧
      s'.contexts.map Context.testName = ["First.test"] ∧
      s'.handles = [(Sample.accounts, .serial 1)] ∧
      s'.world.Running (Sample.accounts, .serial 2) := by
  refine ⟨?_, ?_, ?_, ?_, ?_⟩ <;> decide +kernel

end TransactionalTest
