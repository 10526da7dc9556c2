import Mathlib.Logic.Function.Basic
import TransactionalTest.Proofs.World

/-!
# The ledger of handles

Which handle each key holds, which transactions each manager has open and which it has completed,
and the requests made so far: what is left of a world when only the life of handles matters.

* `Ledger` : the ledger, with what can be done to it;
* `Ledger.Move` : what one operation on a key may do to it;
* `Ledger.Secure` : what a key holds is open, and no other key holds it;
* `Ledger.Sound` : the open transactions are, one to one, those that a key holds;
* `Ledger.SettledBy` : a transaction has been ended, or a key holds it;
* `Ledger.Tallied` : every transaction that has begun is held or has been ended, and ended once;
* `Ledger.Move.secure`, `Ledger.Move.sound`, `Ledger.Move.tallied` : a move keeps them.
-/

namespace TransactionalTest

open Function

/-! ### Lists without repetition -/

/-- A new entry at the end of the first part. -/
theorem nodup_append_new {β : Type} {l l' : List β} {x : β} (h : (l ++ l').Nodup)
    (hx : x ∉ l ++ l') : (l ++ [x] ++ l').Nodup := by
  rw [List.append_assoc]
  exact (List.nodup_cons.2 ⟨hx, h⟩).perm List.perm_middle.symm

/-- An entry that moves from the first part to the end of the second. -/
theorem nodup_append_moved {β : Type} [DecidableEq β] {l l' : List β} {x : β}
    (h : (l ++ l').Nodup) (hx : x ∈ l) : (l.filter (· ≠ x) ++ (l' ++ [x])).Nodup := by
  have herase : l.filter (· ≠ x) = l.erase x :=
    (((List.nodup_append.1 h).1.erase_eq_filter x).trans
      (List.filter_congr fun y _ => by rw [bne, beq_eq_decide, decide_not])).symm
  have hperm : (l.filter (· ≠ x) ++ (l' ++ [x])).Perm (l ++ l') := by
    rw [herase, ← List.append_assoc]
    exact List.perm_append_comm.trans ((List.perm_cons_erase hx).symm.append_right l')
  exact h.perm hperm.symm

/-- Who holds which transaction, and what has become of the others. -/
structure Ledger where
  /-- The transaction whose handle the context of a key has. -/
  held : ExecutionKey → Option (Manager × Status)
  opened : Manager → List TransactionId
  completed : Manager → List TransactionId
  /-- How many identifiers have been given out. -/
  minted : Nat
  beginnings : List (Manager × Status)
  endings : List Ending

namespace Ledger

variable {L L' : Ledger} {key j : ExecutionKey} {m n : Manager} {status : Status}
  {id : TransactionId} {e : Ending}

/-! ### Changes -/

/-- A manager begins a transaction; nobody holds it yet. -/
def begin (m : Manager) (status : Status) (L : Ledger) : Ledger :=
  { L with
    opened := update L.opened m (L.opened m ++ [status.id])
    minted := L.minted + 1
    beginnings := L.beginnings ++ [(m, status)] }

/-- A manager ends a transaction. -/
def finish (e : Ending) (L : Ledger) : Ledger :=
  { L with
    opened := update L.opened e.manager ((L.opened e.manager).filter (· ≠ e.status.id))
    completed := update L.completed e.manager (L.completed e.manager ++ [e.status.id])
    endings := L.endings ++ [e] }

/-- A key takes hold of a transaction, or lets go of the one it has. -/
def hold (key : ExecutionKey) (b : Option (Manager × Status)) (L : Ledger) : Ledger :=
  { L with held := update L.held key b }

@[simp] theorem hold_held (key : ExecutionKey) (L : Ledger) : L.hold key (L.held key) = L := by
  simp [hold]

theorem mem_opened_begin : id ∈ (L.begin m status).opened n ↔
    id ∈ L.opened n ∨ n = m ∧ id = status.id := by
  by_cases hn : n = m
  · subst hn
    simp [begin]
  · simp [begin, hn]

theorem mem_opened_finish : id ∈ (L.finish e).opened n ↔
    id ∈ L.opened n ∧ ¬ (n = e.manager ∧ id = e.status.id) := by
  by_cases hn : n = e.manager
  · subst hn
    simp [finish]
  · simp [finish, hn]

theorem mem_completed_finish : id ∈ (L.finish e).completed n ↔
    id ∈ L.completed n ∨ n = e.manager ∧ id = e.status.id := by
  by_cases hn : n = e.manager
  · subst hn
    simp [finish]
  · simp [finish, hn]

theorem held_hold_some {b c : Manager × Status} : (L.hold key (some b)).held j = some c ↔
    j = key ∧ b = c ∨ j ≠ key ∧ L.held j = some c := by
  by_cases hj : j = key
  · subst hj
    simp [hold]
  · simp [hold, hj]

theorem held_hold_none {c : Manager × Status} : (L.hold key none).held j = some c ↔
    j ≠ key ∧ L.held j = some c := by
  by_cases hj : j = key
  · subst hj
    simp [hold]
  · simp [hold, hj]

/-- What one operation on a key may do. -/
inductive Move (key : ExecutionKey) (L : Ledger) : Ledger → Prop
  | kept : Move key L L
  /-- The key gets a new transaction. -/
  | opened (m : Manager) (status : Status) (free : L.held key = none)
      (fresh : status.id = .serial (L.minted + 1)) :
      Move key L ((L.begin m status).hold key (some (m, status)))
  /-- The transaction of the key is ended. -/
  | closed (e : Ending) (held : L.held key = some e.transaction)
      (proper : ∀ err, e.outcome = .error err → err.isRefusal = false) :
      Move key L ((L.finish e).hold key none)
  /-- A new transaction is ended before any key holds it. -/
  | discarded (e : Ending) (fresh : e.status.id = .serial (L.minted + 1))
      (proper : ∀ err, e.outcome = .error err → err.isRefusal = false) :
      Move key L ((L.begin e.manager e.status).finish e)

/-! ### Soundness -/

/-- No manager lists a transaction twice, as open or as completed, and none lists one that is
still to begin. -/
structure Distinct (L : Ledger) : Prop where
  nodup : ∀ m, (L.opened m ++ L.completed m).Nodup
  fresh : ∀ m n, L.minted < n → .serial n ∉ L.opened m ++ L.completed m

/-- What a key holds is open, and no other key holds it; there may be open transactions that no
key holds. -/
structure Secure (L : Ledger) : Prop extends Distinct L where
  held_opened : ∀ key m status, L.held key = some (m, status) → status.id ∈ L.opened m
  unique : ∀ key key' m status status', L.held key = some (m, status) →
    L.held key' = some (m, status') → status.id = status'.id → key = key'

/-- The open transactions are, one to one, those that a key holds. -/
structure Sound (L : Ledger) : Prop extends Distinct L where
  held_opened : ∀ key m status, L.held key = some (m, status) → status.id ∈ L.opened m
  opened_held : ∀ m id, id ∈ L.opened m → ∃ key status, L.held key = some (m, status) ∧
    status.id = id
  unique : ∀ key key' m status status', L.held key = some (m, status) →
    L.held key' = some (m, status') → status.id = status'.id → key = key'

namespace Distinct

theorem next_notMem (h : L.Distinct) (m : Manager) (hfresh : status.id = .serial (L.minted + 1)) :
    status.id ∉ L.opened m ++ L.completed m :=
  hfresh ▸ h.fresh m _ (Nat.lt_succ_self _)

theorem begin (h : L.Distinct) (hfresh : status.id = .serial (L.minted + 1)) :
    (L.begin m status).Distinct := by
  refine ⟨fun n => ?_, fun n i hi hmem => ?_⟩
  · by_cases hn : n = m
    · subst hn
      simpa only [Ledger.begin, update_self] using nodup_append_new (h.nodup n)
        (h.next_notMem n hfresh)
    · simpa only [Ledger.begin, update_of_ne hn] using h.nodup n
  · have hold := h.fresh n i (Nat.lt_of_succ_lt hi)
    rcases List.mem_append.1 hmem with hmem | hmem
    · rcases mem_opened_begin.1 hmem with hmem | ⟨-, hid⟩
      · exact hold (List.mem_append_left _ hmem)
      · exact Nat.ne_of_gt hi (TransactionId.serial.inj (hid.trans hfresh))
    · exact hold (List.mem_append_right _ hmem)

theorem finish (h : L.Distinct) (hopen : e.status.id ∈ L.opened e.manager) :
    (L.finish e).Distinct := by
  refine ⟨fun n => ?_, fun n i hi hmem => ?_⟩
  · by_cases hn : n = e.manager
    · subst hn
      simpa only [Ledger.finish, update_self] using nodup_append_moved (h.nodup _) hopen
    · simpa only [Ledger.finish, update_of_ne hn] using h.nodup n
  · refine h.fresh n i hi ?_
    rcases List.mem_append.1 hmem with hmem | hmem
    · exact List.mem_append_left _ (mem_opened_finish.1 hmem).1
    · rcases mem_completed_finish.1 hmem with hmem | ⟨rfl, hid⟩
      · exact List.mem_append_right _ hmem
      · exact List.mem_append_left _ (hid ▸ hopen)

/-- A new transaction that is ended at once is open no more, and the others still are. -/
theorem mem_opened_discarded (h : L.Distinct) (hfresh : e.status.id = .serial (L.minted + 1)) :
    id ∈ ((L.begin e.manager e.status).finish e).opened n ↔ id ∈ L.opened n := by
  have hnew : e.status.id ∉ L.opened e.manager := fun hm =>
    h.next_notMem e.manager hfresh (List.mem_append_left _ hm)
  rw [mem_opened_finish, mem_opened_begin]
  constructor
  · rintro ⟨hid | hid, hne⟩
    · exact hid
    · exact absurd hid hne
  · refine fun hid => ⟨.inl hid, ?_⟩
    rintro ⟨rfl, rfl⟩
    exact hnew hid

theorem hold (h : L.Distinct) (key : ExecutionKey) (b : Option (Manager × Status)) :
    (L.hold key b).Distinct := ⟨h.nodup, h.fresh⟩

end Distinct

namespace Secure

theorem not_completed (h : L.Secure) (hs : L.held key = some (m, status)) :
    status.id ∉ L.completed m :=
  fun hc => (List.nodup_append.1 (h.nodup m)).2.2 _ (h.held_opened _ _ _ hs) _ hc rfl

theorem opened (h : L.Secure) (hfresh : status.id = .serial (L.minted + 1)) :
    ((L.begin m status).hold key (some (m, status))).Secure := by
  have hnew : status.id ∉ L.opened m := fun hm =>
    h.next_notMem m hfresh (List.mem_append_left _ hm)
  refine { (h.begin hfresh).hold key _ with held_opened := ?_, unique := ?_ }
  · intro j n st hj
    refine mem_opened_begin.2 ?_
    rcases held_hold_some.1 hj with ⟨-, he⟩ | ⟨-, hj⟩
    · cases he
      exact .inr ⟨rfl, rfl⟩
    · exact .inl (h.held_opened j n st hj)
  · intro j j' n st st' hj hj' hid
    -- a key that held a transaction before cannot hold the new identifier
    rcases held_hold_some.1 hj with ⟨hk, he⟩ | ⟨-, hj⟩ <;>
      rcases held_hold_some.1 hj' with ⟨hk', he'⟩ | ⟨-, hj'⟩
    · exact hk.trans hk'.symm
    · cases he
      exact absurd (h.held_opened j' _ st' hj') (hid ▸ hnew)
    · cases he'
      exact absurd (h.held_opened j _ st hj) (hid ▸ hnew)
    · exact h.unique j j' n st st' hj hj' hid

theorem closed (h : L.Secure) (hheld : L.held key = some e.transaction) :
    ((L.finish e).hold key none).Secure := by
  have hopen : e.status.id ∈ L.opened e.manager := h.held_opened _ _ _ hheld
  refine { (h.finish hopen).hold key none with held_opened := ?_, unique := ?_ }
  · intro j n st hj
    obtain ⟨hk, hj⟩ := held_hold_none.1 hj
    -- what another key holds is another transaction
    refine mem_opened_finish.2 ⟨h.held_opened j n st hj, ?_⟩
    rintro ⟨rfl, hid⟩
    exact hk (h.unique j key _ st e.status hj hheld hid)
  · intro j j' n st st' hj hj' hid
    exact h.unique j j' n st st' (held_hold_none.1 hj).2 (held_hold_none.1 hj').2 hid

theorem discarded (h : L.Secure) (hfresh : e.status.id = .serial (L.minted + 1)) :
    ((L.begin e.manager e.status).finish e).Secure :=
  { (h.begin hfresh).finish (mem_opened_begin.2 (.inr ⟨rfl, rfl⟩)) with
    held_opened := fun j n st hj =>
      (h.toDistinct.mem_opened_discarded hfresh).2 (h.held_opened j n st hj)
    unique := h.unique }

end Secure

/-- A move keeps the ledger secure. -/
theorem Move.secure (hm : Move key L L') (h : L.Secure) : L'.Secure := by
  cases hm with
  | kept => exact h
  | opened m status free fresh => exact h.opened fresh
  | closed e held proper => exact h.closed held
  | discarded e fresh proper => exact h.discarded fresh

namespace Sound

theorem secure (h : L.Sound) : L.Secure :=
  { h.toDistinct with held_opened := h.held_opened, unique := h.unique }

theorem not_completed (h : L.Sound) (hs : L.held key = some (m, status)) :
    status.id ∉ L.completed m :=
  h.secure.not_completed hs

theorem opened (h : L.Sound) (hfree : L.held key = none)
    (hfresh : status.id = .serial (L.minted + 1)) :
    ((L.begin m status).hold key (some (m, status))).Sound := by
  refine { h.secure.opened hfresh with opened_held := ?_ }
  intro n id hid
  rcases mem_opened_begin.1 hid with hid | ⟨rfl, rfl⟩
  · obtain ⟨j, st, hj, rfl⟩ := h.opened_held n id hid
    have hk : j ≠ key := fun hk => by rw [hk, hfree] at hj; cases hj
    exact ⟨j, st, held_hold_some.2 (.inr ⟨hk, hj⟩), rfl⟩
  · exact ⟨key, status, held_hold_some.2 (.inl ⟨rfl, rfl⟩), rfl⟩

theorem closed (h : L.Sound) (hheld : L.held key = some e.transaction) :
    ((L.finish e).hold key none).Sound := by
  refine { h.secure.closed hheld with opened_held := ?_ }
  intro n id hid
  obtain ⟨hid, hne⟩ := mem_opened_finish.1 hid
  obtain ⟨j, st, hj, rfl⟩ := h.opened_held n id hid
  refine ⟨j, st, held_hold_none.2 ⟨?_, hj⟩, rfl⟩
  rintro rfl
  cases hheld.symm.trans hj
  exact hne ⟨rfl, rfl⟩

theorem discarded (h : L.Sound) (hfresh : e.status.id = .serial (L.minted + 1)) :
    ((L.begin e.manager e.status).finish e).Sound :=
  { h.secure.discarded hfresh with
    opened_held := fun n id hid =>
      h.opened_held n id ((h.toDistinct.mem_opened_discarded hfresh).1 hid) }

end Sound

/-- A move keeps the ledger sound. -/
theorem Move.sound (hm : Move key L L') (h : L.Sound) : L'.Sound := by
  cases hm with
  | kept => exact h
  | opened m status free fresh => exact h.opened free fresh
  | closed e held proper => exact h.closed held
  | discarded e fresh proper => exact h.discarded fresh

/-! ### The fate of one transaction -/

/-- The transaction has been ended, or the key holds it. -/
def SettledBy (key : ExecutionKey) (b : Manager × Status) (L : Ledger) : Prop :=
  (∃ e ∈ L.endings, e.transaction = b) ∨ L.held key = some b

namespace Move

/-- No move makes a key lose a transaction that is not ended. -/
theorem settledBy {b : Manager × Status} (hm : Move j L L') (h : L.SettledBy key b) :
    L'.SettledBy key b := by
  cases hm with
  | kept => exact h
  | opened m status free fresh =>
    refine h.imp id fun hk => held_hold_some.2 (.inr ⟨?_, hk⟩)
    rintro rfl
    cases free.symm.trans hk
  | closed e held proper =>
    rcases h with ⟨e', he', rfl⟩ | hk
    · exact .inl ⟨e', List.mem_append_left _ he', rfl⟩
    · by_cases hj : key = j
      · subst hj
        exact .inl ⟨e, List.mem_append_right _ (List.mem_singleton.2 rfl),
          Option.some.inj (held.symm.trans hk)⟩
      · exact .inr (held_hold_none.2 ⟨hj, hk⟩)
  | discarded e fresh proper =>
    exact h.imp_left fun ⟨e', he', h⟩ => ⟨e', List.mem_append_left _ he', h⟩

/-- What a move begins, its key holds unless it has been ended. -/
theorem settledBy_of_new {b : Manager × Status} (hm : Move key L L') (hb : b ∈ L'.beginnings)
    (hn : b ∉ L.beginnings) : L'.SettledBy key b := by
  cases hm with
  | kept => exact absurd hb hn
  | opened m status free fresh =>
    have hnew := List.mem_singleton.1 ((List.mem_append.1 hb).resolve_left hn)
    exact .inr (held_hold_some.2 (.inl ⟨rfl, hnew.symm⟩))
  | closed e held proper => exact absurd hb hn
  | discarded e fresh proper =>
    have hnew := List.mem_singleton.1 ((List.mem_append.1 hb).resolve_left hn)
    exact .inl ⟨e, List.mem_append_right _ (List.mem_singleton.2 rfl), hnew.symm⟩

theorem beginnings_subset (hm : Move key L L') {b : Manager × Status} (hb : b ∈ L.beginnings) :
    b ∈ L'.beginnings := by
  cases hm with
  | kept => exact hb
  | opened m status free fresh => exact List.mem_append_left _ hb
  | closed e held proper => exact hb
  | discarded e fresh proper => exact List.mem_append_left _ hb

/-- A move makes no request to end a transaction, or one for a transaction that has begun, was
not completed, and is not refused. -/
theorem endings_cases (hm : Move key L L') (hs : L.Sound)
    (hb : ∀ key b, L.held key = some b → b ∈ L.beginnings) :
    L'.endings = L.endings ∧ L'.completed = L.completed ∨
      ∃ e, L'.endings = L.endings ++ [e] ∧ L'.completed = (L.finish e).completed ∧
        e.status.id ∉ L.completed e.manager ∧ e.transaction ∈ L'.beginnings ∧
        ∀ err, e.outcome = .error err → err.isRefusal = false := by
  cases hm with
  | kept => exact .inl ⟨rfl, rfl⟩
  | opened m status free fresh => exact .inl ⟨rfl, rfl⟩
  | closed e held proper =>
    exact .inr ⟨e, rfl, rfl, hs.not_completed held, hb key _ held, proper⟩
  | discarded e fresh proper =>
    refine .inr ⟨e, rfl, rfl, fun hc => ?_,
      List.mem_append_right _ (List.mem_singleton.2 rfl), proper⟩
    exact hs.next_notMem e.manager fresh (List.mem_append_right _ hc)

end Move

/-! ### The tally -/

/-- Every transaction that has begun is held or has been ended, and it has been ended once. -/
structure Tallied (L : Ledger) : Prop where
  once : (L.endings.map Ending.target).Nodup
  completed : ∀ e ∈ L.endings, e.status.id ∈ L.completed e.manager
  begun : ∀ e ∈ L.endings, e.transaction ∈ L.beginnings
  proper : ∀ e ∈ L.endings, ∀ err, e.outcome = .error err → err.isRefusal = false
  held_begun : ∀ key b, L.held key = some b → b ∈ L.beginnings
  accounted : ∀ b ∈ L.beginnings, ∃ key, L.SettledBy key b

/-- The next ending is of a transaction that has not been ended yet. -/
theorem Tallied.once_append (h : L.Tallied) (hc : e.status.id ∉ L.completed e.manager) :
    ((L.endings ++ [e]).map Ending.target).Nodup := by
  rw [List.map_append]
  refine h.once.append (List.nodup_singleton _) ?_
  simp only [List.map_cons, List.map_nil, List.disjoint_singleton, List.mem_map, not_exists,
    not_and, Ending.target, Prod.mk.injEq]
  rintro e' he' hm hid
  exact hc (hid ▸ hm ▸ h.completed e' he')

theorem Move.held_begun (hm : Move key L L')
    (h : ∀ key b, L.held key = some b → b ∈ L.beginnings) (j : ExecutionKey)
    (b : Manager × Status) (hj : L'.held j = some b) : b ∈ L'.beginnings := by
  cases hm with
  | kept => exact h j b hj
  | opened m status free fresh =>
    rcases held_hold_some.1 hj with ⟨-, rfl⟩ | ⟨-, hj⟩
    · exact List.mem_append_right _ (List.mem_singleton.2 rfl)
    · exact List.mem_append_left _ (h j b hj)
  | closed e held proper => exact h j b (held_hold_none.1 hj).2
  | discarded e fresh proper => exact List.mem_append_left _ (h j b hj)

/-- A move keeps a sound ledger tallied. -/
theorem Move.tallied (hm : Move key L L') (hs : L.Sound) (h : L.Tallied) : L'.Tallied := by
  have haccounted : ∀ b ∈ L'.beginnings, ∃ key, L'.SettledBy key b := by
    intro b hb
    by_cases hn : b ∈ L.beginnings
    · obtain ⟨j, hj⟩ := h.accounted b hn
      exact ⟨j, hm.settledBy hj⟩
    · exact ⟨key, hm.settledBy_of_new hb hn⟩
  have hheld := hm.held_begun h.held_begun
  rcases hm.endings_cases hs h.held_begun with ⟨he, hc⟩ | ⟨e, he, hc, hnew, hbegun, hproper⟩
  · refine ⟨he ▸ h.once, ?_, ?_, he ▸ h.proper, hheld, haccounted⟩
    · rw [he, hc]
      exact h.completed
    · rw [he]
      exact fun e' he' => hm.beginnings_subset (h.begun e' he')
  · refine ⟨he ▸ h.once_append hnew, ?_, ?_, ?_, hheld, haccounted⟩ <;> rw [he] <;>
      simp only [List.forall_mem_append, List.forall_mem_singleton]
    · rw [hc]
      refine ⟨fun e' he' => mem_completed_finish.2 (.inl (h.completed e' he')), ?_⟩
      exact mem_completed_finish.2 (.inr ⟨rfl, rfl⟩)
    · exact ⟨fun e' he' => hm.beginnings_subset (h.begun e' he'), hbegun⟩
    · exact ⟨h.proper, hproper⟩

end Ledger

end TransactionalTest
