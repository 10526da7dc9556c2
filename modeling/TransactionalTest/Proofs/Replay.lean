import TransactionalTest.Proofs.History

/-!
# The committed values of a store

Several transactions may be open at once and write to the same keys.  What can be seen is what a
replay of the history leaves: the writes of one committed transaction after another, each as a
whole, in the order of their ends.

* `Store.writesOf`, `Store.commits`, `Store.replay` : the replay, read off a history;
* `Store.Replayed` : the store agrees with it, kept by `Store.Replayed.effect`;
* `Store.committed_by_replay` : the committed values of a store after any run.
-/

namespace TransactionalTest

namespace Store

/-! ### The replay of a history -/

namespace Entry

/-- The write that is staged in this transaction. -/
def writeOf? (id : TransactionId) : Entry → Option (String × String)
  | written status k v (.ok ()) => if status.id = id then some (k, v) else none
  | _ => none

/-- The transaction that is committed. -/
def commit? : Entry → Option TransactionId
  | ended status false (.ok ()) => some status.id
  | _ => none

end Entry

/-- The writes that a transaction has staged, oldest first. -/
def writesOf (id : TransactionId) (h : List Entry) : List (String × String) :=
  h.filterMap (Entry.writeOf? id)

/-- The transactions that have been committed, in the order of their ends. -/
def commits (h : List Entry) : List TransactionId := h.filterMap Entry.commit?

/-- The writes of the committed transactions, one transaction after another. -/
def replay (h : List Entry) : List (String × String) := (commits h).flatMap fun id => writesOf id h

variable {s s' : Store} {h h' : List Entry} {e : Entry} {id : TransactionId} {status : Status}

theorem writesOf_append_singleton (id : TransactionId) (h : List Entry) (e : Entry) :
    writesOf id (h ++ [e]) = writesOf id h ++ (e.writeOf? id).toList :=
  filterMap_append_singleton ..

theorem commits_append_singleton (h : List Entry) (e : Entry) :
    commits (h ++ [e]) = commits h ++ e.commit?.toList :=
  filterMap_append_singleton ..

theorem Entry.commit?_of_error (status : Status) (rollback : Bool) (err : TransactionError) :
    (Entry.ended status rollback (.error err)).commit? = none := by
  cases rollback <;> rfl

theorem Entry.commit?_eq_some_iff : e.commit? = some id ↔ e.end? = some (id, .committed) := by
  cases e with
  | ended status rollback r =>
    rcases r with ⟨err⟩ | ⟨⟩
    · cases hr : err.isRefusal <;> simp [commit?, end?, hr]
    · cases rollback <;> simp [commit?, end?]
  | _ => simp [commit?, end?]

theorem mem_commits_iff : id ∈ commits h ↔ (id, Fate.committed) ∈ ends h := by
  simp only [commits, ends, List.mem_filterMap, Entry.commit?_eq_some_iff]

/-- Committed transactions that are written in no more are replayed as before. -/
theorem replay_append_singleton (hw : ∀ id ∈ commits h, e.writeOf? id = none) :
    replay (h ++ [e]) = replay h ++ e.commit?.toList.flatMap fun id => writesOf id (h ++ [e]) := by
  rw [replay, commits_append_singleton, List.flatMap_append, replay]
  congr 1
  refine List.flatMap_congr fun id hid => ?_
  rw [writesOf_append_singleton, hw id hid]
  exact List.append_nil _

theorem overlay_append (ws ws' : List (String × String)) (base : Table String String) :
    overlay (ws ++ ws') base = overlay ws' (overlay ws base) :=
  List.foldl_append

/-! ### The store agrees with the replay -/

/-- What is staged and what is committed are as the history says. -/
structure Replayed (h : List Entry) (s : Store) : Prop where
  staged : ∀ id t, s.opened.find? id = some t → t.staged = writesOf id h
  unwritten : ∀ id, id ∉ begun h → writesOf id h = []
  committed : s.committed = overlay (replay h) []

namespace Replayed

theorem empty : Replayed [] {} := ⟨nofun, fun _ _ => rfl, rfl⟩

/-- An entry that tells of no write leaves each transaction with the writes that it has. -/
theorem of_no_write (hr : Replayed h s) (hw : ∀ id, e.writeOf? id = none)
    (hstaged : ∀ id t, s'.opened.find? id = some t → t.staged = writesOf id h)
    (hcommitted : s'.committed =
      overlay (e.commit?.toList.flatMap fun id => writesOf id h) s.committed) :
    Replayed (h ++ [e]) s' := by
  have hsame : ∀ id, writesOf id (h ++ [e]) = writesOf id h := by
    intro id
    rw [writesOf_append_singleton, hw]
    exact List.append_nil _
  refine ⟨fun id t ht => ?_, fun id hid => ?_, ?_⟩
  · rw [hsame, hstaged id t ht]
  · rw [hsame]
    refine hr.unwritten id fun hold => hid ?_
    rw [begun_append_singleton]
    exact List.mem_append_left _ hold
  · rw [replay_append_singleton fun id _ => hw id, overlay_append, ← hr.committed, hcommitted]
    simp only [hsame]

/-- An entry that tells of no write and of no commit, where no transaction is opened or ended. -/
theorem aside (hr : Replayed h s) (hw : ∀ id, e.writeOf? id = none) (hc : e.commit? = none)
    (hopened : s'.opened = s.opened) (hcommitted : s'.committed = s.committed) :
    Replayed (h ++ [e]) s' :=
  hr.of_no_write hw (hopened ▸ hr.staged) (by rw [hcommitted, hc]; rfl)

/-- A write goes to its own transaction, and to no committed one. -/
theorem staging (hr : Replayed h s) (hb : Booked h s) {k v : String} {t : OpenTransaction}
    (running : status.id ∉ s.completed) (isOpen : s.opened.find? status.id = some t) :
    Replayed (h ++ [.written status k v (.ok ())]) { s with
      opened := s.opened.insert status.id { t with staged := t.staged ++ [(k, v)] } } := by
  have hother : ∀ id, id ≠ status.id → Entry.writeOf? id (.written status k v (.ok ())) = none :=
    fun id hne => if_neg hne.symm
  refine ⟨fun id u hu => ?_, fun id hid => ?_, ?_⟩
  · rw [writesOf_append_singleton]
    by_cases hid : id = status.id
    · subst hid
      obtain rfl : _ = u := by simpa using hu
      rw [hr.staged _ t isOpen]
      simp [Entry.writeOf?]
    · rw [Table.find?_insert_of_ne hid] at hu
      rw [hother id hid, hr.staged id u hu]
      exact (List.append_nil _).symm
  · have hold : id ∉ begun h := by
      rw [begun_append_singleton] at hid
      exact fun hold => hid (List.mem_append_left _ hold)
    have hne : id ≠ status.id := by
      rintro rfl
      exact hold (hb.mem_begun.2 (.inl (Table.mem_keys_of_find? isOpen)))
    rw [writesOf_append_singleton, hother id hne, hr.unwritten id hold]
    rfl
  · have hcommits : ∀ id ∈ commits h, Entry.writeOf? id (.written status k v (.ok ())) = none := by
      intro id hid
      refine hother id ?_
      rintro rfl
      apply running
      rw [hb.completed]
      exact List.mem_map_of_mem (mem_commits_iff.1 hid)
    rw [replay_append_singleton hcommits]
    exact hr.committed.trans (congrArg (overlay · []) (List.append_nil _).symm)

/-- Each request keeps the store in agreement with the replay. -/
theorem effect (hr : Replayed h s) (hb : Booked h s) (he : Effect s e s')
    (hn : (begun (h ++ [e])).Nodup) : Replayed (h ++ [e]) s' := by
  cases he with
  | opened a id unarmed =>
    refine hr.of_no_write (fun _ => rfl) (fun j t ht => ?_) rfl
    by_cases hj : j = id
    · subst hj
      obtain rfl : _ = t := by simpa using ht
      exact (hr.unwritten j (notMem_begun_of_nodup hn)).symm
    · rw [Table.find?_insert_of_ne hj] at ht
      exact hr.staged j t ht
  | staged status k v t running isOpen => exact hr.staging hb running isOpen
  | released status rollback t r s' running isOpen released =>
    refine hr.of_no_write (fun _ => rfl) (fun j u hu => ?_) ?_
    · rw [released.opened] at hu
      have hj : j ≠ status.id := by
        rintro rfl
        simp at hu
      rw [Table.find?_erase_of_ne hj] at hu
      exact hr.staged j u hu
    · rw [released.committed, hr.staged _ t isOpen]
      rcases r with err | ⟨⟩
      · rw [Entry.commit?_of_error]
        rfl
      · cases rollback <;> simp [Entry.commit?, Except.isOk, Except.toBool, overlay]
  | unended status rollback err refused =>
    exact hr.aside (fun _ => rfl) (Entry.commit?_of_error ..) rfl rfl
  | _ => exact hr.aside (fun _ => rfl) rfl rfl rfl

end Replayed

/-- After any run the store agrees with the replay of its history. -/
theorem Replayed.runAll (qs : List Request) (hn : (begun (Request.runAll qs {}).1).Nodup) :
    Replayed (Request.runAll qs {}).1 (Request.runAll qs {}).2 := by
  have hrun := Request.runAll_induction (P := fun h s => Booked h s ∧ Replayed h s) (h := [])
    (fun _ _ _ _ hp he hn => ⟨hp.1.effect he hn, hp.2.effect hp.1 he hn⟩) qs ⟨.empty, .empty⟩ hn
  exact hrun.2

/-! ### What can be seen -/

theorem Effect.committed_of_no_commit (he : Effect s e s') (hc : e.commit? = none) :
    s'.committed = s.committed := by
  cases he with
  | released status rollback t r s' running isOpen released =>
    rw [released.committed]
    rcases r with err | ⟨⟩
    · rfl
    · cases rollback with
      | true => rfl
      | false => cases hc
  | _ => rfl

/-- The last write to a key is one of the writes. -/
theorem mem_of_lastValue? {key v : String} {ws : List (String × String)}
    (hv : lastValue? key ws = some v) : (key, v) ∈ ws := by
  obtain ⟨w, hw, rfl⟩ := Option.map_eq_some_iff.1 hv
  obtain rfl : w.1 = key := by simpa using List.find?_some hw
  exact List.mem_reverse.1 (List.mem_of_find?_eq_some hw)

/-- A transaction is ended once, in one way. -/
theorem Booked.fate_unique (hb : Booked h s) (hn : (begun h).Nodup) {f f' : Fate}
    (hf : (id, f) ∈ ends h) (hf' : (id, f') ∈ ends h) : f = f' := by
  have hkeys : (Table.keys (ends h)).Nodup := by
    rw [Table.keys, ← hb.completed]
    exact (List.nodup_append.1 (hb.nodup hn)).2.1
  exact Option.some.inj ((Table.find?_of_mem hkeys hf).symm.trans (Table.find?_of_mem hkeys hf'))

/-- **A store shows its committed transactions, and nothing else.**  After any requests, with any
number of transactions open at once, the value at a key is that of the last write to it when the
committed transactions are replayed one after another, in the order of their ends.  So what is seen
was written in a committed transaction, which is not open and was neither rolled back nor struck by
a failure; and whatever is asked next, no value changes unless a transaction is committed. -/
theorem committed_by_replay (requests : List Request)
    (hids : (begun (Request.runAll requests {}).1).Nodup) :
    let h := (Request.runAll requests {}).1
    let s := (Request.runAll requests {}).2
    (∀ key, s.committedValue? key = lastValue? key (replay h)) ∧
    (∀ key v, s.committedValue? key = some v → ∃ id ∈ commits h, (key, v) ∈ writesOf id h) ∧
    (∀ id ∈ commits h, ¬ s.IsOpen id ∧ (id, .rolledBack) ∉ ends h ∧ (id, .failed) ∉ ends h) ∧
    ∀ q : Request, (∀ status, (q.run s).1 ≠ .ended status false (.ok ())) →
      ∀ key, (q.run s).2.committedValue? key = s.committedValue? key := by
  intro h s
  have hb : Booked h s := .runAll requests hids
  have hr : Replayed h s := .runAll requests hids
  have hvalue : ∀ key, s.committedValue? key = lastValue? key (replay h) := by
    intro key
    rw [committedValue?, hr.committed, committedValue?_overlay]
    exact Option.or_none ..
  refine ⟨hvalue, fun key v hv => ?_, fun id hid => ?_, fun q hq key => ?_⟩
  · exact List.mem_flatMap.1 (mem_of_lastValue? ((hvalue key).symm.trans hv))
  · have hend := mem_commits_iff.1 hid
    refine ⟨fun ho => hb.disjoint hids ho ?_, fun hf => ?_, fun hf => ?_⟩
    · rw [hb.completed]
      exact List.mem_map_of_mem hend
    · cases hb.fate_unique hids hend hf
    · cases hb.fate_unique hids hend hf
  · have hc : (q.run s).1.commit? = none := by
      cases hentry : (q.run s).1 with
      | ended status rollback r =>
        rcases r with err | ⟨⟩
        · exact Entry.commit?_of_error ..
        · cases rollback with
          | true => rfl
          | false => exact absurd hentry (hq status)
      | _ => rfl
    rw [committedValue?, (q.effect s).committed_of_no_commit hc]
    rfl

/-- Two transactions write to one key, and the one that begins first is committed last; a third one
is struck by a failure at its end and leaves nothing. -/
theorem committed_by_replay_interleaved :
    let handle (n : Nat) : Status := ⟨.serial n, none, false⟩
    let requests : List Request := [.begin {} (.serial 1), .begin {} (.serial 2),
      .write (handle 1) "balance" "10", .write (handle 2) "balance" "20",
      .write (handle 2) "owner" "ada", .finish (handle 2) false, .write (handle 2) "owner" "eve",
      .finish (handle 1) false, .begin {} (.serial 3), .write (handle 3) "balance" "30",
      .failNextFinish "disk full", .finish (handle 3) false]
    let h := (Request.runAll requests {}).1
    let s := (Request.runAll requests {}).2
    replay h = [("balance", "20"), ("owner", "ada"), ("balance", "10")] ∧
    s.committedValue? "balance" = some "10" ∧ s.committedValue? "owner" = some "ada" := by
  intro handle requests h s
  have hids : (begun h).Nodup := by decide +kernel
  have hreplay : replay h = [("balance", "20"), ("owner", "ada"), ("balance", "10")] := by
    decide +kernel
  obtain ⟨hvalue, -⟩ := committed_by_replay requests hids
  rw [hreplay] at hvalue
  exact ⟨hreplay, (hvalue "balance").trans (by decide), (hvalue "owner").trans (by decide)⟩

end Store

end TransactionalTest
