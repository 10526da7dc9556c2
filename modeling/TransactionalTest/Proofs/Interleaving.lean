import TransactionalTest.Proofs.Isolation

/-!
# Interleaved tests

The operations of the tests on different keys, in any order that keeps the order on each key, on
one controller with one registry, one holder and shared caches and managers.

* `Interleaving` : a list of operations made up of one sequence for each key;
* `Operation.observations` : what the operations on a key answer and what the key sees after each;
* `Operation.observations_purge` : a key observes the same when the other keys do nothing;
* `Operation.isolated` : so what it observes does not depend on the interleaving.

No failure is armed, and the hooks of every test are private to its key.  As the two phases and the
steps of a body are private too, a hook may itself take those of its own key.
-/

namespace TransactionalTest

variable {α β ι : Type} {R : World α → World α → Prop} {c : Controller}
  {own : ExecutionKey → α → β} {key : ExecutionKey}

namespace Operation

/-- The operation is one on a key, arms no failure and calls private hooks only. -/
def IsPrivate (c : Controller) (own : ExecutionKey → α → β) : Operation ι R → Prop
  | before _ t | after _ t => ∀ hook, Private c own t.key (t.subject hook)
  | body _ step => step.arms = false
  | _ => False

/-- It is private to its key. -/
theorem IsPrivate.run {op : Operation ι R} (h : op.IsPrivate c own) :
    ∃ j, op.key? = some j ∧ Private c own j (op.run fun _ => c) := by
  cases op with
  | before _ t =>
    exact ⟨t.key, rfl, (Controller.private_beforeTest h).bind fun r => .pure (Outcome.answered r)⟩
  | after _ t =>
    exact ⟨t.key, rfl, (Controller.private_afterTest h).bind fun r => .pure (Outcome.answered r)⟩
  | body j step => exact ⟨j, rfl, BodyStep.private_run h⟩
  | stage | register | addSelector => exact h.elim

/-- What the operations on a key answer, and what the key sees after each of them. -/
def observations (c : Controller) (own : ExecutionKey → α → β) (key : ExecutionKey) :
    List (Operation ι R) → World α → List (Outcome × View β)
  | [], _ => []
  | op :: ops, w =>
    let out := op.run (fun _ => c) w
    if op.key? = some key then (out.1, c.view own key out.2) :: observations c own key ops out.2
    else observations c own key ops out.2

/-- The operations on a key. -/
def purge (key : ExecutionKey) (ops : List (Operation ι R)) : List (Operation ι R) :=
  ops.filter fun op => op.key? = some key

theorem purge_cons_of_on {op : Operation ι R} (h : op.key? = some key)
    (ops : List (Operation ι R)) : purge key (op :: ops) = op :: purge key ops :=
  List.filter_cons_of_pos (decide_eq_true h)

theorem purge_cons_of_other {op : Operation ι R} (h : op.key? ≠ some key)
    (ops : List (Operation ι R)) : purge key (op :: ops) = purge key ops :=
  List.filter_cons_of_neg (by simpa using h)

/-- From two worlds in which a key sees the same, it observes the same and sees the same in the
end, whether or not the other keys do anything. -/
theorem observations_purge {ops : List (Operation ι R)} (hp : ∀ op ∈ ops, op.IsPrivate c own)
    {w w' : World α} (hw : c.Calm w) (hw' : c.Calm w')
    (hv : c.view own key w = c.view own key w') :
    observations c own key ops w = observations c own key (purge key ops) w' ∧
      c.view own key (runAll (fun _ => c) ops w) =
        c.view own key (runAll (fun _ => c) (purge key ops) w') := by
  induction ops generalizing w w' with
  | nil => exact ⟨rfl, hv⟩
  | cons op ops ih =>
    obtain ⟨hop, hops⟩ := List.forall_mem_cons.1 hp
    obtain ⟨j, hj, hprivate⟩ := hop.run
    by_cases hkey : j = key
    · -- both worlds take the operation
      subst hkey
      obtain ⟨hanswer, hview⟩ := hprivate.alike w w' hw hw' hv
      obtain ⟨hrest, hend⟩ := ih hops (hprivate.calm w hw) (hprivate.calm w' hw') hview
      rw [purge_cons_of_on hj]
      refine ⟨?_, hend⟩
      simp only [observations, if_pos hj, hanswer, hview, hrest]
    · -- only the first does, and the key sees nothing of it
      have hother : op.key? ≠ some key := fun h => hkey (Option.some.inj (hj.symm.trans h))
      rw [purge_cons_of_other hother, observations, if_neg hother]
      exact ih hops (hprivate.calm w hw) hw'
        ((hprivate.apart w key hw (Ne.symm hkey)).trans hv)

end Operation

/-! ### Every interleaving -/

/-- A list of operations that is made up of one sequence for each key. -/
inductive Interleaving :
    (ExecutionKey → List (Operation ι R)) → List (Operation ι R) → Prop
  | nil : Interleaving (fun _ => []) []
  /-- The first operation of the list is the first of its key. -/
  | cons {key : ExecutionKey} {op : Operation ι R} {family : ExecutionKey → List (Operation ι R)}
      {ops : List (Operation ι R)} (on : op.key? = some key) (rest : Interleaving family ops) :
      Interleaving (Function.update family key (op :: family key)) (op :: ops)

/-- The sequence of a key is what the list has on that key. -/
theorem Interleaving.purge {family : ExecutionKey → List (Operation ι R)}
    {ops : List (Operation ι R)} (h : Interleaving family ops) (key : ExecutionKey) :
    Operation.purge key ops = family key := by
  induction h with
  | nil => rfl
  | @cons j op family ops on rest ih =>
    by_cases hj : key = j
    · subst hj
      rw [Operation.purge_cons_of_on on, Function.update_self, ih]
    · have hother : op.key? ≠ some key := fun h => hj (Option.some.inj (h.symm.trans on))
      rw [Operation.purge_cons_of_other hother, Function.update_of_ne hj, ih]

/-- Before the first test a world is calm, unless a failure has been armed. -/
theorem World.Unopened.calm {w : World α} (h : w.Unopened) (hu : w.Unarmed)
    (ha : w.configurationCache = []) (hh : w.hookCache = []) : c.Calm w :=
  ⟨.of_empty ha hh, hu, h.sound.secure⟩

theorem Sample.run_private {body : HookBody Unit} {own : ExecutionKey → Unit → β}
    (h : Private c own key body) (hook : HookMethod) :
    Private c own key ((run body).subject hook) := by
  refine Private.composable.subject (fun e he => ?_) hook
  rw [List.mem_singleton.1 he]
  exact h

namespace Operation

/-- **Keys are isolated under every interleaving**: from a calm world, the operations on a key give
the same answers, and the key sees the same after each of them and in the end, as when they are
carried out alone. -/
theorem isolated {family : ExecutionKey → List (Operation ι R)} {ops : List (Operation ι R)}
    {w : World α} (hw : c.Calm w) (h : Interleaving family ops)
    (hp : ∀ op ∈ ops, op.IsPrivate c own) (key : ExecutionKey) :
    observations c own key ops w = observations c own key (family key) w ∧
      c.view own key (runAll (fun _ => c) ops w) =
        c.view own key (runAll (fun _ => c) (family key) w) := by
  rw [← h.purge key]
  exact observations_purge hp hw hw rfl

/-- Two tests, the hook of one of which fails. -/
theorem isolated_pair :
    let t : GuardedRun fun _ _ : World Unit => True := ⟨Sample.quietTest, fun _ _ => trivial⟩
    let t' : GuardedRun fun _ _ : World Unit => True :=
      ⟨{ Sample.run fun w => (.error ⟨"no ledger", []⟩, w) with key := .thread 1 },
        fun _ _ => trivial⟩
    let write := Operation.body t.key (.write "balance" "10")
    let observed := fun key (ops : List (Operation Unit _)) =>
      observations Sample.controller (fun _ _ => ()) key ops Sample.start
    let ops := [.before () t, .before () t', write, .after () t', .after () t]
    (observed t.key ops).map (·.1.isOk) = [true, true, true] ∧
      (observed t'.key ops).map (·.1.isOk) = [false, true] ∧
      observed t.key ops = observed t.key [.before () t, write, .after () t] ∧
      observed t'.key ops = observed t'.key [.before () t', .after () t'] := by
  intro t t' write observed ops
  have hw : Sample.controller.Calm Sample.start :=
    Sample.unopened_start.calm ⟨fun _ => rfl, fun _ => rfl⟩ rfl rfl
  have ht : ∀ hook, Private Sample.controller (fun _ _ => ()) t.key (t.subject hook) :=
    Sample.run_private (.pure (Except.ok ()))
  have ht' : ∀ hook, Private Sample.controller (fun _ _ => ()) t'.key (t'.subject hook) :=
    Sample.run_private (.pure (Except.error (Failure.mk "no ledger" [])))
  have hp : ∀ op ∈ ops, op.IsPrivate Sample.controller fun _ _ => () := by
    simp only [ops, write, List.forall_mem_cons, List.not_mem_nil, false_implies, implies_true,
      and_true]
    exact ⟨ht, ht', rfl, ht', ht⟩
  have h := isolated hw (.cons rfl (.cons rfl (.cons rfl (.cons rfl (.cons rfl .nil))))) hp
  exact ⟨by decide +kernel, by decide +kernel, (h t.key).1, (h t'.key).1⟩

end Operation

end TransactionalTest
