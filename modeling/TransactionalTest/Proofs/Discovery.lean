import Mathlib.Data.List.Infix
import TransactionalTest.Hook

/-!
# The hooks of a class hierarchy

Discovery walks the levels of a class and collects hooks; what it has collected is also what shadows
the hooks that are still to come.  The outcome can be said without the walk: a hook stays if no hook
that is declared nearer, or earlier on the same level, has its signature.

* `TestClass.unshadowed` : the hooks of a list whose signature is new, said of the list as a whole;
* `TestClass.keepFirst_eq_unshadowed` : the walk finds just these;
* `TestClass.keepFirst_append` : the walk over two lists in a row;
* `Level.declares`, `TestClass.depth` : the nearest level that declares a hook;
* `TestClass.discover_nearest` : what is discovered;
* `TestClass.pairwise_depth_discover` : hooks of nearer levels are discovered first.
-/

namespace TransactionalTest

/-! ### Declarations -/

namespace Level

variable {l : Level} {phase : HookPhase} {s : Signature}

/-- The level declares a method of this signature as a hook of the phase. -/
def declares (l : Level) (phase : HookPhase) (s : Signature) : Bool :=
  l.methods.any fun m => m.hook == some phase && m.signature == s

theorem mem_hooks {h : HookMethod} : h ∈ l.hooks phase ↔
    ∃ m ∈ l.methods, m.hook = some phase ∧ h = ⟨l.name, m.signature, phase⟩ := by
  simp only [hooks, List.mem_map, List.mem_filter, beq_iff_eq, and_assoc, @eq_comm _ h]

theorem declares_iff : l.declares phase s = true ↔ ∃ h ∈ l.hooks phase, h.signature = s := by
  simp only [declares, List.any_eq_true, Bool.and_eq_true, beq_iff_eq, mem_hooks]
  constructor
  · rintro ⟨m, hm, hphase, rfl⟩
    exact ⟨_, ⟨m, hm, hphase, rfl⟩, rfl⟩
  · rintro ⟨h, ⟨m, hm, hphase, rfl⟩, rfl⟩
    exact ⟨m, hm, hphase, rfl⟩

/-- All hooks of one level that have the same signature are equal. -/
theorem eq_of_mem_hooks {h : HookMethod} (hh : h ∈ l.hooks phase) :
    h = ⟨l.name, h.signature, phase⟩ := by
  obtain ⟨m, -, -, rfl⟩ := mem_hooks.1 hh
  rfl

theorem find?_hooks (l : Level) (phase : HookPhase) (s : Signature) :
    ((l.hooks phase).find? fun h => h.signature = s) =
      if l.declares phase s then some ⟨l.name, s, phase⟩ else none := by
  by_cases hl : l.declares phase s = true
  · obtain ⟨h, hh, hs⟩ := declares_iff.1 hl
    obtain ⟨g, hg⟩ : ∃ g, ((l.hooks phase).find? fun h => h.signature = s) = some g :=
      Option.isSome_iff_exists.1 (List.find?_isSome.2 ⟨h, hh, decide_eq_true hs⟩)
    have hgs : g.signature = s := by simpa using List.find?_some hg
    rw [hg, if_pos hl, eq_of_mem_hooks (List.mem_of_find?_eq_some hg), hgs]
  · rw [if_neg hl, List.find?_eq_none]
    intro h hh hs
    exact hl (declares_iff.2 ⟨h, hh, of_decide_eq_true hs⟩)

end Level

namespace TestClass

/-! ### The walk -/

/-- The hooks of a list whose signature neither a hook that has been seen nor an earlier hook of the
list has. -/
def unshadowed (seen hs : List HookMethod) : List HookMethod :=
  ((hs.inits.zip hs).filter fun e => e.2.signature ∉ (seen ++ e.1).map HookMethod.signature).map
    Prod.snd

theorem unshadowed_cons (seen : List HookMethod) (h : HookMethod) (hs : List HookMethod) :
    unshadowed seen (h :: hs) =
      (if h.signature ∈ seen.map HookMethod.signature then [] else [h]) ++
        unshadowed (seen ++ [h]) hs := by
  simp only [unshadowed, List.inits_cons, List.zip_cons_cons, List.zip_map_left, List.filter_cons,
    List.filter_map, List.append_nil, List.append_assoc, List.singleton_append]
  split <;> rename_i hseen <;> rw [decide_eq_true_eq] at hseen
  · rw [if_neg hseen, List.map_cons, List.map_map]
    rfl
  · rw [if_pos (not_not.1 hseen), List.map_map]
    rfl

/-- To see a signature again changes nothing. -/
theorem unshadowed_append_seen {seen : List HookMethod} {h : HookMethod}
    (hseen : h.signature ∈ seen.map HookMethod.signature) (hs : List HookMethod) :
    unshadowed (seen ++ [h]) hs = unshadowed seen hs := by
  have hsame : ∀ e : List HookMethod × HookMethod,
      e.2.signature ∈ ((seen ++ [h]) ++ e.1).map HookMethod.signature ↔
        e.2.signature ∈ (seen ++ e.1).map HookMethod.signature := by
    intro e
    simp only [List.map_append, List.map_cons, List.map_nil, List.mem_append, List.mem_singleton]
    constructor
    · rintro ((hs | hs) | hs)
      · exact .inl hs
      · exact .inl (hs ▸ hseen)
      · exact .inr hs
    · rintro (hs | hs)
      · exact .inl (.inl hs)
      · exact .inr hs
  simp only [unshadowed, hsame]

theorem any_isShadowedBy {seen : List HookMethod} {h : HookMethod} :
    (seen.any fun s => h.signature.isShadowedBy s.signature) = true ↔
      h.signature ∈ seen.map HookMethod.signature := by
  simp only [List.any_eq_true, Signature.isShadowedBy_iff, List.mem_map, @eq_comm _ h.signature]

/-- **The walk keeps what nothing before it shadows.** -/
theorem keepFirst_eq_unshadowed (seen hs : List HookMethod) :
    keepFirst seen hs = unshadowed seen hs := by
  induction hs generalizing seen with
  | nil => rfl
  | cons h hs ih =>
    rw [unshadowed_cons, keepFirst]
    by_cases hseen : h.signature ∈ seen.map HookMethod.signature
    · rw [if_pos (any_isShadowedBy.2 hseen), if_pos hseen, unshadowed_append_seen hseen, ih]
      rfl
    · rw [if_neg (mt any_isShadowedBy.1 hseen), if_neg hseen, ih]
      rfl

/-- What has been seen before shadows a part of what is found without it. -/
theorem keepFirst_append_seen (seen xs hs : List HookMethod) :
    keepFirst (seen ++ xs) hs =
      (keepFirst seen hs).filter fun h => h.signature ∉ xs.map HookMethod.signature := by
  simp only [keepFirst_eq_unshadowed, unshadowed, List.filter_map, List.filter_filter]
  congr 1
  refine List.filter_congr fun e _ => ?_
  simp only [List.map_append, List.mem_append, Function.comp, ← Bool.decide_and, decide_eq_decide]
  tauto

/-- Of two lists in a row the second is walked with the hooks of the first one seen. -/
theorem keepFirst_append (seen xs ys : List HookMethod) :
    keepFirst seen (xs ++ ys) = keepFirst seen xs ++
      (keepFirst seen ys).filter fun h =>
        h.signature ∉ (keepFirst seen xs).map HookMethod.signature := by
  have hwalk : keepFirst seen (xs ++ ys) =
      keepFirst seen xs ++ keepFirst (seen ++ keepFirst seen xs) ys := by
    induction xs generalizing seen with
    | nil => simp [keepFirst]
    | cons h xs ih =>
      simp only [List.cons_append, keepFirst]
      split
      · exact ih seen
      · rw [ih, List.cons_append, List.append_assoc]
        rfl
  rw [hwalk, keepFirst_append_seen]

/-- A signature that has not been seen is found once, where it occurs first. -/
theorem filter_keepFirst (seen hs : List HookMethod) (s : Signature) :
    ((keepFirst seen hs).filter fun h => h.signature = s) =
      if s ∈ seen.map HookMethod.signature then []
      else (hs.find? fun h => h.signature = s).toList := by
  induction hs generalizing seen with
  | nil => simp [keepFirst]
  | cons h hs ih =>
    by_cases hseen : h.signature ∈ seen.map HookMethod.signature
    · rw [keepFirst, if_pos (any_isShadowedBy.2 hseen), ih, List.find?_cons]
      by_cases hs : h.signature = s
      · simp [← hs, hseen]
      · simp [hs]
    · rw [keepFirst, if_neg (mt any_isShadowedBy.1 hseen), List.filter_cons, ih, List.find?_cons]
      by_cases hs : h.signature = s
      · subst hs
        simp [hseen]
      · simp [hs, Ne.symm hs]

theorem mem_map_signature_keepFirst {hs : List HookMethod} {s : Signature} :
    s ∈ (keepFirst [] hs).map HookMethod.signature ↔ s ∈ hs.map HookMethod.signature := by
  have hfilter := filter_keepFirst [] hs s
  rw [if_neg (by simp)] at hfilter
  constructor
  · intro hmem
    obtain ⟨h, hh, rfl⟩ := List.mem_map.1 hmem
    have hfound : h ∈ (hs.find? fun g => g.signature = h.signature).toList :=
      hfilter ▸ List.mem_filter.2 ⟨hh, decide_eq_true rfl⟩
    exact List.mem_map_of_mem (List.mem_of_find?_eq_some (Option.mem_toList.1 hfound))
  · intro hmem
    obtain ⟨h, hh, rfl⟩ := List.mem_map.1 hmem
    obtain ⟨g, hg⟩ : ∃ g, (hs.find? fun g => g.signature = h.signature) = some g :=
      Option.isSome_iff_exists.1 (List.find?_isSome.2 ⟨h, hh, decide_eq_true rfl⟩)
    have hkept : g ∈ (keepFirst [] hs).filter fun g => g.signature = h.signature := by
      rw [hfilter, hg]
      exact List.mem_singleton_self g
    obtain ⟨hmem, hs⟩ := List.mem_filter.1 hkept
    exact List.mem_map.2 ⟨g, hmem, of_decide_eq_true hs⟩

/-- No signature is found twice. -/
theorem nodup_keepFirst (seen hs : List HookMethod) :
    ((keepFirst seen hs).map HookMethod.signature).Nodup := by
  induction hs generalizing seen with
  | nil => exact List.nodup_nil
  | cons h hs ih =>
    -- the first hook is new, and the rest of the walk has seen it
    rw [keepFirst]
    split
    · exact ih seen
    · rw [keepFirst_append_seen, List.map_cons, List.nodup_cons]
      refine ⟨?_, (ih seen).sublist (List.filter_sublist.map _)⟩
      intro hmem
      obtain ⟨g, hg, hgh⟩ := List.mem_map.1 hmem
      simp [hgh] at hg

/-! ### What is discovered -/

/-- How many levels are nearer to the leaf than the nearest one that declares a hook of this phase
and signature. -/
def depth (c : TestClass) (phase : HookPhase) (s : Signature) : Nat :=
  c.hierarchy.findIdx fun l => l.declares phase s

/-- The hook of this signature that is nearest to the leaf. -/
def nearestHook? (c : TestClass) (phase : HookPhase) (s : Signature) : Option HookMethod :=
  (c.hierarchy.find? fun l => l.declares phase s).map fun l => ⟨l.name, s, phase⟩

theorem find?_flatMap_hooks (levels : List Level) (phase : HookPhase) (s : Signature) :
    ((levels.flatMap (·.hooks phase)).find? fun h => h.signature = s) =
      (levels.find? fun l => l.declares phase s).map fun l => ⟨l.name, s, phase⟩ := by
  induction levels with
  | nil => rfl
  | cons l levels ih =>
    rw [List.flatMap_cons, List.find?_append, Level.find?_hooks, ih, List.find?_cons]
    cases l.declares phase s <;> rfl

theorem declares_of_mem_keepFirst {l : Level} {phase : HookPhase} {h : HookMethod}
    (hh : h ∈ keepFirst [] (l.hooks phase)) : l.declares phase h.signature = true := by
  have hmem := mem_map_signature_keepFirst.1 (List.mem_map_of_mem hh)
  obtain ⟨g, hg, hs⟩ := List.mem_map.1 hmem
  exact Level.declares_iff.2 ⟨g, hg, hs⟩

/-- Hooks are discovered in the order of the levels that declare them. -/
theorem pairwise_depth_discover (c : TestClass) (phase : HookPhase) :
    (c.discover phase).Pairwise fun g h =>
      c.depth phase g.signature ≤ c.depth phase h.signature := by
  unfold discover depth
  induction c.hierarchy with
  | nil => exact List.Pairwise.nil
  | cons l levels ih =>
    -- what the nearest level declares has depth 0, and the rest is one level further away
    have hown : ∀ g ∈ keepFirst [] (l.hooks phase),
        (l :: levels).findIdx (fun l => l.declares phase g.signature) = 0 := by
      intro g hg
      rw [List.findIdx_cons, declares_of_mem_keepFirst hg]
      rfl
    rw [List.flatMap_cons, keepFirst_append, List.pairwise_append]
    refine ⟨?_, ?_, fun g hg h _ => (hown g hg).trans_le (Nat.zero_le _)⟩
    · refine List.pairwise_of_forall_mem_list fun g hg h _ => (hown g hg).trans_le (Nat.zero_le _)
    · refine (ih.filter _).imp_of_mem fun {g h} hg hh hle => ?_
      have hrest : ∀ g ∈ (keepFirst [] (levels.flatMap (·.hooks phase))).filter (fun h =>
          h.signature ∉ (keepFirst [] (l.hooks phase)).map HookMethod.signature),
          l.declares phase g.signature = false := by
        intro g hg
        have hnew := of_decide_eq_true (List.mem_filter.1 hg).2
        rw [mem_map_signature_keepFirst] at hnew
        refine Bool.eq_false_iff.2 fun hl => hnew ?_
        obtain ⟨g', hg', hs⟩ := Level.declares_iff.1 hl
        exact List.mem_map.2 ⟨g', hg', hs⟩
      rw [List.findIdx_cons, List.findIdx_cons, hrest g hg, hrest h hh]
      exact Nat.succ_le_succ hle

/-- **Discovery keeps the most derived declaration of each signature, and nothing else.**  It finds,
in the order of the levels and of the declarations on each, the hooks of the phase whose signature
none before them has.  So no signature is found twice; one that is hooked for the phase on some
level is found once, under the name of the nearest such level, and any other one is not found; and a
class that extends another has its own hooks, followed by those of the other one that they do not
shadow. -/
theorem discover_nearest (c : TestClass) (phase : HookPhase) :
    c.discover phase = unshadowed [] (c.hierarchy.flatMap (·.hooks phase)) ∧
    ((c.discover phase).map HookMethod.signature).Nodup ∧
    (∀ s, ((c.discover phase).filter fun h => h.signature = s) = (c.nearestHook? phase s).toList) ∧
    ∀ id leaf, (extend id leaf c).discover phase =
      discover ⟨id, leaf, []⟩ phase ++ (c.discover phase).filter fun h =>
        h.signature ∉ (discover ⟨id, leaf, []⟩ phase).map HookMethod.signature := by
  refine ⟨?_, nodup_keepFirst .., fun s => ?_, fun id leaf => ?_⟩
  · exact keepFirst_eq_unshadowed [] _
  · rw [discover, filter_keepFirst, if_neg (by simp), find?_flatMap_hooks]
    rfl
  · have hown : discover ⟨id, leaf, []⟩ phase = keepFirst [] (leaf.hooks phase) := by
      simp [discover, hierarchy]
    rw [hown, discover, hierarchy_extend, List.flatMap_cons, keepFirst_append]
    rfl

/-- Overloads are hooks of their own; a plain method shadows no hook, and one hook of a signature is
enough. -/
example :
    let opening : Method := { signature := ⟨"open", []⟩, hook := some .beforeTransaction }
    let plain : Method := { signature := ⟨"audit", []⟩ }
    let audit : Method := { plain with hook := some .beforeTransaction }
    let connecting : Method := { opening with signature := ⟨"open", ["Connection"]⟩ }
    let base : Level := { name := "Base", methods := [audit, connecting, opening] }
    let c : TestClass := ⟨0, { name := "Leaf", methods := [opening, plain, opening] }, [base]⟩
    (c.discover .beforeTransaction).map HookMethod.display =
      ["Leaf::open()", "Base::audit()", "Base::open(Connection)"] := by
  decide +kernel

end TestClass

end TransactionalTest
