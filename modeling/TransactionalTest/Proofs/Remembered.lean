import TransactionalTest.Proofs.Controller

/-!
# What a controller remembers

The two caches of a controller, and that they hold nothing but what the declarations of the class
say.

* `SameCaches` : both caches are as they were;
* `Controller.Recalls` : what the controller remembers about a class is what the class declares;
* `Controller.Recalls.resolve_fst`, `Controller.Recalls.hooksFor_fst` : so are its answers.
-/

namespace TransactionalTest

variable {α : Type}

/-- Both caches are as they were. -/
structure SameCaches (w w' : World α) : Prop where
  configurationCache : w'.configurationCache = w.configurationCache
  hookCache : w'.hookCache = w.hookCache

namespace SameCaches

variable {u v w : World α}

theorem refl (w : World α) : SameCaches w w := ⟨rfl, rfl⟩

theorem trans (h : SameCaches u v) (h' : SameCaches v w) : SameCaches u w :=
  ⟨h'.configurationCache.trans h.configurationCache, h'.hookCache.trans h.hookCache⟩

end SameCaches

/-! ### Operations without a cache -/

theorem Context.sameCaches_finish (x : Context) (w : World α) :
    SameCaches w (x.finish w).2.2 := by
  unfold finish
  split
  · exact .refl w
  · rename_i status _
    have hend : SameCaches w (x.ending status w).2 := ⟨rfl, rfl⟩
    rw [ending] at hend
    simp only
    generalize World.finish .. = out at hend
    rcases out with ⟨_ | _, w₁⟩
    · exact hend
    · exact hend.trans ⟨rfl, rfl⟩

theorem World.sameCaches_lookup (strict : Bool) (test : String) (qualifier : Option String)
    (name : String) (w : World α) : SameCaches w (w.lookup strict test qualifier name).2 := by
  have hn : SameCaches w (w.managerByName name).2 := by
    unfold managerByName
    simp only
    split <;> exact ⟨rfl, rfl⟩
  unfold lookup
  split
  · split <;> exact ⟨rfl, rfl⟩
  · split <;> rename_i h <;> rw [h] at hn
    · exact hn
    · exact hn
    · split
      · exact hn
      · exact hn.trans ⟨rfl, rfl⟩

namespace Controller

variable {c : Controller} {w w' : World α} {cls : TestClass} {phase : HookPhase}

theorem sameCaches_rollBackUnpublished (x : Context) (w : World α) :
    SameCaches w (rollBackUnpublished x w) := by
  have hfin := Context.sameCaches_finish { x with flaggedForRollback := true } w
  unfold rollBackUnpublished
  split
  · split <;> rename_i h <;> rw [h] at hfin
    · exact hfin
    · exact hfin.trans ⟨rfl, rfl⟩
  · exact .refl w

/-- The hooks of a class are looked up in the cache and nowhere else. -/
theorem hooksFor_fst_congr (r : HookRunner) (cls : TestClass) (phase : HookPhase)
    (h : w'.hookCache = w.hookCache) :
    (r.hooksFor cls phase w').1 = (r.hooksFor cls phase w).1 := by
  unfold HookRunner.hooksFor
  rw [h]
  split <;> rfl

theorem sameCaches_finishTaken (t : TestRun α) (x : Context) (w : World α) :
    SameCaches w (finishTaken t x w).2 := by
  unfold finishTaken
  split
  · exact x.sameCaches_finish w
  · exact ⟨rfl, rfl⟩

/-! ### Caches that say what is declared -/

/-- What the controller remembers about a class is what the class declares. -/
structure Recalls (c : Controller) (w : World α) : Prop where
  attributes : ∀ cls a, w.configurationCache.find? (c.id, cls) = some a →
    a = c.resolver.attributesOf cls
  hooks : ∀ cls phase hs, w.hookCache.find? (c.id, cls, phase) = some hs →
    hs = cls.discover phase

namespace Recalls

theorem of_empty (ha : w.configurationCache = []) (hh : w.hookCache = []) : c.Recalls w := by
  refine ⟨fun cls a h => ?_, fun cls phase hs h => ?_⟩
  · rw [ha] at h
    cases h
  · rw [hh] at h
    cases h

theorem congr_own (h : c.Recalls w)
    (ha : ∀ cls, w'.configurationCache.find? (c.id, cls) = w.configurationCache.find? (c.id, cls))
    (hh : ∀ cls phase,
      w'.hookCache.find? (c.id, cls, phase) = w.hookCache.find? (c.id, cls, phase)) :
    c.Recalls w' :=
  ⟨fun cls a hf => h.attributes cls a (ha cls ▸ hf),
    fun cls phase hs hf => h.hooks cls phase hs (hh cls phase ▸ hf)⟩

theorem congr (h : c.Recalls w) (hs : SameCaches w w') : c.Recalls w' :=
  h.congr_own (fun _ => by rw [hs.configurationCache]) fun _ _ => by rw [hs.hookCache]

theorem resolve_fst (h : c.Recalls w) (cls : TestClass) :
    (c.resolver.resolve cls w).1 = c.resolver.attributesOf cls := by
  unfold ConfigurationResolver.resolve
  split
  · exact h.attributes cls _ ‹_›
  · rfl

theorem hooksFor_fst (h : c.Recalls w) (cls : TestClass) (phase : HookPhase) :
    (c.runner.hooksFor cls phase w).1 = cls.discover phase := by
  unfold HookRunner.hooksFor
  split
  · exact h.hooks cls phase _ ‹_›
  · rfl

theorem resolve (h : c.Recalls w) (cls : TestClass) : c.Recalls (c.resolver.resolve cls w).2 := by
  unfold ConfigurationResolver.resolve
  split
  · exact h
  · refine ⟨fun cls' a ha => ?_, h.hooks⟩
    by_cases hc : (c.id, cls') = (c.id, cls)
    · cases hc
      exact (Option.some.inj ((Table.find?_insert_self ..).symm.trans ha)).symm
    · exact h.attributes cls' a ((Table.find?_insert_of_ne hc ..).symm.trans ha)

theorem hooksFor (h : c.Recalls w) (cls : TestClass) (phase : HookPhase) :
    c.Recalls (c.runner.hooksFor cls phase w).2 := by
  unfold HookRunner.hooksFor
  split
  · exact h
  · refine ⟨h.attributes, fun cls' phase' hs hh => ?_⟩
    by_cases hc : (c.id, cls', phase') = (c.id, cls, phase)
    · cases hc
      exact (Option.some.inj ((Table.find?_insert_self ..).symm.trans hh)).symm
    · exact h.hooks cls' phase' hs ((Table.find?_insert_of_ne hc ..).symm.trans hh)

end Recalls

end Controller

end TransactionalTest
