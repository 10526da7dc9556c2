import Mathlib.Data.List.Nodup
import TransactionalTest.Table

/-!
# Keys of tables

What a change of one key does to the list of keys.

* `Table.mem_keys_iff` : a key is listed when it has a value;
* `Table.keys_insert_of_mem`, `Table.keys_insert_of_notMem` : a known key keeps its place, a new
  one goes to the end;
* `Table.erase_insert_of_notMem` : taking a new key out again leaves the table as it was;
* `Table.perm_of_find?`, `Table.perm_insert` : the entry of a key and the others, in any order.
-/

namespace TransactionalTest

namespace Table

variable {κ υ : Type} [DecidableEq κ]

theorem mem_keys_iff {k : κ} {t : Table κ υ} : k ∈ keys t ↔ (find? k t).isSome = true := by
  induction t with
  | nil => simp [keys, find?]
  | cons e t ih =>
    by_cases h : e.1 = k
    · simp [keys, find?, h]
    · have hk : k ∈ keys (e :: t) ↔ k ∈ keys t := by simp [keys, Ne.symm h]
      rw [hk, ih]
      simp [find?, h]

theorem mem_keys_of_find? {k : κ} {v : υ} {t : Table κ υ} (h : find? k t = some v) :
    k ∈ keys t :=
  mem_keys_iff.2 (by rw [h]; rfl)

theorem find?_eq_none_iff {k : κ} {t : Table κ υ} : find? k t = none ↔ k ∉ keys t := by
  rw [mem_keys_iff]
  simp

theorem mem_of_find? {k : κ} {v : υ} {t : Table κ υ} (h : find? k t = some v) : (k, v) ∈ t := by
  induction t with
  | nil => simp [find?] at h
  | cons e t ih =>
    by_cases he : e.1 = k
    · simp only [find?, he, ↓reduceIte, Option.some.injEq] at h
      exact List.mem_cons.2 (.inl (Prod.ext he.symm h.symm))
    · simp only [find?, he, ↓reduceIte] at h
      exact List.mem_cons_of_mem _ (ih h)

theorem find?_of_mem {k : κ} {v : υ} {t : Table κ υ} (hn : (keys t).Nodup) (h : (k, v) ∈ t) :
    find? k t = some v := by
  induction t with
  | nil => cases h
  | cons e t ih =>
    obtain ⟨hne, hn⟩ := List.nodup_cons.1 hn
    rcases List.mem_cons.1 h with rfl | h
    · simp [find?]
    · have he : e.1 ≠ k := fun he => hne (he ▸ List.mem_map_of_mem h)
      simpa [find?, he] using ih hn h

theorem keys_insert_of_mem {k : κ} {t : Table κ υ} (h : k ∈ keys t) (v : υ) :
    keys (insert k v t) = keys t := by
  induction t with
  | nil => simp [keys] at h
  | cons e t ih =>
    by_cases he : e.1 = k
    · simp [insert, keys, he]
    · have ht : k ∈ keys t := by simpa [keys, Ne.symm he] using h
      have := ih ht
      simp only [keys] at this ⊢
      simp [insert, he, this]

theorem insert_of_notMem {k : κ} {t : Table κ υ} (h : k ∉ keys t) (v : υ) :
    insert k v t = t ++ [(k, v)] := by
  induction t with
  | nil => rfl
  | cons e t ih =>
    have he : e.1 ≠ k := fun he => h (by simp [keys, he])
    have ht : k ∉ keys t := fun ht => h (List.mem_cons_of_mem _ ht)
    simp [insert, he, ih ht]

theorem keys_insert_of_notMem {k : κ} {t : Table κ υ} (h : k ∉ keys t) (v : υ) :
    keys (insert k v t) = keys t ++ [k] := by
  rw [insert_of_notMem h]
  simp [keys]

theorem keys_erase (k : κ) (t : Table κ υ) : keys (erase k t) = (keys t).filter (· ≠ k) := by
  simp only [keys, erase, List.filter_map]
  rfl

theorem erase_of_notMem {k : κ} {t : Table κ υ} (h : k ∉ keys t) : erase k t = t := by
  rw [erase, List.filter_eq_self]
  intro e he
  have hne : e.1 ≠ k := fun hk => h (hk ▸ List.mem_map_of_mem he)
  simpa using hne

/-- A new key that is taken out again leaves the table as it was. -/
theorem erase_insert_of_notMem {k : κ} {t : Table κ υ} (h : k ∉ keys t) (v : υ) :
    erase k (insert k v t) = t := by
  rw [insert_of_notMem h, erase, List.filter_append]
  have ht : List.filter (fun e => decide (e.1 ≠ k)) t = t := erase_of_notMem h
  rw [ht]
  simp

theorem nodup_keys_insert {k : κ} {t : Table κ υ} (h : (keys t).Nodup) (v : υ) :
    (keys (insert k v t)).Nodup := by
  by_cases hk : k ∈ keys t
  · rwa [keys_insert_of_mem hk]
  · rw [keys_insert_of_notMem hk]
    exact h.append (List.nodup_singleton k) (by simpa using hk)

theorem nodup_keys_erase {t : Table κ υ} (h : (keys t).Nodup) (k : κ) :
    (keys (erase k t)).Nodup := by
  rw [keys_erase]
  exact h.filter _

/-! ### The entry of a key apart from the others -/

theorem erase_cons_self {k : κ} {e : κ × υ} {t : Table κ υ} (he : e.1 = k) (hk : k ∉ keys t) :
    erase k (e :: t) = t := by
  have hdrop : erase k (e :: t) = erase k t := by simp [erase, he]
  rw [hdrop, erase_of_notMem hk]

theorem erase_cons_of_ne {k : κ} {e : κ × υ} (he : e.1 ≠ k) (t : Table κ υ) :
    erase k (e :: t) = e :: erase k t := by
  simp [erase, he]

theorem perm_of_find? {k : κ} {v : υ} {t : Table κ υ} (hn : (keys t).Nodup)
    (h : find? k t = some v) : t.Perm ((k, v) :: erase k t) := by
  induction t with
  | nil => simp [find?] at h
  | cons e t ih =>
    obtain ⟨hne, hn⟩ := List.nodup_cons.1 hn
    by_cases he : e.1 = k
    · have hv : e = (k, v) := by
        simp only [find?, he, ↓reduceIte, Option.some.injEq] at h
        exact Prod.ext he h
      rw [erase_cons_self he (he ▸ hne), hv]
    · simp only [find?, he, ↓reduceIte] at h
      rw [erase_cons_of_ne he]
      exact ((ih hn h).cons e).trans (.swap ..)

theorem perm_insert {t : Table κ υ} (hn : (keys t).Nodup) (k : κ) (v : υ) :
    (insert k v t).Perm ((k, v) :: erase k t) := by
  induction t with
  | nil => exact .refl _
  | cons e t ih =>
    obtain ⟨hne, hn⟩ := List.nodup_cons.1 hn
    by_cases he : e.1 = k
    · rw [erase_cons_self he (he ▸ hne), insert, if_pos he]
    · rw [erase_cons_of_ne he, insert, if_neg he]
      exact ((ih hn).cons e).trans (.swap ..)

/-! ### Look-up by cases -/

theorem find?_insert (j k : κ) (v : υ) (t : Table κ υ) :
    find? j (insert k v t) = if j = k then some v else find? j t := by
  by_cases h : j = k
  · subst h
    simp
  · rw [find?_insert_of_ne h, if_neg h]

theorem find?_filter (p : κ → Bool) (k : κ) (t : Table κ υ) :
    find? k (t.filter fun e => p e.1) = if p k then find? k t else none := by
  induction t with
  | nil => simp [find?]
  | cons e t ih =>
    by_cases hk : e.1 = k
    · subst hk
      cases hp : p e.1 <;> simp [find?, hp, ih]
    · cases hp : p e.1 <;> simp [find?, hp, hk, ih]

end Table

end TransactionalTest
