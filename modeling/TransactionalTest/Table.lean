/-!
# Tables

A finite map as a list of entries in the order in which their keys were first inserted.

* `Table.find?`, `Table.contains` — look-up;
* `Table.insert`, `Table.erase` — change of one key;
* `Table.ofList` — the table of a list of entries.

Each change has one law for its own key and one for every other key; nothing else about the
order of the entries is ever used.
-/

namespace TransactionalTest

/-- A finite map, entries in order of first insertion. -/
abbrev Table (κ υ : Type) := List (κ × υ)

namespace Table

variable {κ υ : Type} [DecidableEq κ]

/-- The value at a key. -/
def find? (k : κ) : Table κ υ → Option υ
  | [] => none
  | e :: t => if e.1 = k then some e.2 else find? k t

/-- The key has a value. -/
def contains (k : κ) (t : Table κ υ) : Bool := (find? k t).isSome

/-- The table with the key at this value: in place when the key is there, else at the end. -/
def insert (k : κ) (v : υ) : Table κ υ → Table κ υ
  | [] => [(k, v)]
  | e :: t => if e.1 = k then (k, v) :: t else e :: insert k v t

/-- The table of these entries; of several for one key the last one counts. -/
def ofList (es : List (κ × υ)) : Table κ υ := es.foldl (fun t e => insert e.1 e.2 t) []

/-- The table without the key. -/
def erase (k : κ) (t : Table κ υ) : Table κ υ := t.filter fun e => e.1 ≠ k

/-- The keys in order of first insertion. -/
def keys (t : Table κ υ) : List κ := t.map Prod.fst

/-! ### Look-up after a change -/

@[simp] theorem find?_insert_self (k : κ) (v : υ) (t : Table κ υ) :
    find? k (insert k v t) = some v := by
  induction t with
  | nil => simp [insert, find?]
  | cons e t ih =>
    by_cases h : e.1 = k
    · simp [insert, find?, h]
    · simp [insert, find?, h, ih]

theorem find?_insert_of_ne {j k : κ} (h : j ≠ k) (v : υ) (t : Table κ υ) :
    find? j (insert k v t) = find? j t := by
  induction t with
  | nil => simp [insert, find?, Ne.symm h]
  | cons e t ih =>
    by_cases he : e.1 = k
    · subst he
      simp [insert, find?, Ne.symm h]
    · by_cases hj : e.1 = j
      · subst hj
        simp [insert, find?, he]
      · simp [insert, find?, he, hj, ih]

@[simp] theorem find?_erase_self (k : κ) (t : Table κ υ) : find? k (erase k t) = none := by
  induction t with
  | nil => rfl
  | cons e t ih =>
    by_cases h : e.1 = k
    · simpa [erase, h] using ih
    · simpa [erase, find?, h] using ih

theorem find?_erase_of_ne {j k : κ} (h : j ≠ k) (t : Table κ υ) :
    find? j (erase k t) = find? j t := by
  induction t with
  | nil => rfl
  | cons e t ih =>
    by_cases he : e.1 = k
    · subst he
      simpa [erase, find?, Ne.symm h] using ih
    · by_cases hj : e.1 = j
      · subst hj
        simp [erase, find?, he]
      · simpa [erase, find?, he, hj] using ih

end Table

end TransactionalTest
