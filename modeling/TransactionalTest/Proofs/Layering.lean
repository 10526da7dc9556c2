import Mathlib.Data.List.TakeDrop
import Mathlib.Data.List.TakeWhile
import TransactionalTest.Proofs.Table
import TransactionalTest.Settings.Load

/-!
# Which value of a setting counts

Each of the three fields is settled by itself: the variable named after it, else the entry of the
file, else the default.  Only the value that counts must be of the field's type, and nothing else
that the file or the environment holds has any influence.

* `BuiltIn` : the defaults, one for each field;
* `Counts` : the value that counts for a field, told by membership alone;
* `Layer.find?_over_of_mem`, `Layer.find?_over_of_absent` : what a source does to a field;
* `ConfigurationSources.Readable.find?_eq` : the value on top is the one that counts;
* `Setting.ReadsFlag`, `Setting.ReadsText` : what a value is taken for;
* `ListenerConfig.Makes` : what is to be made of the three values that count;
* `ListenerConfig.load_layered` : the loader makes this of them, whatever else is there.
-/

namespace TransactionalTest

open Lower

/-! ### Plain keys -/

/-- The key consists of ASCII letters, digits and underscores, so it is no path. -/
def IsPlain (key : String) : Prop := (key.toList.all fun c => c.isAlphanum || c = '_') = true

instance (key : String) : Decidable (IsPlain key) := inferInstanceAs (Decidable (_ = true))

theorem isPlain_iff {key : String} :
    IsPlain key ↔ ∀ c ∈ key.toList, (c.isAlphanum || c = '_') = true := by
  rw [IsPlain, List.all_eq_true]

theorem IsPlain.splitPath_eq {key : String} (h : IsPlain key) :
    splitPath key = (lower key, false) := by
  have hkey : ∀ c ∈ key.toList, isKeyChar c = true := by
    intro c hc
    have := isPlain_iff.1 h c hc
    simp only [isKeyChar, Bool.or_eq_true] at this ⊢
    tauto
  have hspan : key.toList.span isKeyChar = (key.toList, []) := by
    rw [List.span_eq_takeWhile_dropWhile, List.takeWhile_eq_self_iff.2 hkey,
      List.dropWhile_eq_nil_iff.2 hkey]
  rw [splitPath, hspan]
  simp

theorem IsPlain.lower {key : String} (h : IsPlain key) : IsPlain (lower key) := by
  rw [isPlain_iff] at h ⊢
  intro c hc
  rw [toList_lower] at hc
  obtain ⟨d, hd, rfl⟩ := List.mem_map.1 hc
  rcases lowerChar_cases d with hsame | hsmall
  · rw [hsame]
    exact h d hd
  · have hdef : (lowerChar d).isAlphanum =
        ((lowerChar d).isUpper || (lowerChar d).isLower || (lowerChar d).isDigit) := rfl
    rw [hdef, hsmall]
    simp

theorem IsPlain.of_append {start key : String} (h : IsPlain (start ++ key)) : IsPlain key :=
  isPlain_iff.2 fun c hc => isPlain_iff.1 h c (by simp [hc])

/-! ### A source over settings -/

namespace Settings

theorem find?_assign_of_ne {key field : String} (hp : IsPlain key) (h : lower key ≠ field)
    (x : Setting) (s : Settings) : (s.assign key x).find? field = s.find? field := by
  rw [assign, hp.splitPath_eq]
  simp only [Bool.false_eq_true, ↓reduceIte]
  split <;> exact Table.find?_insert_of_ne (Ne.symm h) _ _

theorem find?_assign_self {key : String} (hp : IsPlain key) {x : Setting} (hx : x ≠ .table true)
    (s : Settings) : (s.assign key x).find? (lower key) = some x := by
  have hinsert : s.assign key x = s.insert (lower key) x := by
    rw [assign, hp.splitPath_eq]
    cases x with
    | table isEmpty =>
      cases isEmpty with
      | true => exact absurd rfl hx
      | false => rfl
    | _ => rfl
  rw [hinsert, Table.find?_insert_self]

/-- An empty table leaves the value of its field as it is. -/
theorem find?_assign_empty {key : String} (hp : IsPlain key) {s : Settings} {y : Setting}
    (hy : s.find? (lower key) = some y) :
    (s.assign key (.table true)).find? (lower key) = some y := by
  rw [assign, hp.splitPath_eq]
  simp [hy]

end Settings

namespace Layer

/-- The values that a layer has for a field, under names in any case. -/
def values (l : Layer) (field : String) : List Setting :=
  (l.filter fun e => lower e.1 = field).map Prod.snd

theorem mem_values_iff {l : Layer} {field : String} {x : Setting} :
    x ∈ l.values field ↔ ∃ key, (key, x) ∈ l ∧ lower key = field := by
  simp [values]

/-- No two keys are equal in lower case. -/
def Distinct (l : Layer) : Prop := l.Pairwise fun e f => lower e.1 ≠ lower f.1

instance (l : Layer) : Decidable l.Distinct :=
  inferInstanceAs (Decidable (l.Pairwise fun e f : String × Setting => lower e.1 ≠ lower f.1))

/-- A source that has nothing for a field but empty tables leaves its value as it is. -/
theorem find?_over_of_absent {field : String} {y : Setting} {l : Layer}
    (hp : ∀ e ∈ l, IsPlain e.1) (habsent : ∀ x ∈ l.values field, x = .table true) {s : Settings}
    (hy : s.find? field = some y) : (l.over s).find? field = some y := by
  induction l generalizing s with
  | nil => exact hy
  | cons e l ih =>
    obtain ⟨key, x⟩ := e
    have hkey : IsPlain key := hp _ List.mem_cons_self
    refine ih (fun e he => hp e (List.mem_cons_of_mem _ he)) ?_ ?_
    · intro x hx
      obtain ⟨other, hmem, hfield⟩ := mem_values_iff.1 hx
      exact habsent x (mem_values_iff.2 ⟨other, List.mem_cons_of_mem _ hmem, hfield⟩)
    · by_cases hfield : lower key = field
      · have hx : x = .table true :=
          habsent x (mem_values_iff.2 ⟨key, List.mem_cons_self, hfield⟩)
        subst hx hfield
        exact Settings.find?_assign_empty hkey hy
      · rw [Settings.find?_assign_of_ne hkey hfield, hy]

/-- A source with a value for a field sets it, wherever the entry stands. -/
theorem find?_over_of_mem {field : String} {x : Setting} {l : Layer}
    (hp : ∀ e ∈ l, IsPlain e.1) (hd : l.Distinct) (h : x ∈ l.values field) (hx : x ≠ .table true)
    (s : Settings) : (l.over s).find? field = some x := by
  obtain ⟨key, hmem, rfl⟩ := mem_values_iff.1 h
  clear h
  induction l generalizing s with
  | nil => cases hmem
  | cons e l ih =>
    have hp' : ∀ e ∈ l, IsPlain e.1 := fun e he => hp e (List.mem_cons_of_mem _ he)
    obtain ⟨hne, hd⟩ := List.pairwise_cons.1 hd
    rcases List.mem_cons.1 hmem with rfl | hmem
    · -- no later entry is about the same field
      refine find?_over_of_absent hp' ?_ (Settings.find?_assign_self (hp _ List.mem_cons_self) hx s)
      intro z hz
      obtain ⟨other, hother, heq⟩ := mem_values_iff.1 hz
      have hother : lower key ≠ lower other := hne (other, z) hother
      exact absurd heq.symm hother
    · exact ih hp' hd _ hmem

end Layer

/-! ### What the variables say -/

namespace Environment

/-- The texts of the variables of a field, their names in any case. -/
def texts (vars : List (String × String)) (field : String) : List String :=
  (vars.filter fun v => lower v.1 = leader ++ field).map Prod.snd

theorem mem_texts_iff {vars : List (String × String)} {field text : String} :
    text ∈ texts vars field ↔ ∃ name, (name, text) ∈ vars ∧ lower name = leader ++ field := by
  simp [texts]

theorem keyOf?_eq_some_iff {name key : String} :
    keyOf? name = some key ↔ lower name = leader ++ key := by
  simp only [keyOf?, Option.ite_none_right_eq_some, List.isPrefixOf_iff_prefix, Option.some.injEq]
  constructor
  · rintro ⟨⟨rest, hrest⟩, rfl⟩
    rw [← String.toList_inj, ← hrest]
    simp [← String.length_toList]
  · intro h
    rw [h]
    simp [← String.length_toList]

/-- A text is never taken for a table. -/
theorem typed_ne_table (text : String) (isEmpty : Bool) : typed text ≠ .table isEmpty := by
  unfold typed
  simp only
  split_ifs
  · simp
  · simp
  · split
    · split_ifs
      · simp
      · split <;> simp
    · split <;> simp

variable {vars : List (String × String)}

theorem mem_layer_iff {key : String} {x : Setting} :
    (key, x) ∈ layer vars ↔
      ∃ name text, (name, text) ∈ vars ∧ lower name = leader ++ key ∧ typed text = x := by
  simp only [layer, List.mem_filterMap, Option.map_eq_some_iff, keyOf?_eq_some_iff, Prod.mk.injEq]
  constructor
  · rintro ⟨⟨name, text⟩, hmem, key, hname, rfl, rfl⟩
    exact ⟨name, text, hmem, hname, rfl⟩
  · rintro ⟨name, text, hmem, hname, rfl⟩
    exact ⟨(name, text), hmem, key, hname, rfl, rfl⟩

/-- What stands behind the start of a name in lower case is in lower case too. -/
theorem lower_of_leader {name key : String} (h : lower name = leader ++ key) : lower key = key := by
  have hboth : leader ++ lower key = leader ++ key := by
    rw [← h, ← lower_lower name, h, lower_append, show lower leader = leader from by decide]
  simpa using hboth

theorem mem_values_layer_iff {field : String} {x : Setting} :
    x ∈ (layer vars).values field ↔ ∃ text ∈ texts vars field, typed text = x := by
  simp only [Layer.mem_values_iff, mem_layer_iff, mem_texts_iff]
  constructor
  · rintro ⟨key, ⟨name, text, hmem, hname, rfl⟩, rfl⟩
    exact ⟨text, ⟨name, hmem, by rw [lower_of_leader hname, hname]⟩, rfl⟩
  · rintro ⟨text, ⟨name, hmem, hname⟩, rfl⟩
    exact ⟨field, ⟨name, text, hmem, hname, rfl⟩, lower_of_leader hname⟩

theorem isPlain_of_mem_layer (hp : ∀ v ∈ vars, IsPlain v.1) :
    ∀ e ∈ layer vars, IsPlain e.1 := by
  rintro ⟨key, x⟩ he
  obtain ⟨name, text, hmem, hname, -⟩ := mem_layer_iff.1 he
  exact IsPlain.of_append (hname ▸ (hp _ hmem).lower)

theorem distinct_layer (hd : vars.Pairwise fun v u => lower v.1 ≠ lower u.1) :
    (layer vars).Distinct := by
  rw [Layer.Distinct, layer, List.pairwise_filterMap]
  refine hd.imp fun {v u} hne e he f hf => ?_
  obtain ⟨key, hkey, rfl⟩ := Option.map_eq_some_iff.1 he
  obtain ⟨other, hother, rfl⟩ := Option.map_eq_some_iff.1 hf
  rw [keyOf?_eq_some_iff] at hkey hother
  rw [lower_of_leader hkey, lower_of_leader hother]
  rintro rfl
  exact hne (hkey.trans hother.symm)

end Environment

/-! ### The value that counts -/

/-- The fields and their values when nothing else is said. -/
inductive BuiltIn : String → Setting → Prop
  | strict : BuiltIn "strict_manager_resolution" (.boolean false)
  | rollback : BuiltIn "default_rollback" (.boolean true)
  | manager : BuiltIn "default_transaction_manager" (.text "")

theorem builtIn_iff {field : String} {x : Setting} :
    BuiltIn field x ↔ (field, x) ∈ Settings.defaults := by
  constructor
  · intro h
    cases h <;> decide
  · intro h
    simp only [Settings.defaults, List.mem_cons, Prod.mk.injEq, List.not_mem_nil, or_false] at h
    rcases h with ⟨rfl, rfl⟩ | ⟨rfl, rfl⟩ | ⟨rfl, rfl⟩
    · exact .strict
    · exact .rollback
    · exact .manager

/-- The value that counts for a field: that of its variable, else the one in the file, where an
empty table is as good as nothing, else the default. -/
inductive Counts (vars : List (String × String)) (file : Layer) (field : String) : Setting → Prop
  | fromVariable {text : String} (h : text ∈ Environment.texts vars field) :
    Counts vars file field (Environment.typed text)
  | fromFile {x : Setting} (hvars : Environment.texts vars field = []) (h : x ∈ file.values field)
    (hx : x ≠ .table true) : Counts vars file field x
  | fromDefault {x : Setting} (hvars : Environment.texts vars field = [])
    (hfile : ∀ y ∈ file.values field, y = .table true) (h : BuiltIn field x) :
    Counts vars file field x

/-- For each field that has a default, some value counts. -/
theorem Counts.exists_of_default (vars : List (String × String)) (file : Layer) {field : String}
    {x : Setting} (h : BuiltIn field x) : ∃ y, Counts vars file field y := by
  cases hvars : Environment.texts vars field with
  | cons text texts => exact ⟨_, .fromVariable (hvars ▸ List.mem_cons_self)⟩
  | nil =>
    by_cases hfile : ∀ y ∈ file.values field, y = .table true
    · exact ⟨x, .fromDefault hvars hfile h⟩
    · push Not at hfile
      obtain ⟨y, hy, hne⟩ := hfile
      exact ⟨y, .fromFile hvars hy hne⟩

/-- Two environments and two files with the same values for a field: in any order, under names in
any case, and whatever else they hold. -/
def AgreeOn (field : String) (vars vars' : List (String × String)) (file file' : Layer) : Prop :=
  (Environment.texts vars field).Perm (Environment.texts vars' field) ∧
    (file.values field).Perm (file'.values field)

instance (field : String) (vars vars' : List (String × String)) (file file' : Layer) :
    Decidable (AgreeOn field vars vars' file file') :=
  inferInstanceAs (Decidable (_ ∧ _))

theorem Counts.of_agreeOn {field : String} {vars vars' : List (String × String)}
    {file file' : Layer} {x : Setting} (h : AgreeOn field vars vars' file file')
    (hx : Counts vars file field x) : Counts vars' file' field x := by
  obtain ⟨htexts, hvalues⟩ := h
  have hnone (hvars : Environment.texts vars field = []) : Environment.texts vars' field = [] :=
    List.perm_nil.1 (hvars ▸ htexts.symm)
  cases hx with
  | fromVariable ht => exact .fromVariable (htexts.mem_iff.1 ht)
  | fromFile hvars hf hne => exact .fromFile (hnone hvars) (hvalues.mem_iff.1 hf) hne
  | fromDefault hvars hf hd =>
    exact .fromDefault (hnone hvars) (fun y hy => hf y (hvalues.mem_iff.2 hy)) hd

namespace ConfigurationSources

/-- The sources can be read, the file says `file`, and the keys in it as well as the names of the
variables are plain and distinct in lower case. -/
structure Readable (s : ConfigurationSources) (file : Layer) : Prop where
  present : ∀ path ∈ s.file, s.workspace.has path = true
  layer : s.fileLayer = .ok file
  plainKeys : ∀ e ∈ file, IsPlain e.1
  distinctKeys : file.Distinct
  plainNames : ∀ v ∈ s.vars, IsPlain v.1
  distinctNames : s.vars.Pairwise fun v u => lower v.1 ≠ lower u.1

variable {s : ConfigurationSources} {file : Layer} {field : String} {x y : Setting}

/-- The value on top of the layers is the one that counts. -/
theorem Readable.find?_eq (h : s.Readable file) (hx : Counts s.vars file field x) :
    ((Environment.layer s.vars).over (file.over Settings.defaults)).find? field = some x := by
  have hplain := Environment.isPlain_of_mem_layer h.plainNames
  have hnone (hvars : Environment.texts s.vars field = []) :
      ∀ z ∈ (Environment.layer s.vars).values field, z = .table true := by
    intro z hz
    obtain ⟨text, htext, -⟩ := Environment.mem_values_layer_iff.1 hz
    simp [hvars] at htext
  cases hx with
  | fromVariable ht =>
    exact Layer.find?_over_of_mem hplain (Environment.distinct_layer h.distinctNames)
      (Environment.mem_values_layer_iff.2 ⟨_, ht, rfl⟩) (Environment.typed_ne_table _ _) _
  | fromFile hvars hf hne =>
    exact Layer.find?_over_of_absent hplain (hnone hvars)
      (Layer.find?_over_of_mem h.plainKeys h.distinctKeys hf hne _)
  | fromDefault hvars hf hd =>
    have hdefault : Settings.defaults.find? field = some x :=
      Table.find?_of_mem (by decide) (builtIn_iff.1 hd)
    exact Layer.find?_over_of_absent hplain (hnone hvars)
      (Layer.find?_over_of_absent h.plainKeys hf hdefault)

theorem Readable.counts_unique (h : s.Readable file) (hx : Counts s.vars file field x)
    (hy : Counts s.vars file field y) : x = y :=
  Option.some.inj ((h.find?_eq hx).symm.trans (h.find?_eq hy))

theorem Readable.existsUnique_counts (h : s.Readable file) (hd : BuiltIn field x) :
    ∃! y, Counts s.vars file field y := by
  obtain ⟨y, hy⟩ := Counts.exists_of_default s.vars file hd
  exact ⟨y, hy, fun z hz => h.counts_unique hz hy⟩

end ConfigurationSources

/-! ### Conversion -/

namespace Setting

/-- The value is taken for a truth value: it is one, or a number, which is true unless it is zero,
or one of eight words in any case. -/
inductive ReadsFlag : Setting → Bool → Prop
  | boolean (b : Bool) : ReadsFlag (.boolean b) b
  | integer {n : Int} (hn : n ≠ 0) : ReadsFlag (.integer n) true
  | integerZero : ReadsFlag (.integer 0) false
  | real (negative : Bool) {m : Nat} (hm : m ≠ 0) (q : Int) :
    ReadsFlag (.real (.finite negative m q)) true
  | realZero (negative : Bool) (q : Int) : ReadsFlag (.real (.finite negative 0 q)) false
  | infinite (negative : Bool) : ReadsFlag (.real (.infinite negative)) true
  | nan : ReadsFlag (.real .nan) true
  | yes {s : String} (hs : lower s ∈ ["1", "true", "on", "yes"]) : ReadsFlag (.text s) true
  | no {s : String} (hs : lower s ∈ ["0", "false", "off", "no"]) : ReadsFlag (.text s) false

/-- The value is taken for a text: it is one, or a truth value or a number written out. -/
inductive ReadsText : Setting → String → Prop
  | text (s : String) : ReadsText (.text s) s
  | yes : ReadsText (.boolean true) "true"
  | no : ReadsText (.boolean false) "false"
  | integer (n : Int) : ReadsText (.integer n) (toString n)
  | real (x : Binary64) : ReadsText (.real x) (Shortest.text x)

theorem readsFlag_iff {x : Setting} {b : Bool} : x.ReadsFlag b ↔ x.toBool? = some b := by
  constructor
  · intro h
    cases h with
    | boolean | integerZero | realZero | infinite | nan => rfl
    | integer hn => simp [toBool?, hn]
    | @real negative m hm q =>
      cases m with
      | zero => exact absurd rfl hm
      | succ m => rfl
    | yes hs => simp [toBool?, yesWords, hs]
    | @no s hs =>
      have hyes : lower s ∉ yesWords := by
        intro h
        simp only [yesWords, List.mem_cons, List.not_mem_nil, or_false] at h hs
        rcases hs with hs | hs | hs | hs <;> simp [hs] at h
      simp [toBool?, noWords, hyes, hs]
  · intro h
    cases x with
    | nil | list | table => simp [toBool?] at h
    | boolean c =>
      obtain rfl : c = b := by simpa [toBool?] using h
      exact .boolean c
    | integer n =>
      obtain rfl : (decide (n ≠ 0)) = b := by simpa [toBool?] using h
      by_cases hn : n = 0
      · subst hn
        exact .integerZero
      · simpa [hn] using ReadsFlag.integer hn
    | real x =>
      obtain rfl : (!x.isZero) = b := by simpa [toBool?] using h
      cases x with
      | nan => exact .nan
      | infinite negative => exact .infinite negative
      | finite negative m q =>
        cases m with
        | zero => exact .realZero negative q
        | succ m => exact .real negative (Nat.succ_ne_zero m) q
    | text s =>
      simp only [toBool?, List.contains_iff_mem] at h
      split_ifs at h with hyes hno <;> obtain rfl := Option.some.inj h
      · exact .yes hyes
      · exact .no hno

theorem readsText_iff {x : Setting} {s : String} : x.ReadsText s ↔ x.toText? = some s := by
  constructor
  · intro h
    cases h <;> rfl
  · intro h
    cases x with
    | nil | list | table => simp [toText?] at h
    | boolean b =>
      obtain rfl : Inspect.flag b = s := by simpa [toText?] using h
      cases b
      · exact .no
      · exact .yes
    | integer n =>
      obtain rfl : toString n = s := by simpa [toText?] using h
      exact .integer n
    | real x =>
      obtain rfl : Shortest.text x = s := by simpa [toText?] using h
      exact .real x
    | text t =>
      obtain rfl : t = s := by simpa [toText?] using h
      exact .text t

end Setting

theorem Settings.toConfig?_eq_some_iff {s : Settings} {c : ListenerConfig} :
    s.toConfig? = some c ↔
      (s.find? "strict_manager_resolution").bind Setting.toBool? = some c.strictManagerResolution ∧
      (s.find? "default_rollback").bind Setting.toBool? = some c.defaultRollback ∧
      (s.find? "default_transaction_manager").bind Setting.toText? =
        some c.defaultTransactionManager := by
  simp only [toConfig?, Option.bind_eq_bind, Option.bind_eq_some_iff, Option.pure_def,
    Option.some.injEq]
  constructor
  · rintro ⟨x, hx, strict, hstrict, y, hy, rollback, hrollback, z, hz, manager, hmanager, rfl⟩
    exact ⟨⟨x, hx, hstrict⟩, ⟨y, hy, hrollback⟩, ⟨z, hz, hmanager⟩⟩
  · rintro ⟨⟨x, hx, hstrict⟩, ⟨y, hy, hrollback⟩, ⟨z, hz, hmanager⟩⟩
    exact ⟨x, hx, _, hstrict, y, hy, _, hrollback, z, hz, _, hmanager, rfl⟩

/-! ### Loading -/

namespace ListenerConfig

/-- The characters with the Unicode property `White_Space`, by their numbers. -/
def whitespace : List Nat :=
  [0x9, 0xA, 0xB, 0xC, 0xD, 0x20, 0x85, 0xA0, 0x1680, 0x2000, 0x2001, 0x2002, 0x2003, 0x2004,
    0x2005, 0x2006, 0x2007, 0x2008, 0x2009, 0x200A, 0x2028, 0x2029, 0x202F, 0x205F, 0x3000]

/-- What is to be made of the values that count for the three fields: an error with some text if
one of them cannot be taken for what its field needs, else an error if a blank stands at the front
or at the end of the manager's name, else the configuration of the three. -/
inductive Makes (source : String) (strict rollback manager : Setting) :
    Except ConfigurationError ListenerConfig → Prop
  | unfit (text : String)
      (h : (∀ b, ¬strict.ReadsFlag b) ∨ (∀ b, ¬rollback.ReadsFlag b) ∨
        ∀ name, ¬manager.ReadsText name) :
    Makes source strict rollback manager (.error (.load source text))
  | padded {a b : Bool} {name : String} (hs : strict.ReadsFlag a) (hr : rollback.ReadsFlag b)
      (hm : manager.ReadsText name) {c : Char} (hc : c.toNat ∈ whitespace)
      (hend : name.toList.head? = some c ∨ name.toList.getLast? = some c) :
    Makes source strict rollback manager
      (.error (.invalidValue "default_transaction_manager" name
        "manager names must not carry surrounding whitespace"))
  | made {a b : Bool} {name : String} (hs : strict.ReadsFlag a) (hr : rollback.ReadsFlag b)
      (hm : manager.ReadsText name)
      (hend : ∀ c : Char, c.toNat ∈ whitespace →
        name.toList.head? ≠ some c ∧ name.toList.getLast? ≠ some c) :
    Makes source strict rollback manager (.ok ⟨a, b, name⟩)

/-- The same configuration or the same error, but for the text of a load error. -/
inductive Alike : Except ConfigurationError ListenerConfig →
    Except ConfigurationError ListenerConfig → Prop
  | refl (r : Except ConfigurationError ListenerConfig) : Alike r r
  | load (source text text' : String) :
    Alike (.error (.load source text)) (.error (.load source text'))

variable {s : ConfigurationSources} {file : Layer} {strict rollback manager : Setting}

/-- What is made of three values is settled but for a text. -/
theorem Makes.alike {source : String} {r r' : Except ConfigurationError ListenerConfig}
    (h : Makes source strict rollback manager r) (h' : Makes source strict rollback manager r') :
    Alike r' r := by
  have hflag {x : Setting} {a b : Bool} (ha : x.ReadsFlag a) (hb : x.ReadsFlag b) : a = b :=
    Option.some.inj ((Setting.readsFlag_iff.1 ha).symm.trans (Setting.readsFlag_iff.1 hb))
  have htext {x : Setting} {t u : String} (ht : x.ReadsText t) (hu : x.ReadsText u) : t = u :=
    Option.some.inj ((Setting.readsText_iff.1 ht).symm.trans (Setting.readsText_iff.1 hu))
  have hfit {a b : Bool} {name : String} (hs : strict.ReadsFlag a) (hr : rollback.ReadsFlag b)
      (hm : manager.ReadsText name) (hunfit : (∀ b, ¬strict.ReadsFlag b) ∨
        (∀ b, ¬rollback.ReadsFlag b) ∨ ∀ name, ¬manager.ReadsText name) : False := by
    rcases hunfit with hno | hno | hno
    · exact hno a hs
    · exact hno b hr
    · exact hno name hm
  cases h with
  | unfit text hunfit =>
    cases h' with
    | unfit text' => exact .load source text' text
    | padded hs hr hm | made hs hr hm => exact (hfit hs hr hm hunfit).elim
  | padded hs hr hm hc hend =>
    cases h' with
    | unfit _ hunfit => exact (hfit hs hr hm hunfit).elim
    | padded hs' hr' hm' =>
      rw [htext hm hm']
      exact .refl _
    | made hs' hr' hm' hend' =>
      rw [htext hm hm'] at hend
      exact (hend.elim (hend' _ hc).1 (hend' _ hc).2).elim
  | made hs hr hm hend =>
    cases h' with
    | unfit _ hunfit => exact (hfit hs hr hm hunfit).elim
    | padded hs' hr' hm' hc hend' =>
      rw [htext hm' hm] at hend'
      exact (hend'.elim (hend _ hc).1 (hend _ hc).2).elim
    | made hs' hr' hm' =>
      rw [hflag hs hs', hflag hr hr', htext hm hm']
      exact .refl _

/-- The report of a configuration that was made. -/
def reports : Except ConfigurationError ListenerConfig → List LogEvent
  | .ok c => [.configurationLoaded c]
  | .error _ => []

theorem Alike.reports_eq {r r' : Except ConfigurationError ListenerConfig} (h : Alike r r') :
    reports r = reports r' := by
  cases h <;> rfl

theorem Alike.eq_of_ne_load {r r' : Except ConfigurationError ListenerConfig} (h : Alike r r')
    (hr : ∀ source text, r ≠ .error (.load source text)) : r' = r := by
  cases h with
  | refl => rfl
  | load source text => exact absurd rfl (hr source text)

theorem Alike.exists_load {source text : String} {r : Except ConfigurationError ListenerConfig}
    (h : Alike (.error (.load source text)) r) : ∃ text', r = .error (.load source text') := by
  cases h with
  | refl => exact ⟨text, rfl⟩
  | load _ _ text' => exact ⟨text', rfl⟩

theorem isBlank_iff {c : Char} : Blank.isBlank c = true ↔ c.toNat ∈ whitespace := by
  simp only [Blank.isBlank, whitespace, Bool.or_eq_true, Bool.and_eq_true, decide_eq_true_eq,
    beq_iff_eq, List.mem_cons, List.not_mem_nil, or_false]
  omega

theorem isPadded_iff {name : String} : Blank.isPadded name = true ↔
    ∃ c : Char, c.toNat ∈ whitespace ∧
      (name.toList.head? = some c ∨ name.toList.getLast? = some c) := by
  rw [Blank.isPadded_eq, Bool.or_eq_true, Option.any_eq_true, Option.any_eq_true]
  simp only [isBlank_iff]
  constructor
  · rintro (⟨c, hc, hblank⟩ | ⟨c, hc, hblank⟩)
    · exact ⟨c, hblank, .inl hc⟩
    · exact ⟨c, hblank, .inr hc⟩
  · rintro ⟨c, hblank, hc | hc⟩
    · exact .inl ⟨c, hc, hblank⟩
    · exact .inr ⟨c, hc, hblank⟩

/-- The loader makes of the three values on top what is to be made of them. -/
theorem makes_load (h : s.Readable file)
    (hs : Counts s.vars file "strict_manager_resolution" strict)
    (hr : Counts s.vars file "default_rollback" rollback)
    (hm : Counts s.vars file "default_transaction_manager" manager)
    (wording : ConfigurationSources → SourceFault → String) :
    Makes s.name strict rollback manager (load s wording).1 ∧
      (load s wording).2 =
        (s.file.map LogEvent.fileLoading).toList ++ reports (load s wording).1 := by
  have hmissing : s.file.filter (fun path => !s.workspace.has path) = none := by
    rw [Option.filter_eq_none_iff]
    intro path hpath
    simp [h.present path hpath]
  have hconverted (c : ListenerConfig) :
      ((Environment.layer s.vars).over (file.over Settings.defaults)).toConfig? = some c ↔
        strict.ReadsFlag c.strictManagerResolution ∧ rollback.ReadsFlag c.defaultRollback ∧
          manager.ReadsText c.defaultTransactionManager := by
    rw [Settings.toConfig?_eq_some_iff, h.find?_eq hs, h.find?_eq hr, h.find?_eq hm,
      Setting.readsFlag_iff, Setting.readsFlag_iff, Setting.readsText_iff]
    rfl
  rw [load, hmissing, ConfigurationSources.config, ConfigurationSources.settings, h.layer]
  simp only [Except.map]
  cases hconfig : ((Environment.layer s.vars).over (file.over Settings.defaults)).toConfig? with
  | none =>
    refine ⟨.unfit _ ?_, by simp [reports]⟩
    by_contra hfit
    push Not at hfit
    obtain ⟨⟨a, ha⟩, ⟨b, hb⟩, name, hname⟩ := hfit
    simpa [hconfig] using (hconverted ⟨a, b, name⟩).2 ⟨ha, hb, hname⟩
  | some c =>
    obtain ⟨ha, hb, hname⟩ := (hconverted c).1 hconfig
    cases hpad : Blank.isPadded c.defaultTransactionManager with
    | true =>
      obtain ⟨d, hd, hend⟩ := isPadded_iff.1 hpad
      simp only [validate, hpad, ↓reduceIte]
      exact ⟨.padded ha hb hname hd hend, by simp [reports]⟩
    | false =>
      simp only [validate, hpad, Bool.false_eq_true, ↓reduceIte]
      refine ⟨.made ha hb hname fun d hd => ?_, by simp [reports]⟩
      rw [← not_or]
      intro hend
      simp [isPadded_iff.2 ⟨d, hd, hend⟩] at hpad

/-- **Layering, field by field.**  For each field exactly one value counts, and the loader makes of
these values what is to be made of them.  Sources that agree on the three fields give the same
configuration or error, the text of a load error apart, and the same reports, whatever else they
hold and in whichever order. -/
theorem load_layered (h : s.Readable file)
    (wording : ConfigurationSources → SourceFault → String) :
    ∃ strict rollback manager : Setting,
      (∀ x, Counts s.vars file "strict_manager_resolution" x ↔ x = strict) ∧
      (∀ x, Counts s.vars file "default_rollback" x ↔ x = rollback) ∧
      (∀ x, Counts s.vars file "default_transaction_manager" x ↔ x = manager) ∧
      Makes s.name strict rollback manager (load s wording).1 ∧
      ∀ (s' : ConfigurationSources) (file' : Layer), s'.Readable file' → s'.file = s.file →
        (∀ field ∈ ["strict_manager_resolution", "default_rollback", "default_transaction_manager"],
          AgreeOn field s.vars s'.vars file file') →
        Alike (load s' wording).1 (load s wording).1 ∧
          (load s' wording).2 = (load s wording).2 := by
  obtain ⟨strict, hs, hsu⟩ := h.existsUnique_counts .strict
  obtain ⟨rollback, hr, hru⟩ := h.existsUnique_counts .rollback
  obtain ⟨manager, hm, hmu⟩ := h.existsUnique_counts .manager
  obtain ⟨hmakes, hreports⟩ := makes_load h hs hr hm wording
  refine ⟨strict, rollback, manager, fun x => ⟨hsu x, fun hx => hx ▸ hs⟩,
    fun x => ⟨hru x, fun hx => hx ▸ hr⟩, fun x => ⟨hmu x, fun hx => hx ▸ hm⟩, hmakes, ?_⟩
  intro s' file' h' hfile hagree
  simp only [List.mem_cons, List.not_mem_nil, or_false, forall_eq_or_imp, forall_eq] at hagree
  obtain ⟨has, har, ham⟩ := hagree
  obtain ⟨hmakes', hreports'⟩ :=
    makes_load h' (hs.of_agreeOn has) (hr.of_agreeOn har) (hm.of_agreeOn ham) wording
  have hname : s'.name = s.name := by simp only [ConfigurationSources.name, hfile]
  rw [hname] at hmakes'
  have halike : Alike (load s' wording).1 (load s wording).1 := hmakes.alike hmakes'
  exact ⟨halike, by rw [hreports', hreports, hfile, halike.reports_eq]⟩

/-- A word in the file that is no truth value does no harm below a variable, and neither other
variables nor other keys, names in another case or another order make a difference.  The same word
in the variable is an error, whatever the file says.  Without a file a name behind a no-break space
is refused. -/
theorem load_layered_masked :
    let s : ConfigurationSources :=
      { workspace := [("txtest.toml", "default_rollback = \"maybe\"\n" ++
          "strict_manager_resolution = \"On\"\ndefault_transaction_manager = \"orders\"")]
        vars := [("TXTEST_DEFAULT_ROLLBACK", "0")] }
    let s' : ConfigurationSources :=
      { workspace := [("txtest.toml", "default_transaction_manager = \"orders\"\nwidth = 80\n" ++
          "DEFAULT_ROLLBACK = \"maybe\"\nstrict_manager_resolution = \"On\"")]
        vars := [("TXTEST_LOG_FORMAT", "pretty"), ("TxTest_default_rollback", "0"),
          ("TXTEST_ENV", "default_rollback")] }
    let t : ConfigurationSources :=
      { workspace := [("txtest.toml", "default_rollback = true")]
        vars := [("TXTEST_DEFAULT_ROLLBACK", "maybe")] }
    let u : ConfigurationSources :=
      { vars := [("TXTEST_DEFAULT_TRANSACTION_MANAGER", "\u00a0orders")] }
    (load s).1 = .ok ⟨true, false, "orders"⟩ ∧ Alike (load s').1 (load s).1 ∧
      (load s').2 = (load s).2 ∧ (∃ text, (load t).1 = .error (.load "txtest.toml" text)) ∧
      (load u).1 = .error (.invalidValue "default_transaction_manager" "\u00a0orders"
        "manager names must not carry surrounding whitespace") := by
  intro s s' t u
  have h : s.Readable
      [("default_rollback", .text "maybe"), ("strict_manager_resolution", .text "On"),
        ("default_transaction_manager", .text "orders")] :=
    ⟨by decide, by decide +kernel, by decide, by decide, by decide, by decide⟩
  have h' : s'.Readable
      [("default_transaction_manager", .text "orders"), ("width", .integer 80),
        ("DEFAULT_ROLLBACK", .text "maybe"), ("strict_manager_resolution", .text "On")] :=
    ⟨by decide, by decide +kernel, by decide, by decide, by decide, by decide⟩
  have ht : t.Readable [("default_rollback", .boolean true)] :=
    ⟨by decide, by decide +kernel, by decide, by decide, by decide, by decide⟩
  have hu : u.Readable [] := ⟨by decide, by decide, by decide, by decide, by decide, by decide⟩
  obtain ⟨strict, rollback, manager, hs, hr, hm, hmakes, hsame⟩ := load_layered h fun _ _ => ""
  obtain rfl : .text "On" = strict := (hs _).1 (.fromFile (by decide) (by decide) (by decide))
  obtain rfl : .integer 0 = rollback := by
    have hzero : Environment.typed "0" = .integer 0 := by decide +kernel
    exact hzero ▸ (hr _).1 (.fromVariable (by decide))
  obtain rfl : .text "orders" = manager :=
    (hm _).1 (.fromFile (by decide) (by decide) (by decide))
  have hmade : Makes s.name (.text "On") (.integer 0) (.text "orders")
      (.ok ⟨true, false, "orders"⟩) := by
    refine .made (.yes (by decide)) .integerZero (.text _) fun c hc => ?_
    constructor
    · rintro ⟨⟩
      exact absurd hc (by decide)
    · rintro ⟨⟩
      exact absurd hc (by decide)
  obtain ⟨halike, hreports⟩ := hsame s' _ h' rfl (by decide +kernel)
  obtain ⟨strict, rollback, manager, -, hr, -, hmakes', -⟩ := load_layered ht fun _ _ => ""
  obtain rfl : Environment.typed "maybe" = rollback := (hr _).1 (.fromVariable (by decide))
  have hunfit (b : Bool) : ¬(Environment.typed "maybe").ReadsFlag b := by
    have hnone : (Environment.typed "maybe").toBool? = none := by decide +kernel
    rw [Setting.readsFlag_iff, hnone]
    simp
  obtain ⟨strict, rollback, manager, hs, hr, hm, hmakes'', -⟩ := load_layered hu fun _ _ => ""
  obtain rfl : .boolean false = strict := (hs _).1 (.fromDefault (by decide) (by decide) .strict)
  obtain rfl : .boolean true = rollback := (hr _).1 (.fromDefault (by decide) (by decide) .rollback)
  obtain rfl : .text "\u00a0orders" = manager := by
    have htyped : Environment.typed "\u00a0orders" = .text "\u00a0orders" := by decide +kernel
    exact htyped ▸ (hm _).1 (.fromVariable (by decide))
  have hpadded : Makes u.name (.boolean false) (.boolean true) (.text "\u00a0orders")
      (.error (.invalidValue "default_transaction_manager" "\u00a0orders"
        "manager names must not carry surrounding whitespace")) :=
    .padded (.boolean _) (.boolean _) (.text _) (c := '\u00a0') (by decide) (.inl (by decide))
  exact ⟨(hmakes.alike hmade).eq_of_ne_load (by simp), halike, hreports,
    (hmakes'.alike (.unfit "" (.inr (.inl hunfit)))).exists_load,
    (hmakes''.alike hpadded).eq_of_ne_load (by simp)⟩

end ListenerConfig

end TransactionalTest
