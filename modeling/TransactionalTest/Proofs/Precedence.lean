import Mathlib.Data.List.Nodup
import Mathlib.Data.List.Pairwise
import TransactionalTest.Lookup

/-!
# Which manager a look-up finds

A registry is set up by requests, and refuses some of them.  Its look-ups search for the first
match; that the search has no choice is what registering ensures, and so each look-up is told here
by rules that speak of no position in a list.

* `Registry.Consistent` : no name is taken twice, and at most one registration is primary;
* `Registry.Request`, `Registry.accepted` : requests one after another, and what came of them;
* `Registry.ByQualifier`, `Registry.ByName`, `Registry.ByDefault` : the answers by rules;
* `Registry.lookups_after_setUp` : the look-ups of a registry that has been set up in any way.
-/

namespace TransactionalTest

variable {α : Type}

/-! ### Registrations of one registry -/

namespace Registration

/-- One registry can have both: they differ in name, and not both are primary. -/
def Compatible (x y : Registration) : Prop :=
  x.name ≠ y.name ∧ ¬ (x.primary = true ∧ y.primary = true)

instance : Std.Symm Compatible where
  symm _ _ h := ⟨h.1.symm, fun hp => h.2 hp.symm⟩

/-- The word is the name, or one of the qualifiers. -/
def IsCalled (r : Registration) (word : String) : Prop := r.name = word ∨ word ∈ r.qualifiers

instance (word : String) : DecidablePred fun r : Registration => r.IsCalled word :=
  fun _ => inferInstanceAs (Decidable (_ ∨ _))

theorem answersTo_eq (r : Registration) (word : String) :
    r.answersTo word = decide (r.IsCalled word) := by
  show (r.name == word || r.qualifiers.contains word) = decide (r.name = word ∨ word ∈ r.qualifiers)
  rw [Bool.decide_or, List.contains_eq_mem, beq_eq_decide]

end Registration

open Registration (Compatible)

namespace Registry

variable {rs : List Registration} {ms : List Manager} {r x y : Registration} {g : Registry}
  {word : String}

/-- No name is taken twice, and at most one registration is primary. -/
structure Consistent (rs : List Registration) : Prop where
  names : (rs.map Registration.name).Nodup
  primary : (rs.filter Registration.primary).length ≤ 1

/-- At most one entry passes a test if no two of them pass it. -/
theorem length_filter_le_one_iff {β : Type} {p : β → Bool} {l : List β} :
    (l.filter p).length ≤ 1 ↔ l.Pairwise fun x y => ¬ (p x = true ∧ p y = true) := by
  induction l with
  | nil => simp
  | cons x l ih =>
    rw [List.pairwise_cons, ← ih]
    by_cases hx : p x = true
    · have hnone : (l.filter p).length = 0 ↔ ∀ y ∈ l, ¬ (p x = true ∧ p y = true) := by
        simp [hx, List.filter_eq_nil_iff]
      rw [List.filter_cons_of_pos hx, List.length_cons, ← hnone]
      omega
    · rw [List.filter_cons_of_neg hx]
      simp [hx]

theorem consistent_iff : Consistent rs ↔ rs.Pairwise Compatible := by
  have hnames : (rs.map Registration.name).Nodup ↔ rs.Pairwise fun x y => x.name ≠ y.name :=
    List.pairwise_map
  constructor
  · intro h
    exact List.pairwise_and_iff.2 ⟨hnames.1 h.names, length_filter_le_one_iff.1 h.primary⟩
  · intro h
    obtain ⟨hn, hp⟩ := List.pairwise_and_iff.1 h
    exact ⟨hnames.2 hn, length_filter_le_one_iff.2 hp⟩

/-- A registration can join if it is compatible with each that is there. -/
theorem consistent_append_singleton :
    Consistent (rs ++ [r]) ↔ Consistent rs ∧ ∀ x ∈ rs, x.Compatible r := by
  simp [consistent_iff, List.pairwise_append]

namespace Consistent

theorem compatible (h : Consistent rs) (hx : x ∈ rs) (hy : y ∈ rs) (hne : x ≠ y) :
    x.Compatible y :=
  (consistent_iff.1 h).forall hx hy hne

theorem eq_of_name (h : Consistent rs) (hx : x ∈ rs) (hy : y ∈ rs) (hn : x.name = y.name) :
    x = y := by
  by_contra hne
  exact (h.compatible hx hy hne).1 hn

theorem eq_of_primary (h : Consistent rs) (hx : x ∈ rs) (hy : y ∈ rs) (hpx : x.primary = true)
    (hpy : y.primary = true) : x = y := by
  by_contra hne
  exact (h.compatible hx hy hne).2 ⟨hpx, hpy⟩

theorem nodup (h : Consistent rs) : rs.Nodup := .of_map _ h.names

end Consistent

/-! ### The answers by rules -/

/-- The answer to a qualifier: the manager of the one registration that is called by it; else
nothing is found, or all that are called by it are told, in the order of registration. -/
inductive ByQualifier (rs : List Registration) (word : String) :
    Except LookupError Manager → Prop
  | unknown (uncalled : ∀ x ∈ rs, ¬ x.IsCalled word) :
      ByQualifier rs word (.error (.noSuchManager word))
  | found (r : Registration) (mem : r ∈ rs) (called : r.IsCalled word)
      (only : ∀ x ∈ rs, x.IsCalled word → x = r) : ByQualifier rs word (.ok r.manager)
  | ambiguous (x y : Registration) (memx : x ∈ rs) (memy : y ∈ rs) (ne : x ≠ y)
      (calledx : x.IsCalled word) (calledy : y.IsCalled word) :
      ByQualifier rs word (.error (.noUniqueManager word
        ((rs.filter fun r => r.IsCalled word).map Registration.name)))

/-- The answer to a name that is not empty: the manager of the registration that has it. -/
inductive ByName (rs : List Registration) (name : String) :
    Except LookupError (Option Manager) → Prop
  | unknown (unnamed : ∀ x ∈ rs, x.name ≠ name) : ByName rs name (.error (.noSuchManager name))
  | found (r : Registration) (mem : r ∈ rs) (named : r.name = name) :
      ByName rs name (.ok (some r.manager))

/-- The answer to the empty name.  A single registration needs no rule; of several the selection
hook chooses, if there is one, then the primary one is taken, then the one of the conventional
name. -/
inductive ByDefault (rs : List Registration) (ms : List Manager) :
    Except LookupError (Option Manager) → Prop
  | nothing (empty : rs = []) : ByDefault rs ms (.ok none)
  | sole (r : Registration) (only : rs = [r]) : ByDefault rs ms (.ok (some r.manager))
  | contested (several : 2 ≤ rs.length) (hooks : 2 ≤ ms.length) :
      ByDefault rs ms (.error (.misconfigured (.manySelectors ms.length)))
  | selected (several : 2 ≤ rs.length) (m : Manager) (hook : ms = [m]) :
      ByDefault rs ms (.ok (some m))
  | primary (several : 2 ≤ rs.length) (unhooked : ms = []) (r : Registration) (mem : r ∈ rs)
      (isPrimary : r.primary = true) : ByDefault rs ms (.ok (some r.manager))
  | conventional (several : 2 ≤ rs.length) (unhooked : ms = [])
      (noPrimary : ∀ x ∈ rs, x.primary = false) (r : Registration) (mem : r ∈ rs)
      (named : r.name = conventionalName) : ByDefault rs ms (.ok (some r.manager))
  | ambiguous (several : 2 ≤ rs.length) (unhooked : ms = [])
      (noPrimary : ∀ x ∈ rs, x.primary = false) (unnamed : ∀ x ∈ rs, x.name ≠ conventionalName) :
      ByDefault rs ms (.error (.noUniqueManager "" (rs.map Registration.name)))

/-! ### Qualifiers -/

theorem ByQualifier.unique {a b : Except LookupError Manager} (ha : ByQualifier rs word a)
    (hb : ByQualifier rs word b) : a = b := by
  cases ha with
  | unknown uncalled =>
    cases hb with
    | unknown => rfl
    | found r mem called => exact absurd called (uncalled r mem)
    | ambiguous x _ mem _ _ called => exact absurd called (uncalled x mem)
  | found r mem called only =>
    cases hb with
    | unknown uncalled => exact absurd called (uncalled r mem)
    | found r' mem' called' => rw [only r' mem' called']
    | ambiguous x y memx memy ne calledx calledy =>
      exact absurd ((only x memx calledx).trans (only y memy calledy).symm) ne
  | ambiguous x y memx memy ne calledx calledy =>
    cases hb with
    | unknown uncalled => exact absurd calledx (uncalled x memx)
    | found r _ _ only =>
      exact absurd ((only x memx calledx).trans (only y memy calledy).symm) ne
    | ambiguous => rfl

theorem byQualifier_rules (h : Consistent g.registrations) (word : String) :
    ByQualifier g.registrations word (g.byQualifier word) := by
  have hfilter : g.registrations.filter (·.answersTo word) =
      g.registrations.filter fun r => r.IsCalled word :=
    List.filter_congr fun r _ => r.answersTo_eq word
  have hmem : ∀ x, x ∈ g.registrations.filter (fun r => r.IsCalled word) ↔
      x ∈ g.registrations ∧ x.IsCalled word := by simp
  have hnodup := h.nodup.filter fun r => decide (r.IsCalled word)
  rw [byQualifier, hfilter]
  cases hcalled : g.registrations.filter fun r => r.IsCalled word with
  | nil =>
    rw [hcalled] at hmem
    exact .unknown fun x hx hc => List.not_mem_nil ((hmem x).2 ⟨hx, hc⟩)
  | cons x l =>
    rw [hcalled] at hmem hnodup
    obtain ⟨hx, hcx⟩ := (hmem x).1 List.mem_cons_self
    cases l with
    | nil => exact .found x hx hcx fun y hy hc => List.mem_singleton.1 ((hmem y).2 ⟨hy, hc⟩)
    | cons y l =>
      obtain ⟨hy, hcy⟩ := (hmem y).1 (List.mem_cons_of_mem _ List.mem_cons_self)
      have hne : x ≠ y := fun he => (List.nodup_cons.1 hnodup).1 (he ▸ List.mem_cons_self)
      have hrule := ByQualifier.ambiguous x y hx hy hne hcx hcy
      rwa [hcalled] at hrule

theorem byQualifier_eq_iff (h : Consistent g.registrations) {a : Except LookupError Manager} :
    g.byQualifier word = a ↔ ByQualifier g.registrations word a :=
  ⟨fun ha => ha ▸ byQualifier_rules h word, fun ha => (byQualifier_rules h word).unique ha⟩

/-! ### Names -/

/-- A search for what only one registration has finds it wherever it stands. -/
theorem find?_eq_some_of_unique {p : Registration → Bool} (hr : r ∈ rs) (hp : p r = true)
    (h : ∀ x ∈ rs, p x = true → x = r) : rs.find? p = some r := by
  cases hf : rs.find? p with
  | none => exact absurd hp (List.find?_eq_none.1 hf r hr)
  | some x => rw [h x (List.mem_of_find?_eq_some hf) (List.find?_some hf)]

theorem find?_name_of_mem (h : Consistent rs) (hr : r ∈ rs) :
    (rs.find? fun x => x.name == r.name) = some r :=
  find?_eq_some_of_unique hr (beq_self_eq_true _) fun _ hx hn =>
    h.eq_of_name hx hr (beq_iff_eq.1 hn)

theorem find?_name_of_unnamed (h : ∀ x ∈ rs, x.name ≠ word) :
    (rs.find? fun x => x.name == word) = none := by
  simpa using h

theorem byName_eq_iff (h : Consistent g.registrations) (hword : word ≠ "")
    {a : Except LookupError (Option Manager)} :
    g.byName word = a ↔ ByName g.registrations word a := by
  have hne : word.isEmpty = false := by simpa using hword
  rw [byName, hne]
  constructor
  · rintro rfl
    cases hf : g.registrations.find? fun x => x.name == word with
    | none => exact .unknown fun x hx hn => List.find?_eq_none.1 hf x hx (beq_iff_eq.2 hn)
    | some r => exact .found r (List.mem_of_find?_eq_some hf) (by simpa using List.find?_some hf)
  · rintro (⟨unnamed⟩ | ⟨r, mem, rfl⟩)
    · simp only [find?_name_of_unnamed unnamed, Bool.false_eq_true, if_false]
    · simp only [find?_name_of_mem h mem, Bool.false_eq_true, if_false]

/-! ### The empty name -/

/-- The rule for several registrations without a selection hook. -/
theorem default_of_several (h : 2 ≤ g.registrations.length) : g.default =
    match g.selectors with
    | [m] => .ok (some m)
    | _ :: _ :: _ => .error (.misconfigured (.manySelectors g.selectors.length))
    | [] =>
      match g.registrations.find? (·.primary) with
      | some r => .ok (some r.manager)
      | none =>
        match g.registrations.find? fun r => r.name == conventionalName with
        | some r => .ok (some r.manager)
        | none => .error (.noUniqueManager "" (g.registrations.map Registration.name)) := by
  unfold default
  split
  · simp_all
  · simp_all
  · rfl

theorem byDefault_rules (g : Registry) : ByDefault g.registrations g.selectors g.default := by
  by_cases hseveral : 2 ≤ g.registrations.length
  · rw [default_of_several hseveral]
    split
    · exact .selected hseveral _ ‹_›
    · exact .contested hseveral (by simp_all)
    · rename_i hhooks
      cases hp : g.registrations.find? (·.primary) with
      | some r =>
        exact .primary hseveral hhooks r (List.mem_of_find?_eq_some hp) (List.find?_some hp)
      | none =>
        have hnone : ∀ x ∈ g.registrations, x.primary = false := by simpa using hp
        cases hc : g.registrations.find? fun r => r.name == conventionalName with
        | some r =>
          exact .conventional hseveral hhooks hnone r (List.mem_of_find?_eq_some hc)
            (by simpa using List.find?_some hc)
        | none => exact .ambiguous hseveral hhooks hnone (by simpa using hc)
  · cases hrs : g.registrations with
    | nil =>
      rw [default, hrs]
      exact .nothing rfl
    | cons r l =>
      obtain rfl : l = [] := by
        rw [hrs, List.length_cons] at hseveral
        exact List.length_eq_zero_iff.1 (by omega)
      rw [default, hrs]
      exact .sole r rfl

theorem default_eq_iff (h : Consistent g.registrations) {a : Except LookupError (Option Manager)} :
    g.default = a ↔ ByDefault g.registrations g.selectors a := by
  refine ⟨fun ha => ha ▸ byDefault_rules g, fun ha => ?_⟩
  cases ha with
  | nothing empty => rw [default, empty]
  | sole r only => rw [default, only]
  | contested several hooks =>
    rw [default_of_several several]
    split <;> simp_all
  | selected several m hook => rw [default_of_several several, hook]
  | primary several unhooked r mem isPrimary =>
    have hfind : g.registrations.find? (·.primary) = some r :=
      find?_eq_some_of_unique mem isPrimary fun _ hx hp => h.eq_of_primary hx mem hp isPrimary
    rw [default_of_several several, unhooked]
    simp only [hfind]
  | conventional several unhooked noPrimary r mem named =>
    have hnone : g.registrations.find? (·.primary) = none := by simpa using noPrimary
    rw [default_of_several several, unhooked, ← named]
    simp only [hnone, find?_name_of_mem h mem]
  | ambiguous several unhooked noPrimary unnamed =>
    have hnone : g.registrations.find? (·.primary) = none := by simpa using noPrimary
    rw [default_of_several several, unhooked]
    simp only [hnone, find?_name_of_unnamed unnamed]

/-! ### Setting a registry up -/

/-- What is asked of a registry while it is set up. -/
inductive Request where
  | register (r : Registration)
  | addSelector (m : Manager)

namespace Request

/-- The registration that is asked for. -/
def registration? : Request → Option Registration
  | register r => some r
  | addSelector _ => none

/-- The selection hook that is added. -/
def selector? : Request → Option Manager
  | register _ => none
  | addSelector m => some m

/-- Carry a request out. -/
def run : Request → World α → Except LookupError Unit × World α
  | register r, w => w.register r
  | addSelector m, w => (.ok (), w.addSelector m)

/-- The answers to requests one after another, and the world after them. -/
def runAll : List Request → World α → List (Except LookupError Unit) × World α
  | [], w => ([], w)
  | q :: qs, w =>
    let (a, w) := q.run w
    let (answers, w) := runAll qs w
    (a :: answers, w)

end Request

/-- The registrations that were accepted, by the answers, oldest first. -/
def accepted (requests : List Request) (answers : List (Except LookupError Unit)) :
    List Registration :=
  (requests.zip answers).filterMap fun p => if p.2.isOk then p.1.registration? else none

/-- The selection hooks that were added, oldest first. -/
def hooked (requests : List Request) : List Manager := requests.filterMap Request.selector?

section

variable (q : Request) (requests : List Request) (answers : List (Except LookupError Unit))

@[simp] theorem accepted_register_ok :
    accepted (.register r :: requests) (.ok () :: answers) = r :: accepted requests answers := rfl

@[simp] theorem accepted_register_error (e : LookupError) :
    accepted (.register r :: requests) (.error e :: answers) = accepted requests answers := rfl

@[simp] theorem accepted_addSelector (m : Manager) (a : Except LookupError Unit) :
    accepted (.addSelector m :: requests) (a :: answers) = accepted requests answers := by
  cases a <;> rfl

@[simp] theorem hooked_register : hooked (.register r :: requests) = hooked requests := rfl

@[simp] theorem hooked_addSelector (m : Manager) :
    hooked (.addSelector m :: requests) = m :: hooked requests := rfl

theorem Request.runAll_cons (w : World α) : runAll (q :: requests) w =
    ((q.run w).1 :: (runAll requests (q.run w).2).1, (runAll requests (q.run w).2).2) := rfl

end

variable {w : World α}

/-- What can join is accepted, and goes to the end. -/
theorem register_of_compatible (h : ∀ x ∈ w.registry.registrations, x.Compatible r) :
    ∃ w', w.register r = (.ok (), w') ∧ w'.registry =
      { w.registry with registrations := w.registry.registrations ++ [r] } := by
  have hname : (w.registry.registrations.any fun x => x.name == r.name) = false := by
    simpa using fun x hx => (h x hx).1
  have hprimary : (r.primary && w.registry.registrations.any (·.primary)) = false := by
    cases hp : r.primary with
    | false => rfl
    | true => simpa using fun x hx hpx => (h x hx).2 ⟨hpx, hp⟩
  have hreg : w.registry.register r = .ok
      { w.registry with registrations := w.registry.registrations ++ [r] } := by
    simp [Registry.register, hname, hprimary]
  rw [World.register, hreg]
  exact ⟨_, rfl, rfl⟩

/-- What cannot join is refused, and nothing at all is changed. -/
theorem register_of_not_compatible (h : ¬ ∀ x ∈ w.registry.registrations, x.Compatible r) :
    ∃ fault, w.register r = (.error (.misconfigured fault), w) := by
  obtain ⟨x, hx, hc⟩ : ∃ x ∈ w.registry.registrations, ¬ x.Compatible r := by simpa using h
  have hreg : ∃ fault, w.registry.register r = .error (.misconfigured fault) := by
    by_cases hname : (w.registry.registrations.any fun x => x.name == r.name) = true
    · exact ⟨_, if_pos hname⟩
    · have hne : x.name ≠ r.name := fun hn => hname (List.any_eq_true.2 ⟨x, hx, beq_iff_eq.2 hn⟩)
      obtain ⟨hpx, hpr⟩ := not_not.1 fun hp => hc ⟨hne, hp⟩
      have hprimary : (r.primary && w.registry.registrations.any (·.primary)) = true := by
        rw [hpr, Bool.true_and]
        exact List.any_eq_true.2 ⟨x, hx, hpx⟩
      exact ⟨_, (if_neg hname).trans (if_pos hprimary)⟩
  obtain ⟨fault, hfault⟩ := hreg
  exact ⟨fault, by rw [World.register, hfault]⟩

/-- A registry that has been set up has what it has accepted, and that is consistent. -/
theorem registry_runAll (requests : List Request) (hw : Consistent w.registry.registrations) :
    let out := Request.runAll requests w
    out.2.registry =
      { registrations := w.registry.registrations ++ accepted requests out.1
        selectors := w.registry.selectors ++ hooked requests } ∧
    Consistent out.2.registry.registrations := by
  induction requests generalizing w with
  | nil => simpa [Request.runAll, accepted, hooked] using hw
  | cons q requests ih =>
    rw [Request.runAll_cons]
    cases q with
    | register r =>
      by_cases hr : ∀ x ∈ w.registry.registrations, x.Compatible r
      · obtain ⟨w', hrun, hreg⟩ := register_of_compatible hr
        have hjoin : Consistent w'.registry.registrations := by
          rw [hreg]
          exact consistent_append_singleton.2 ⟨hw, hr⟩
        have hrest := ih hjoin
        rw [hreg] at hrest
        simpa [Request.run, hrun] using hrest
      · obtain ⟨fault, hrefused⟩ := register_of_not_compatible hr
        simpa [Request.run, hrefused] using ih hw
    | addSelector m =>
      simpa [Request.run, World.addSelector, addSelector] using ih (w := w.addSelector m) hw

/-- **What a registry answers is decided by what it has accepted.**  After any requests the accepted
registrations have different names and no two of them are primary; a further one is refused if and
only if it does not fit to them, and then nothing is changed.  A qualifier finds the one
registration that is called by it (of several it tells each name once), a name the one that has it,
and the empty name follows the selection hook, the primary registration and the conventional name,
in this order. -/
theorem lookups_after_setUp (requests : List Request) (hw : w.registry = {}) :
    let out := Request.runAll requests w
    let rs := accepted requests out.1
    Consistent rs ∧
    (∀ r, ((out.2.register r).1 = .ok () ↔ ∀ x ∈ rs, x.Compatible r) ∧
      ((out.2.register r).1.isOk = false → (out.2.register r).2 = out.2)) ∧
    (∀ word, ((rs.filter fun r => r.IsCalled word).map Registration.name).Nodup ∧
      ∀ a, out.2.registry.byQualifier word = a ↔ ByQualifier rs word a) ∧
    (∀ name, name ≠ "" → ∀ a, (out.2.managerByName name).1 = a ↔ ByName rs name a) ∧
    ∀ a, (out.2.managerByName "").1 = a ↔ ByDefault rs (hooked requests) a := by
  intro out rs
  have hempty : Consistent w.registry.registrations := by
    rw [hw]
    exact ⟨List.nodup_nil, Nat.zero_le _⟩
  obtain ⟨hregistry, hconsistent⟩ := registry_runAll requests hempty
  have hrs : out.2.registry.registrations = rs := by
    simpa [hw] using congrArg registrations hregistry
  have hms : out.2.registry.selectors = hooked requests := by
    simpa [hw] using congrArg selectors hregistry
  rw [← hrs, ← hms]
  refine ⟨hconsistent, fun r => ?_, fun word => ⟨?_, fun a => byQualifier_eq_iff hconsistent⟩,
    fun name hname a => byName_eq_iff hconsistent hname, fun a => default_eq_iff hconsistent⟩
  swap
  · exact hconsistent.names.sublist (List.filter_sublist.map _)
  by_cases hr : ∀ x ∈ out.2.registry.registrations, x.Compatible r
  · obtain ⟨w', hrun, -⟩ := register_of_compatible hr
    rw [hrun]
    exact ⟨⟨fun _ => hr, fun _ => rfl⟩, nofun⟩
  · obtain ⟨fault, hrefused⟩ := register_of_not_compatible hr
    rw [hrefused]
    exact ⟨⟨nofun, fun h => absurd h hr⟩, fun _ => rfl⟩

/-- The third registration is refused for its name, and the fourth for being primary too.  A word
that is a qualifier twice and a name once is told with two candidates. -/
theorem lookups_after_setUp_sample :
    let orders : Registration :=
      { name := "orders", qualifiers := ["db", "db"], manager := ⟨1, "orders"⟩ }
    let db : Registration := { name := "db", primary := true, manager := ⟨2, "db"⟩ }
    let requests : List Request := [.register orders, .register db,
      .register { name := "orders", manager := ⟨3, "spare"⟩ },
      .register { name := "audit", primary := true, manager := ⟨4, "audit"⟩ }]
    let out := Request.runAll requests ({ app := () } : World Unit)
    accepted requests out.1 = [orders, db] ∧
    out.2.registry.byQualifier "db" = .error (.noUniqueManager "db" ["orders", "db"]) ∧
    (out.2.managerByName "orders").1 = .ok (some ⟨1, "orders"⟩) ∧
    (out.2.managerByName "").1 = .ok (some ⟨2, "db"⟩) := by
  intro orders db requests out
  obtain ⟨-, -, hqualifier, hname, hdefault⟩ :=
    lookups_after_setUp requests (w := ({ app := () } : World Unit)) rfl
  have hrs : accepted requests out.1 = [orders, db] := rfl
  rw [hrs] at hqualifier hname hdefault
  refine ⟨hrs, ((hqualifier "db").2 _).2 ?_, (hname "orders" (by decide) _).2 ?_, (hdefault _).2 ?_⟩
  · exact .ambiguous orders db (by simp) (by simp) (by decide) (by decide) (by decide)
  · exact .found orders (by simp) rfl
  · exact .primary (by decide) rfl db (by simp) rfl

end Registry

end TransactionalTest
