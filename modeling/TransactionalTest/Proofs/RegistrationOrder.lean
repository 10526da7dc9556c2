import TransactionalTest.Proofs.Precedence

/-!
# The order of registrations

Registries that were asked for the same registrations in different orders answer every look-up in
the same way; only the candidates of an ambiguous answer are told in the order of registration.

* `LookupError.Agrees`, `Agree` : answers that differ in the order of candidates at most;
* `Registry.ByQualifier.of_perm`, `Registry.ByName.of_perm`, `Registry.ByDefault.of_perm` : the
  rules speak of no order;
* `Registry.lookups_of_perm` : the order in which a registry is set up makes no difference.
-/

namespace TransactionalTest

variable {α β : Type}

/-! ### Answers that agree -/

/-- The same error, with its candidates in any order. -/
inductive LookupError.Agrees : LookupError → LookupError → Prop
  | same (e : LookupError) : Agrees e e
  | candidates (key : String) {names names' : List String} (perm : names.Perm names') :
      Agrees (.noUniqueManager key names) (.noUniqueManager key names')

/-- The same finding, or errors that agree. -/
inductive Agree : Except LookupError β → Except LookupError β → Prop
  | found (b : β) : Agree (.ok b) (.ok b)
  | failed {e e' : LookupError} (agrees : e.Agrees e') : Agree (.error e) (.error e')

theorem Agree.refl (a : Except LookupError β) : Agree a a := by
  cases a with
  | ok b => exact .found b
  | error e => exact .failed (.same e)

namespace Registry

variable {rs rs' : List Registration} {ms : List Manager} {g g' : Registry} {word : String}
  {w w' : World α}

/-! ### The rules in another order -/

theorem Consistent.of_perm (hrs : Consistent rs) (h : rs.Perm rs') : Consistent rs' :=
  ⟨(h.map _).nodup_iff.1 hrs.names, (h.filter _).length_eq ▸ hrs.primary⟩

theorem Consistent.sublist (hrs : Consistent rs) (h : rs'.Sublist rs) : Consistent rs' :=
  ⟨hrs.names.sublist (h.map _), Nat.le_trans (h.filter _).length_le hrs.primary⟩

theorem ByQualifier.of_perm (h : rs.Perm rs') {a : Except LookupError Manager}
    (ha : ByQualifier rs word a) : ∃ b, ByQualifier rs' word b ∧ Agree a b := by
  cases ha with
  | unknown uncalled => exact ⟨_, .unknown fun x hx => uncalled x (h.mem_iff.2 hx), .refl _⟩
  | found r mem called only =>
    exact ⟨_, .found r (h.mem_iff.1 mem) called fun x hx => only x (h.mem_iff.2 hx), .refl _⟩
  | ambiguous x y memx memy ne calledx calledy =>
    have hnames := (h.filter fun r => decide (r.IsCalled word)).map Registration.name
    exact ⟨_, .ambiguous x y (h.mem_iff.1 memx) (h.mem_iff.1 memy) ne calledx calledy,
      .failed (.candidates word hnames)⟩

theorem ByName.of_perm (h : rs.Perm rs') {a : Except LookupError (Option Manager)}
    (ha : ByName rs word a) : ByName rs' word a := by
  cases ha with
  | unknown unnamed => exact .unknown fun x hx => unnamed x (h.mem_iff.2 hx)
  | found r mem named => exact .found r (h.mem_iff.1 mem) named

theorem ByDefault.of_perm (h : rs.Perm rs') {a : Except LookupError (Option Manager)}
    (ha : ByDefault rs ms a) : ∃ b, ByDefault rs' ms b ∧ Agree a b := by
  have hlen : rs.length = rs'.length := h.length_eq
  cases ha with
  | nothing empty => exact ⟨_, .nothing (empty ▸ h).nil_eq.symm, .refl _⟩
  | sole r only => exact ⟨_, .sole r (List.singleton_perm.1 (only ▸ h)).symm, .refl _⟩
  | contested several hooks => exact ⟨_, .contested (hlen ▸ several) hooks, .refl _⟩
  | selected several m hook => exact ⟨_, .selected (hlen ▸ several) m hook, .refl _⟩
  | primary several unhooked r mem isPrimary =>
    exact ⟨_, .primary (hlen ▸ several) unhooked r (h.mem_iff.1 mem) isPrimary, .refl _⟩
  | conventional several unhooked noPrimary r mem named =>
    exact ⟨_, .conventional (hlen ▸ several) unhooked
      (fun x hx => noPrimary x (h.mem_iff.2 hx)) r (h.mem_iff.1 mem) named, .refl _⟩
  | ambiguous several unhooked noPrimary unnamed =>
    exact ⟨_, .ambiguous (hlen ▸ several) unhooked (fun x hx => noPrimary x (h.mem_iff.2 hx))
      (fun x hx => unnamed x (h.mem_iff.2 hx)), .failed (.candidates "" (h.map _))⟩

/-! ### Registries with the same registrations -/

section

variable (hg : Consistent g.registrations) (h : g.registrations.Perm g'.registrations)
include hg h

theorem byQualifier_agree (word : String) : Agree (g.byQualifier word) (g'.byQualifier word) := by
  obtain ⟨b, hb, hagree⟩ := (byQualifier_rules hg word).of_perm h
  rwa [(byQualifier_eq_iff (hg.of_perm h)).2 hb]

theorem byName_agree (hs : g.selectors = g'.selectors) (name : String) :
    Agree (g.byName name) (g'.byName name) := by
  by_cases hname : name = ""
  · obtain ⟨b, hb, hagree⟩ := (byDefault_rules g).of_perm h
    rw [hs] at hb
    subst hname
    show Agree g.default g'.default
    rwa [(default_eq_iff (hg.of_perm h)).2 hb]
  · have hrule := ((byName_eq_iff hg hname).1 rfl).of_perm h
    rw [(byName_eq_iff (hg.of_perm h) hname).2 hrule]
    exact .refl _

end

/-- What a test is given depends on the answers of the registry alone. -/
theorem lookup_agree
    (hqualifier : ∀ q, Agree (w.registry.byQualifier q) (w'.registry.byQualifier q))
    (hname : ∀ n, Agree (w.registry.byName n) (w'.registry.byName n))
    (strict : Bool) (test : String) (qualifier : Option String) (name : String) :
    Agree (w.lookup strict test qualifier name).1 (w'.lookup strict test qualifier name).1 := by
  cases hq : qualifier.filter fun q => !Blank.isBlankText q with
  | some q =>
    have hagree := hqualifier q
    simp only [World.lookup, hq]
    generalize w.registry.byQualifier q = a at hagree ⊢
    generalize w'.registry.byQualifier q = b at hagree ⊢
    cases hagree with
    | found m => exact .found _
    | failed agrees => exact .failed agrees
  | none =>
    have hagree := hname name
    simp only [World.lookup, hq, World.managerByName]
    generalize w.registry.byName name = a at hagree ⊢
    generalize w'.registry.byName name = b at hagree ⊢
    cases hagree with
    | found m => exact .found _
    | failed agrees =>
      -- agreeing errors are of one kind, so that both are pardoned or none is
      cases agrees with
      | same =>
        rename_i e
        cases e <;> cases strict <;> exact .refl _
      | candidates key perm =>
        cases strict with
        | false => exact .found none
        | true => exact .failed (.candidates key perm)

/-! ### Setting up in another order -/

/-- The registrations that are asked for, oldest first. -/
def asked (requests : List Request) : List Registration :=
  requests.filterMap Request.registration?

@[simp] theorem asked_register (r : Registration) (requests : List Request) :
    asked (.register r :: requests) = r :: asked requests := rfl

@[simp] theorem asked_addSelector (m : Manager) (requests : List Request) :
    asked (.addSelector m :: requests) = asked requests := rfl

/-- Requests for registrations that fit together are all granted. -/
theorem runAll_of_consistent (requests : List Request)
    (h : Consistent (w.registry.registrations ++ asked requests)) :
    let out := Request.runAll requests w
    (∀ a ∈ out.1, a = .ok ()) ∧ out.2.registry =
      { registrations := w.registry.registrations ++ asked requests
        selectors := w.registry.selectors ++ hooked requests } := by
  induction requests generalizing w with
  | nil => simp [Request.runAll, asked, hooked]
  | cons q requests ih =>
    rw [Request.runAll_cons]
    cases q with
    | register r =>
      have hsplit : w.registry.registrations ++ asked (.register r :: requests) =
          (w.registry.registrations ++ [r]) ++ asked requests := by
        simp
      rw [hsplit] at h ⊢
      have hjoin := (consistent_append_singleton.1 (h.sublist (List.sublist_append_left ..))).2
      obtain ⟨w₁, hrun, hreg⟩ := register_of_compatible hjoin
      have hrest := ih (w := w₁) (by rwa [hreg])
      rw [hreg] at hrest
      simpa [Request.run, hrun] using hrest
    | addSelector m =>
      have hrest := ih (w := w.addSelector m) h
      simpa [Request.run, World.addSelector, addSelector] using hrest

/-- **The order in which a registry is set up makes no difference.**  Registrations that fit
together are all accepted in any order, and with the same selection hooks every look-up then has the
same answer, by qualifier, by name or for a test; only the candidates of an ambiguous answer may be
told in another order. -/
theorem lookups_of_perm {requests requests' : List Request} (hw : w.registry = {})
    (hw' : w'.registry = {}) (hfit : Consistent (asked requests))
    (hperm : (asked requests).Perm (asked requests'))
    (hhooks : hooked requests = hooked requests') :
    let out := Request.runAll requests w
    let out' := Request.runAll requests' w'
    (∀ a ∈ out.1 ++ out'.1, a = .ok ()) ∧
    (∀ word, Agree (out.2.registry.byQualifier word) (out'.2.registry.byQualifier word)) ∧
    (∀ name, Agree (out.2.managerByName name).1 (out'.2.managerByName name).1) ∧
    ∀ strict test qualifier name, Agree (out.2.lookup strict test qualifier name).1
      (out'.2.lookup strict test qualifier name).1 := by
  intro out out'
  obtain ⟨hok, hreg⟩ := runAll_of_consistent (w := w) requests (by simpa [hw] using hfit)
  obtain ⟨hok', hreg'⟩ := runAll_of_consistent (w := w') requests'
    (by simpa [hw'] using hfit.of_perm hperm)
  have hrs : out.2.registry.registrations = asked requests := by
    simpa [hw] using congrArg registrations hreg
  have hrs' : out'.2.registry.registrations = asked requests' := by
    simpa [hw'] using congrArg registrations hreg'
  have hms : out.2.registry.selectors = out'.2.registry.selectors := by
    rw [congrArg selectors hreg, congrArg selectors hreg', hw, hw', hhooks]
  have hg : Consistent out.2.registry.registrations := hrs ▸ hfit
  have hg' : out.2.registry.registrations.Perm out'.2.registry.registrations := by
    rwa [hrs, hrs']
  exact ⟨fun a ha => (List.mem_append.1 ha).elim (hok a) (hok' a), byQualifier_agree hg hg',
    byName_agree hg hg' hms, lookup_agree (byQualifier_agree hg hg') (byName_agree hg hg' hms)⟩

/-- Two candidates change places, and the selection hook is added early or late. -/
theorem lookups_of_perm_swapped :
    let orders : Registration :=
      { name := "orders", qualifiers := ["db"], manager := ⟨1, "orders"⟩ }
    let audit : Registration :=
      { name := "audit", qualifiers := ["db"], primary := true, manager := ⟨2, "audit"⟩ }
    let hook : Request := .addSelector ⟨3, "chosen"⟩
    let fresh : World Unit := { app := () }
    let out := Request.runAll [hook, .register orders, .register audit] fresh
    let out' := Request.runAll [.register audit, hook, .register orders] fresh
    out.2.registry.byQualifier "db" = .error (.noUniqueManager "db" ["orders", "audit"]) ∧
    out'.2.registry.byQualifier "db" = .error (.noUniqueManager "db" ["audit", "orders"]) ∧
    Agree (out.2.registry.byQualifier "db") (out'.2.registry.byQualifier "db") ∧
    Agree (out.2.lookup true "t" none "").1 (out'.2.lookup true "t" none "").1 := by
  intro orders audit hook fresh out out'
  have h := @lookups_of_perm Unit fresh fresh
    [hook, .register orders, .register audit] [.register audit, hook, .register orders] rfl rfl
    ⟨by decide, by decide⟩ (.swap ..) rfl
  exact ⟨rfl, rfl, h.2.1 "db", h.2.2.2 true "t" none ""⟩

end Registry

end TransactionalTest
