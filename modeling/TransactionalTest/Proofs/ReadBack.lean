import Mathlib.Data.List.Perm.Basic
import TransactionalTest.Interchange.Decode

/-!
# Values read back from JSON

What is written as JSON reads back as the same value, and it still does after others have handled
the document: they may reorder the entries of its objects, put in fields of their own and leave out
those that are `null`.  Only a timeout refuses fields that it does not know.

* `RecordType` : the types whose values are written as objects;
* `Restated` : what may be done to a document on the way;
* `RecordType.decode_encode` : a value reads back from its own document;
* `RecordType.Keeps.decode` : what is read does not change when no field reads differently;
* `RecordType.decode_restated` : a value reads back from its document restated.
-/

namespace TransactionalTest

open Decode

/-! ### Records -/

/-- The types whose values are written as objects. -/
inductive RecordType where
  | listenerConfig
  | intent
  | signature
  | method
  | classConfiguration
  | event
  | timeout
  deriving DecidableEq, Repr

namespace RecordType

/-- The values of the type. -/
def Value : RecordType → Type
  | listenerConfig => ListenerConfig
  | intent => Attribute
  | signature => Signature
  | method => Method
  | classConfiguration => ClassConfiguration
  | event => LifecycleEvent
  | timeout => Timeout

/-- The document of a value. -/
def encode : (T : RecordType) → T.Value → Json
  | listenerConfig => Encode.listenerConfig
  | intent => Encode.intent
  | signature => Encode.signature
  | method => Encode.method
  | classConfiguration => Encode.classConfiguration
  | event => Encode.event
  | timeout => Encode.timeout

/-- The value of a document. -/
def decode : (T : RecordType) → Json → Option T.Value
  | listenerConfig => listenerConfig?
  | intent => intent?
  | signature => signature?
  | method => method?
  | classConfiguration => classConfiguration?
  | event => event?
  | timeout => timeout?

/-- The names of the fields that the type knows. -/
def names : RecordType → List String
  | listenerConfig =>
    ["strict_manager_resolution", "default_rollback", "default_transaction_manager"]
  | intent => ["propagation", "isolation", "read_only", "timeout", "qualifier", "name"]
  | signature => ["name", "parameter_types"]
  | method => ["signature", "hook", "transactional", "rollback"]
  | classConfiguration => ["transaction_manager", "default_rollback"]
  | event => ["type", "data"]
  | timeout => ["secs", "nanos"]

/-- The type of the field of this name, if its values are objects themselves. -/
def part? : RecordType → String → Option RecordType
  | method, "signature" => some signature
  | method, "transactional" => some intent
  | intent, "timeout" => some timeout
  | _, _ => none

end RecordType

/-- What may be done to a document of a type, in any number of steps, at the top and in the parts
that are objects. -/
inductive Restated : RecordType → Json → Json → Prop
  | refl (T : RecordType) (x : Json) : Restated T x x
  | trans {T : RecordType} {x y z : Json} (h : Restated T x y) (h' : Restated T y z) :
    Restated T x z
  /-- The entries come in another order. -/
  | permuted {T : RecordType} {es es' : List (String × Json)} (h : es.Perm es') :
    Restated T (.object es) (.object es')
  /-- There is one field more, which the type does not know. -/
  | added {T : RecordType} (hT : T ≠ .timeout) {name : String} (hname : name ∉ T.names) (x : Json)
    (es : List (String × Json)) : Restated T (.object es) (.object ((name, x) :: es))
  /-- A field that is `null` is left out. -/
  | dropped (T : RecordType) (name : String) (es : List (String × Json)) :
    Restated T (.object ((name, .null) :: es)) (.object es)
  /-- A part is restated. -/
  | within {T U : RecordType} {name : String} (hpart : T.part? name = some U) {x y : Json}
    (h : Restated U x y) (es : List (String × Json)) :
    Restated T (.object ((name, x) :: es)) (.object ((name, y) :: es))

theorem Restated.eq_null {T : RecordType} {x y : Json} (h : Restated T x y) (hx : x = .null) :
    y = .null := by
  induction h with
  | refl => exact hx
  | trans _ _ ih ih' => exact ih' (ih hx)
  | permuted | added | dropped | within => cases hx

/-! ### The fields of an object -/

namespace Decode

variable {es es' : List (String × Json)} {name : String}

theorem fieldOf?_eq_none_iff : fieldOf? es name = some none ↔ Json.valuesOf name es = [] := by
  unfold fieldOf?
  split <;> simp_all

theorem fieldOf?_eq_some_iff {x : Json} :
    fieldOf? es name = some (some x) ↔ Json.valuesOf name es = [x] := by
  unfold fieldOf?
  split <;> simp_all

theorem fieldOf?_of_perm (h : es.Perm es') (name : String) :
    fieldOf? es name = fieldOf? es' name := by
  have hvalues : (Json.valuesOf name es).Perm (Json.valuesOf name es') := (h.filter _).map _
  -- A field is read from no value or from one, and such a list has no other permutation.
  refine Option.ext fun z => ?_
  cases z with
  | none =>
    rw [fieldOf?_eq_none_iff, fieldOf?_eq_none_iff, ← List.perm_nil, ← List.perm_nil]
    exact ⟨hvalues.symm.trans, hvalues.trans⟩
  | some x =>
    rw [fieldOf?_eq_some_iff, fieldOf?_eq_some_iff, ← List.perm_singleton, ← List.perm_singleton]
    exact ⟨hvalues.symm.trans, hvalues.trans⟩

theorem fieldOf?_cons_of_ne {other : String} (h : other ≠ name) (x : Json) :
    fieldOf? ((other, x) :: es) name = fieldOf? es name := by
  simp [fieldOf?, Json.valuesOf, h]

/-- A field at the front is the field of its name if there is no second one. -/
theorem fieldOf?_cons_self {x : Json} {z : Option Json}
    (h : fieldOf? ((name, x) :: es) name = some z) : z = some x ∧ fieldOf? es name = some none := by
  have hvalues : Json.valuesOf name ((name, x) :: es) = x :: Json.valuesOf name es := by
    simp [Json.valuesOf]
  cases z with
  | none => simp [fieldOf?_eq_none_iff, hvalues] at h
  | some y =>
    rw [fieldOf?_eq_some_iff, hvalues, List.cons.injEq] at h
    exact ⟨congrArg some h.1.symm, fieldOf?_eq_none_iff.2 h.2⟩

theorem fieldOf?_cons_of_missing (h : fieldOf? es name = some none) (x : Json) :
    fieldOf? ((name, x) :: es) name = some (some x) := by
  rw [fieldOf?_eq_none_iff] at h
  rw [fieldOf?_eq_some_iff, ← h]
  simp [Json.valuesOf]

/-- What a reader makes of the field of this name. -/
def readField {τ : Type} (es : List (String × Json)) (name : String) (r : Option Json → Option τ) :
    Option τ := (fieldOf? es name).bind r

@[simp] theorem readField_cons_of_ne {τ : Type} {other : String} (h : other ≠ name) (x : Json)
    (r : Option Json → Option τ) : readField ((other, x) :: es) name r = readField es name r := by
  rw [readField, fieldOf?_cons_of_ne h, readField]

@[simp] theorem readField_cons_self {τ : Type} (h : ∀ e ∈ es, e.1 ≠ name) (x : Json)
    (r : Option Json → Option τ) : readField ((name, x) :: es) name r = r (some x) := by
  have hmissing : fieldOf? es name = some none := by
    rw [fieldOf?_eq_none_iff, Json.valuesOf, List.map_eq_nil_iff, List.filter_eq_nil_iff]
    simpa using h
  rw [readField, fieldOf?_cons_of_missing hmissing]
  rfl

@[simp] theorem readField_nil {τ : Type} (r : Option Json → Option τ) :
    readField [] name r = r none := rfl

@[simp] theorem required?_some {τ : Type} (f : Json → Option τ) (x : Json) :
    required? f (some x) = f x := by
  rw [required?, Option.bind_some]

/-! ### What makes up each record -/

theorem listenerConfig?_object {c : ListenerConfig} : listenerConfig? (.object es) = some c ↔
    readField es "strict_manager_resolution" (defaulted? false bool?) =
      some c.strictManagerResolution ∧
    readField es "default_rollback" (defaulted? true bool?) = some c.defaultRollback ∧
    readField es "default_transaction_manager" (defaulted? "" string?) =
      some c.defaultTransactionManager := by
  obtain ⟨strict, rollback, manager⟩ := c
  simp only [listenerConfig?, fields?, List.mapM_cons, List.mapM_nil, readField]
  cases fieldOf? es "strict_manager_resolution" <;> cases fieldOf? es "default_rollback" <;>
    cases fieldOf? es "default_transaction_manager" <;>
    simp [Option.bind_eq_some_iff, -Bool.exists_bool]

theorem timeout?_object {t : Timeout} : timeout? (.object es) = some t ↔
    (∀ e ∈ es, e.1 ∈ RecordType.timeout.names) ∧
    ∃ secs nanos, readField es "secs" (required? (below? Width.bits64)) = some secs ∧
      readField es "nanos" (required? (below? Width.bits32)) = some nanos ∧
      Timeout.ofParts? secs nanos = some t := by
  have hall : (es.all fun e => e.1 == "secs" || e.1 == "nanos") = true ↔
      ∀ e ∈ es, e.1 ∈ RecordType.timeout.names := by
    simp [RecordType.names]
  rw [← hall, timeout?]
  cases es.all fun e => e.1 == "secs" || e.1 == "nanos"
  · simp
  · simp only [fields?, List.mapM_cons, List.mapM_nil, readField]
    cases fieldOf? es "secs" <;> cases fieldOf? es "nanos" <;> simp [Option.bind_eq_some_iff]

theorem intent?_object {a : Attribute} : intent? (.object es) = some a ↔
    readField es "propagation" (required? propagation?) = some a.propagation ∧
    readField es "isolation" (required? isolation?) = some a.isolation ∧
    readField es "read_only" (required? bool?) = some a.readOnly ∧
    readField es "timeout" (optional? timeout?) = some a.timeout ∧
    readField es "qualifier" (optional? string?) = some a.qualifier ∧
    readField es "name" (optional? string?) = some a.name := by
  obtain ⟨propagation, isolation, readOnly, timeout, qualifier, name⟩ := a
  simp only [intent?, fields?, List.mapM_cons, List.mapM_nil, readField]
  cases fieldOf? es "propagation" <;> cases fieldOf? es "isolation" <;>
    cases fieldOf? es "read_only" <;> cases fieldOf? es "timeout" <;>
    cases fieldOf? es "qualifier" <;> cases fieldOf? es "name" <;>
    simp [Option.bind_eq_some_iff, -Bool.exists_bool]

theorem signature?_object {s : Signature} : signature? (.object es) = some s ↔
    readField es "name" (required? string?) = some s.name ∧
    readField es "parameter_types" (required? strings?) = some s.parameterTypes := by
  obtain ⟨name, parameters⟩ := s
  simp only [signature?, fields?, List.mapM_cons, List.mapM_nil, readField]
  cases fieldOf? es "name" <;> cases fieldOf? es "parameter_types" <;>
    simp [Option.bind_eq_some_iff]

theorem classConfiguration?_object {c : ClassConfiguration} :
    classConfiguration? (.object es) = some c ↔
    readField es "transaction_manager" (required? string?) = some c.transactionManager ∧
    readField es "default_rollback" (required? bool?) = some c.defaultRollback := by
  obtain ⟨manager, rollback⟩ := c
  simp only [classConfiguration?, fields?, List.mapM_cons, List.mapM_nil, readField]
  cases fieldOf? es "transaction_manager" <;> cases fieldOf? es "default_rollback" <;>
    simp [Option.bind_eq_some_iff, -Bool.exists_bool]

theorem method?_object {m : Method} : method? (.object es) = some m ↔
    readField es "signature" (required? signature?) = some m.signature ∧
    readField es "hook" (optional? hookPhase?) = some m.hook ∧
    readField es "transactional" (optional? intent?) = some m.transactional ∧
    readField es "rollback" (optional? bool?) = some m.rollback := by
  obtain ⟨signature, hook, transactional, rollback⟩ := m
  simp only [method?, fields?, List.mapM_cons, List.mapM_nil, readField]
  cases fieldOf? es "signature" <;> cases fieldOf? es "hook" <;>
    cases fieldOf? es "transactional" <;> cases fieldOf? es "rollback" <;>
    simp [Option.bind_eq_some_iff]

theorem event?_object {e : LifecycleEvent} : event? (.object es) = some e ↔
    ∃ kind, readField es "type" (required? (choice? ofTag?)) = some kind ∧
      readField es "data" (withData? · kind) = some e := by
  simp only [event?, fields?, List.mapM_cons, List.mapM_nil, readField]
  cases fieldOf? es "type" <;> cases fieldOf? es "data" <;> simp [Option.bind_eq_some_iff]

end Decode

/-! ### Reading back -/

namespace Decode

@[simp] theorem string?_string (s : String) : string? (.string s) = some s := rfl

@[simp] theorem bool?_bool (b : Bool) : bool? (.bool b) = some b := rfl

theorem strings?_map (xs : List String) : strings? (.array (xs.map .string)) = some xs := by
  induction xs with
  | nil => rfl
  | cons x xs ih =>
    simp only [strings?, List.map_cons, List.mapM_cons] at ih ⊢
    rw [ih]
    rfl

theorem nullable?_of_ne {τ : Type} {x : Json} (h : x ≠ .null) (f : Json → Option τ) :
    nullable? f x = (f x).map some := by
  cases x <;> first | exact absurd rfl h | rfl

/-- A part that may be missing reads back if the part itself does and is not `null`. -/
theorem optional?_optional {τ : Type} {f : Json → Option τ} {enc : τ → Json}
    (hf : ∀ x, f (enc x) = some x) (hnull : f .null = none) (x : Option τ) :
    optional? f (some (Encode.optional enc x)) = some x := by
  cases x with
  | none => rfl
  | some x =>
    have hne : enc x ≠ .null := by
      intro heq
      have := hf x
      simp [heq, hnull] at this
    rw [optional?, Encode.optional, nullable?_of_ne hne, hf]
    rfl

theorem below?_nat {n bound : Nat} (h : n < bound) : below? bound (Encode.nat n) = some n := by
  simp [below?, Encode.nat, h]

theorem timeout?_timeout (t : Timeout) : timeout? (Encode.timeout t) = some t := by
  have hnanos : t.nanos < Width.bits32 := by
    have := t.nanos_lt
    simp only [Width.bits32]
    omega
  rw [Encode.timeout, timeout?_object]
  refine ⟨by simp [RecordType.names], t.secs, t.nanos, ?_, ?_, Timeout.ofParts?_parts t⟩
  · simp [below?_nat t.secs_lt]
  · simp [below?_nat hnanos]

theorem intent?_intent (a : Attribute) : intent? (Encode.intent a) = some a := by
  rw [Encode.intent, intent?_object]
  have hpropagation : propagation? (Encode.propagation a.propagation) = some a.propagation := by
    simp [propagation?, Encode.propagation, choice?]
  have hisolation : isolation? (Encode.isolation a.isolation) = some a.isolation := by
    simp [isolation?, Encode.isolation, choice?]
  have htimeout : optional? timeout? (some (Encode.optional Encode.timeout a.timeout)) =
      some a.timeout := optional?_optional timeout?_timeout rfl _
  have htext (s : Option String) : optional? string? (some (Encode.optional .string s)) = some s :=
    optional?_optional string?_string rfl s
  simp [hpropagation, hisolation, htimeout, htext]

theorem signature?_signature (s : Signature) : signature? (Encode.signature s) = some s := by
  rw [Encode.signature, signature?_object]
  simp [strings?_map]

theorem method?_method (m : Method) : method? (Encode.method m) = some m := by
  rw [Encode.method, method?_object]
  have hhook : optional? hookPhase? (some (Encode.optional Encode.hookPhase m.hook)) =
      some m.hook :=
    optional?_optional (fun p => by simp [hookPhase?, Encode.hookPhase, choice?]) rfl _
  have hintent : optional? intent? (some (Encode.optional Encode.intent m.transactional)) =
      some m.transactional := optional?_optional intent?_intent rfl _
  have hrollback : optional? bool? (some (Encode.optional .bool m.rollback)) = some m.rollback :=
    optional?_optional bool?_bool rfl _
  simp [signature?_signature, hhook, hintent, hrollback]

theorem classConfiguration?_classConfiguration (c : ClassConfiguration) :
    classConfiguration? (Encode.classConfiguration c) = some c := by
  rw [Encode.classConfiguration, classConfiguration?_object]
  simp

theorem listenerConfig?_listenerConfig (c : ListenerConfig) :
    listenerConfig? (Encode.listenerConfig c) = some c := by
  rw [Encode.listenerConfig, listenerConfig?_object]
  simp [defaulted?]

/-- The event that a tag stands for: its kind, with no reason yet. -/
def kindOf : LifecycleEvent → LifecycleEvent
  | .setupAborted _ => .setupAborted ""
  | e => e

theorem ofTag?_tag (e : LifecycleEvent) : ofTag? (Encode.tag e) = some (kindOf e) := by
  cases e <;> rfl

theorem event?_event (e : LifecycleEvent) : event? (Encode.event e) = some e := by
  rw [Encode.event, event?_object]
  refine ⟨kindOf e, ?_, ?_⟩
  · cases e <;> simp [LifecycleEvent.abortReason?, choice?, ofTag?_tag]
  · cases e <;> simp [LifecycleEvent.abortReason?, withData?, kindOf]

end Decode

namespace RecordType

/-- **A value reads back from its own document.** -/
theorem decode_encode (T : RecordType) (v : T.Value) : T.decode (T.encode v) = some v := by
  cases T with
  | listenerConfig => exact listenerConfig?_listenerConfig v
  | intent => exact intent?_intent v
  | signature => exact signature?_signature v
  | method => exact method?_method v
  | classConfiguration => exact classConfiguration?_classConfiguration v
  | event => exact event?_event v
  | timeout => exact timeout?_timeout v

/-! ### Reading what has been restated -/

variable {T U : RecordType} {name : String} {x y : Json} {es es' : List (String × Json)}

/-- The values under this name are objects of a type that reads from `y` all that it reads from
`x`. -/
def PartReads (T : RecordType) (name : String) (x y : Json) : Prop :=
  ∃ U, T.part? name = some U ∧ (x = .null → y = .null) ∧
    ∀ u : U.Value, U.decode x = some u → U.decode y = some u

/-- What restating can do to one field that the type knows. -/
inductive FieldStep (T : RecordType) (name : String) : Option Json → Option Json → Prop
  | same (z : Option Json) : FieldStep T name z z
  | gone : FieldStep T name (some .null) none
  | within {x y : Json} (h : T.PartReads name x y) : FieldStep T name (some x) (some y)

/-- One object keeps what the type reads from another: no field that the type knows is changed but
by such a step, and a timeout gets no other field. -/
structure Keeps (T : RecordType) (es es' : List (String × Json)) : Prop where
  fields : ∀ name ∈ T.names, ∀ z, fieldOf? es name = some z →
    ∃ z', fieldOf? es' name = some z' ∧ FieldStep T name z z'
  known : T = timeout → (∀ e ∈ es, e.1 ∈ T.names) → ∀ e ∈ es', e.1 ∈ T.names

/-- A reader that reads after such a step what it has read before. -/
def Steady {τ : Type} (T : RecordType) (name : String) (r : Option Json → Option τ) : Prop :=
  ∀ z z' p, FieldStep T name z z' → r z = some p → r z' = some p

/-- A reader of values that reads the same after its part is restated. -/
def Follows {τ : Type} (T : RecordType) (name : String) (f : Json → Option τ) : Prop :=
  ∀ x y p, T.PartReads name x y → f x = some p → f y = some p

theorem follows_of_none {τ : Type} (h : T.part? name = none) (f : Json → Option τ) :
    Follows T name f := by
  rintro x y p ⟨U, hU, -⟩
  rw [h] at hU
  cases hU

theorem follows_of_part (h : T.part? name = some U) : Follows T name U.decode := by
  rintro x y u ⟨V, hV, -, hread⟩ hx
  rw [h] at hV
  cases hV
  exact hread u hx

section

variable {τ : Type} {f : Json → Option τ}

theorem steady_required (hf : Follows T name f) (hnull : f .null = none) :
    Steady T name (required? f) := by
  intro z z' p hstep hz
  cases hstep with
  | same => exact hz
  | gone => simp [hnull] at hz
  | within h =>
    rw [required?_some] at hz ⊢
    exact hf _ _ _ h hz

theorem steady_defaulted (hf : Follows T name f) (hnull : f .null = none) (default : τ) :
    Steady T name (defaulted? default f) := by
  intro z z' p hstep hz
  cases hstep with
  | same => exact hz
  | gone => simp [defaulted?, hnull] at hz
  | within h => exact hf _ _ _ h hz

theorem steady_optional (hf : Follows T name f) (hnull : f .null = none) :
    Steady T name (optional? f) := by
  intro z z' p hstep hz
  cases hstep with
  | same => exact hz
  | gone => exact hz
  | @within x y h =>
    by_cases hx : x = .null
    · -- A part that was `null` still is, and reads as missing before and after.
      obtain ⟨U, -, hkeep, -⟩ := h
      rwa [hkeep hx, ← hx]
    · rw [optional?, nullable?_of_ne hx, Option.map_eq_some_iff] at hz
      obtain ⟨u, hu, rfl⟩ := hz
      have hy : f y = some u := hf _ _ _ h hu
      have hne : y ≠ .null := by
        rintro rfl
        simp [hnull] at hy
      rw [optional?, nullable?_of_ne hne, hy]
      rfl

end

theorem steady_data (kind : LifecycleEvent) :
    Steady event "data" (withData? · kind) := by
  intro z z' p hstep hz
  cases hstep with
  | same => exact hz
  | gone => cases kind <;> exact hz
  | within h =>
    obtain ⟨U, hU, -⟩ := h
    cases hU

theorem Keeps.readField {τ : Type} {r : Option Json → Option τ} {p : τ} (h : Keeps T es es')
    (hname : name ∈ T.names) (hr : Steady T name r) (hp : readField es name r = some p) :
    readField es' name r = some p := by
  obtain ⟨z, hz, hzp⟩ := Option.bind_eq_some_iff.1 hp
  obtain ⟨z', hz', hstep⟩ := h.fields name hname z hz
  rw [Decode.readField, hz']
  exact hr z z' p hstep hzp

/-- What is read from an object does not change when no field reads differently. -/
theorem Keeps.decode (h : Keeps T es es') {v : T.Value} (hv : T.decode (.object es) = some v) :
    T.decode (.object es') = some v := by
  cases T with
  | listenerConfig =>
    obtain ⟨hs, hr, hm⟩ := listenerConfig?_object.1 hv
    refine listenerConfig?_object.2 ⟨?_, ?_, ?_⟩
    · exact h.readField (by decide) (steady_defaulted (follows_of_none rfl _) rfl _) hs
    · exact h.readField (by decide) (steady_defaulted (follows_of_none rfl _) rfl _) hr
    · exact h.readField (by decide) (steady_defaulted (follows_of_none rfl _) rfl _) hm
  | intent =>
    obtain ⟨hp, hi, hr, ht, hq, hn⟩ := intent?_object.1 hv
    refine intent?_object.2 ⟨?_, ?_, ?_, ?_, ?_, ?_⟩
    · exact h.readField (by decide) (steady_required (follows_of_none rfl _) rfl) hp
    · exact h.readField (by decide) (steady_required (follows_of_none rfl _) rfl) hi
    · exact h.readField (by decide) (steady_required (follows_of_none rfl _) rfl) hr
    · exact h.readField (by decide) (steady_optional (follows_of_part (U := timeout) rfl) rfl) ht
    · exact h.readField (by decide) (steady_optional (follows_of_none rfl _) rfl) hq
    · exact h.readField (by decide) (steady_optional (follows_of_none rfl _) rfl) hn
  | signature =>
    obtain ⟨hn, hp⟩ := signature?_object.1 hv
    refine signature?_object.2 ⟨?_, ?_⟩
    · exact h.readField (by decide) (steady_required (follows_of_none rfl _) rfl) hn
    · exact h.readField (by decide) (steady_required (follows_of_none rfl _) rfl) hp
  | method =>
    obtain ⟨hs, hh, ht, hr⟩ := method?_object.1 hv
    refine method?_object.2 ⟨?_, ?_, ?_, ?_⟩
    · exact h.readField (by decide) (steady_required (follows_of_part (U := signature) rfl) rfl) hs
    · exact h.readField (by decide) (steady_optional (follows_of_none rfl _) rfl) hh
    · exact h.readField (by decide) (steady_optional (follows_of_part (U := intent) rfl) rfl) ht
    · exact h.readField (by decide) (steady_optional (follows_of_none rfl _) rfl) hr
  | classConfiguration =>
    obtain ⟨hm, hr⟩ := classConfiguration?_object.1 hv
    refine classConfiguration?_object.2 ⟨?_, ?_⟩
    · exact h.readField (by decide) (steady_required (follows_of_none rfl _) rfl) hm
    · exact h.readField (by decide) (steady_required (follows_of_none rfl _) rfl) hr
  | event =>
    obtain ⟨kind, hk, hd⟩ := event?_object.1 hv
    refine event?_object.2 ⟨kind, ?_, ?_⟩
    · exact h.readField (by decide) (steady_required (follows_of_none rfl _) rfl) hk
    · exact h.readField (by decide) (steady_data kind) hd
  | timeout =>
    obtain ⟨hknown, secs, nanos, hs, hn, ht⟩ := timeout?_object.1 hv
    refine timeout?_object.2 ⟨h.known rfl hknown, secs, nanos, ?_, ?_, ht⟩
    · exact h.readField (by decide) (steady_required (follows_of_none rfl _) rfl) hs
    · exact h.readField (by decide) (steady_required (follows_of_none rfl _) rfl) hn

/-- A name has the same values in both objects, up to their order, which only matters when there are
several: then there is no field to read. -/
theorem keeps_permuted (h : es.Perm es') : Keeps T es es' := by
  refine ⟨fun name _ z hz => ⟨z, ?_, .same z⟩, fun _ hknown e he => hknown e (h.mem_iff.2 he)⟩
  rw [← fieldOf?_of_perm h, hz]

theorem keeps_added (hT : T ≠ timeout) (hname : name ∉ T.names) :
    Keeps T es ((name, x) :: es) := by
  refine ⟨fun other hother z hz => ⟨z, ?_, .same z⟩, fun h => absurd h hT⟩
  have hne : name ≠ other := by
    rintro rfl
    exact hname hother
  rw [fieldOf?_cons_of_ne hne, hz]

theorem keeps_dropped : Keeps T ((name, .null) :: es) es := by
  refine ⟨fun other _ z hz => ?_, fun _ hknown e he => hknown e (List.mem_cons_of_mem _ he)⟩
  by_cases heq : name = other
  · -- With a second value of this name the field could not have been read before.
    subst heq
    obtain ⟨rfl, hmissing⟩ := fieldOf?_cons_self hz
    exact ⟨none, hmissing, .gone⟩
  · rw [fieldOf?_cons_of_ne heq] at hz
    exact ⟨z, hz, .same z⟩

theorem keeps_within (h : T.PartReads name x y) : Keeps T ((name, x) :: es) ((name, y) :: es) := by
  refine ⟨fun other _ z hz => ?_, fun _ hknown => ?_⟩
  · by_cases heq : name = other
    · subst heq
      obtain ⟨rfl, hmissing⟩ := fieldOf?_cons_self hz
      exact ⟨some y, fieldOf?_cons_of_missing hmissing y, .within h⟩
    · rw [fieldOf?_cons_of_ne heq] at hz ⊢
      exact ⟨z, hz, .same z⟩
  · simpa using hknown

/-- What is read from a document is also read from it restated. -/
theorem decode_of_restated (h : Restated T x y) {v : T.Value} (hv : T.decode x = some v) :
    T.decode y = some v := by
  -- On the steps, for every type at once: a part of the document has a type of its own.
  induction h with
  | refl => exact hv
  | trans _ _ ih ih' => exact ih' (ih hv)
  | permuted h => exact (keeps_permuted h).decode hv
  | added hT hname => exact (keeps_added hT hname).decode hv
  | dropped => exact keeps_dropped.decode hv
  | within hpart h es ih => exact (keeps_within ⟨_, hpart, h.eq_null, fun u hu => ih hu⟩).decode hv

/-- **A value reads back from its document restated**: with the entries of any object in another
order, with fields more that its type does not know, a timeout excepted, and without fields that
are `null`. -/
theorem decode_restated (T : RecordType) (v : T.Value) {y : Json} (h : Restated T (T.encode v) y) :
    T.decode y = some v :=
  decode_of_restated h (decode_encode T v)

/-- A method with an attribute and a timeout in it, turned around at all three levels, with a field
more and without two that are `null`. -/
theorem decode_restated_nested :
    method.decode (.object
      [("since", .integer 3),
        ("transactional", .object
          [("timeout", .object [("nanos", .integer 7), ("secs", .integer 5)]),
            ("read_only", .bool false), ("isolation", .string "default"),
            ("propagation", .string "required")]),
        ("hook", .null),
        ("signature", .object [("name", .string "transfer"), ("parameter_types", .array [])])]) =
      some { signature := ⟨"transfer", []⟩
             transactional := some { timeout := some ⟨5, 7, by decide, by decide⟩ } } := by
  have hintent : Restated intent
      (Encode.intent { timeout := some ⟨5, 7, by decide, by decide⟩ })
      (.object [("timeout", .object [("nanos", .integer 7), ("secs", .integer 5)]),
        ("read_only", .bool false), ("isolation", .string "default"),
        ("propagation", .string "required")]) :=
    .trans (.permuted (List.reverse_perm _).symm) <|
      .trans (.dropped _ "name" _) <| .trans (.dropped _ "qualifier" _) <|
        .within (U := timeout) rfl (.permuted (List.reverse_perm _).symm) _
  exact decode_restated method
    { signature := ⟨"transfer", []⟩
      transactional := some { timeout := some ⟨5, 7, by decide, by decide⟩ } } <|
    .trans (.permuted (List.reverse_perm _).symm) <| .trans (.dropped _ "rollback" _) <|
      .trans (.within (U := intent) rfl hintent _) (.added (by decide) (by decide) _ _)

end RecordType

end TransactionalTest
