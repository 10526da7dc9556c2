import TransactionalTest.Interchange.Encode

/-!
# Reading values from JSON

The reverse of the JSON form, as strict as it is: no value is converted, a known field may not be
repeated and only optional parts may be missing.  Beyond the written form,

* fields that a record does not know are passed over, except in a timeout;
* a record may be the array of all its fields in order;
* a choice may be an object with its name as the only entry, at `null`.
-/

namespace TransactionalTest

namespace Decode

/-! ### Parts -/

/-- A truth value. -/
def bool? : Json → Option Bool
  | .bool b => some b
  | _ => none

/-- A text. -/
def string? : Json → Option String
  | .string s => some s
  | _ => none

/-- A whole number below a bound. -/
def below? (bound : Nat) : Json → Option Nat
  | .integer n => if 0 ≤ n ∧ n < bound then some n.toNat else none
  | _ => none

/-- A choice by its name. -/
def choice? {τ : Type} (ofText? : String → Option τ) : Json → Option τ
  | .string s => ofText? s
  | .object [(s, .null)] => ofText? s
  | _ => none

/-- A part that may be `null`. -/
def nullable? {τ : Type} (f : Json → Option τ) : Json → Option (Option τ)
  | .null => some none
  | x => (f x).map some

/-! ### Records -/

/-- The fields of a record: each value, or nothing where the field is missing. -/
abbrev Fields := List (Option Json)

/-- The value under a name that occurs once at most. -/
def fieldOf? (es : List (String × Json)) (name : String) : Option (Option Json) :=
  match Json.valuesOf name es with
  | [] => some none
  | [x] => some (some x)
  | _ => none

/-- The fields of these names, from an object, or from an array that has at least `least` of
them. -/
def fields? (names : List String) (least : Nat) : Json → Option Fields
  | .object es => names.mapM (fieldOf? es)
  | .array xs =>
    if least ≤ xs.length ∧ xs.length ≤ names.length then
      some (xs.map some ++ List.replicate (names.length - xs.length) none)
    else none
  | _ => none

/-- A field that must be there. -/
def required? {τ : Type} (f : Json → Option τ) (x : Option Json) : Option τ := x.bind f

/-- A field that may be missing or `null`. -/
def optional? {τ : Type} (f : Json → Option τ) : Option Json → Option (Option τ)
  | none => some none
  | some x => nullable? f x

/-- A field with a value to take when it is missing. -/
def defaulted? {τ : Type} (default : τ) (f : Json → Option τ) : Option Json → Option τ
  | none => some default
  | some x => f x

/-! ### The types -/

/-- Settings; a field that is missing has its default. -/
def listenerConfig? (x : Json) : Option ListenerConfig :=
  let base : ListenerConfig := {}
  match fields? ["strict_manager_resolution", "default_rollback", "default_transaction_manager"]
      0 x with
  | some [strict, rollback, manager] => do
    return ⟨← defaulted? base.strictManagerResolution bool? strict,
      ← defaulted? base.defaultRollback bool? rollback,
      ← defaulted? base.defaultTransactionManager string? manager⟩
  | _ => none

/-- A propagation mode by its name. -/
def propagation? (x : Json) : Option Propagation := choice? Propagation.ofText? x

/-- An isolation level by its name. -/
def isolation? (x : Json) : Option Isolation := choice? Isolation.ofText? x

/-- A timeout has its two fields and no other; nanoseconds beyond a billion carry. -/
def timeout? (x : Json) : Option Timeout :=
  let parts : Option Fields := match x with
    | .object es =>
      if es.all fun e => e.1 == "secs" || e.1 == "nanos" then fields? ["secs", "nanos"] 2 x
      else none
    | x => fields? ["secs", "nanos"] 2 x
  match parts with
  | some [secs, nanos] => do
    Timeout.ofParts? (← required? (below? Width.bits64) secs)
      (← required? (below? Width.bits32) nanos)
  | _ => none

/-- A transaction attribute; the timeout and the two names may be missing. -/
def intent? (x : Json) : Option Attribute :=
  match fields? ["propagation", "isolation", "read_only", "timeout", "qualifier", "name"] 6 x with
  | some [propagation, isolation, readOnly, timeout, qualifier, name] => do
    return ⟨← required? propagation? propagation, ← required? isolation? isolation,
      ← required? bool? readOnly, ← optional? timeout? timeout, ← optional? string? qualifier,
      ← optional? string? name⟩
  | _ => none

/-- A list of texts. -/
def strings? : Json → Option (List String)
  | .array xs => xs.mapM string?
  | _ => none

/-- A signature; both parts must be there. -/
def signature? (x : Json) : Option Signature :=
  match fields? ["name", "parameter_types"] 2 x with
  | some [name, parameters] => do
    return ⟨← required? string? name, ← required? strings? parameters⟩
  | _ => none

/-- The phase of a hook by its name. -/
def hookPhase? (x : Json) : Option HookPhase := choice? HookPhase.ofText? x

/-- What a class declares about its transactions; both parts must be there. -/
def classConfiguration? (x : Json) : Option ClassConfiguration :=
  match fields? ["transaction_manager", "default_rollback"] 2 x with
  | some [manager, rollback] => do
    return ⟨← required? string? manager, ← required? bool? rollback⟩
  | _ => none

/-- A method; only its signature must be there. -/
def method? (x : Json) : Option Method :=
  match fields? ["signature", "hook", "transactional", "rollback"] 4 x with
  | some [signature, hook, transactional, rollback] => do
    return ⟨← required? signature? signature, ← optional? hookPhase? hook,
      ← optional? intent? transactional, ← optional? bool? rollback⟩
  | _ => none

/-- A lifecycle state by its name. -/
def state? (x : Json) : Option LifecycleState := choice? LifecycleState.ofText? x

/-- The events by tag; the reason of an abort is filled in later. -/
def ofTag? (s : String) : Option LifecycleEvent :=
  [.transactionRequested, .transactionStarted, .setupAborted "", .testFinished].find? fun e =>
    Encode.tag e == s

/-- The event of a tag with its data: a text for an abort, nothing or `null` for the others. -/
def withData? (data : Option Json) : LifecycleEvent → Option LifecycleEvent
  | .setupAborted _ => (required? string? data).map .setupAborted
  | e => match data with
    | none | some .null => some e
    | _ => none

/-- An event by its tag under `type`, with the reason of an abort under `data`. -/
def event? (x : Json) : Option LifecycleEvent :=
  match fields? ["type", "data"] 2 x with
  | some [tag, data] => do withData? data (← required? (choice? ofTag?) tag)
  | _ => none

end Decode

end TransactionalTest
