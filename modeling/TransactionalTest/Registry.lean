import TransactionalTest.Transaction
import TransactionalTest.Text.Inspect

/-!
# The manager registry

The container of transaction managers, addressed by name, by qualifier, or not at all.

* `Registry.register` — names are unique and at most one registration is primary;
* `Registry.byQualifier`, `Registry.byName` — the look-ups;
* `Registry.default` — the rule for the empty name.
-/

namespace TransactionalTest

/-! ### Errors -/

/-- How the registry can be set up wrongly. -/
inductive Misconfiguration where
  | nameTaken (name : String)
  | secondPrimary (name : String)
  | manySelectors (n : Nat)
  | other (text : String)
  deriving DecidableEq, Repr

/-- The text of the fault. -/
def Misconfiguration.message : Misconfiguration → String
  | nameTaken name => "transaction manager '" ++ name ++ "' is already registered"
  | secondPrimary name =>
    "cannot mark '" ++ name ++ "' primary: a primary transaction manager already exists"
  | manySelectors n => "only one manager selection hook may exist, found " ++ toString n
  | other text => text

/-- Why a look-up gave no manager. -/
inductive LookupError where
  | noSuchManager (key : String)
  | noUniqueManager (key : String) (candidates : List String)
  | misconfigured (fault : Misconfiguration)
  deriving DecidableEq, Repr

/-- The text of the error. -/
def LookupError.message : LookupError → String
  | noSuchManager key => "No transaction manager named or qualified '" ++ key ++ "'"
  | noUniqueManager key candidates =>
    "Expected a single transaction manager for '" ++ key ++ "' but found " ++
      Inspect.texts candidates
  | misconfigured fault => "Container misconfigured: " ++ fault.message

/-! ### The registry -/

/-- A manager and the ways it can be addressed. -/
structure Registration where
  name : String
  qualifiers : List String := []
  primary : Bool := false
  manager : Manager
  deriving DecidableEq, Repr

namespace Registration

/-- The qualifier addresses this registration: it is its name or one of its qualifiers. -/
def answersTo (r : Registration) (qualifier : String) : Bool :=
  r.name == qualifier || r.qualifiers.contains qualifier

/-- The registration in inspection text; the manager is not part of it. -/
def inspect (r : Registration) : String :=
  Inspect.record "ManagerRegistration"
    [("name", Inspect.quoted r.name), ("qualifiers", Inspect.texts r.qualifiers),
      ("primary", Inspect.flag r.primary)]

end Registration

/-- The registered managers, and the managers that the selection hooks name, both in order. -/
structure Registry where
  registrations : List Registration := []
  selectors : List Manager := []
  deriving DecidableEq, Repr, Inhabited

namespace Registry

/-- The name tried last when several managers are registered. -/
def conventionalName : String := "transactionManager"

/-- Add a registration, unless its name is taken or it would be a second primary one. -/
def register (r : Registration) (g : Registry) : Except LookupError Registry :=
  if g.registrations.any fun x => x.name == r.name then
    .error (.misconfigured (.nameTaken r.name))
  else if r.primary && g.registrations.any (·.primary) then
    .error (.misconfigured (.secondPrimary r.name))
  else .ok { g with registrations := g.registrations ++ [r] }

/-- Add a selection hook. -/
def addSelector (m : Manager) (g : Registry) : Registry :=
  { g with selectors := g.selectors ++ [m] }

/-- The single manager that the qualifier addresses. -/
def byQualifier (g : Registry) (qualifier : String) : Except LookupError Manager :=
  match g.registrations.filter (·.answersTo qualifier) with
  | [] => .error (.noSuchManager qualifier)
  | [r] => .ok r.manager
  | rs => .error (.noUniqueManager qualifier (rs.map Registration.name))

/-- The manager for the empty name: none if none is registered, the only one if one is; of
several the one the selection hook names, else the primary one, else the one of the conventional
name. -/
def default (g : Registry) : Except LookupError (Option Manager) :=
  match g.registrations with
  | [] => .ok none
  | [r] => .ok (some r.manager)
  | rs =>
    match g.selectors with
    | [m] => .ok (some m)
    | _ :: _ :: _ => .error (.misconfigured (.manySelectors g.selectors.length))
    | [] =>
      match rs.find? (·.primary) with
      | some r => .ok (some r.manager)
      | none =>
        match rs.find? fun r => r.name == conventionalName with
        | some r => .ok (some r.manager)
        | none => .error (.noUniqueManager "" (rs.map Registration.name))

/-- The empty name is resolved by asking the selection hook. -/
def asksSelector (g : Registry) : Bool :=
  decide (2 ≤ g.registrations.length) && g.selectors.length == 1

/-- The manager registered under a name; the empty name follows `Registry.default`. -/
def byName (g : Registry) (name : String) : Except LookupError (Option Manager) :=
  if name.isEmpty then g.default
  else match g.registrations.find? fun r => r.name == name with
    | some r => .ok (some r.manager)
    | none => .error (.noSuchManager name)

/-- The registry in inspection text. -/
def inspect (g : Registry) : String :=
  Inspect.record "ManagerRegistry"
    [("registrations", Inspect.list (g.registrations.map Registration.inspect)),
      ("selectors", toString g.selectors.length)]

end Registry

end TransactionalTest
