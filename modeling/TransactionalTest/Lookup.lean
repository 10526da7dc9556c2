import TransactionalTest.World

/-!
# Resolving managers

Which transaction manager a test gets: the one its qualifier addresses, else the one of the
configured name.

* `World.managerByName` — the registry's answer, with its report;
* `World.lookup` — the answer for a test, strict or lenient.
-/

namespace TransactionalTest

namespace World

variable {α : Type}

/-- The manager registered under a name, or the one for the empty name. -/
def managerByName (name : String) (w : World α) :
    Except LookupError (Option Manager) × World α :=
  (w.registry.byName name,
    if name.isEmpty && w.registry.asksSelector then
      w.report (.selectorAsked w.registry.registrations.length)
    else w)

/-- The manager for a test.  A qualifier with text must address one.  Without one, a failing
look-up by name means "no manager" in lenient mode, unless the registry is set up wrongly. -/
def lookup (strict : Bool) (test : String) (qualifier : Option String) (name : String)
    (w : World α) : Except LookupError (Option Manager) × World α :=
  match qualifier.filter fun q => !Blank.isBlankText q with
  | some q =>
    match w.registry.byQualifier q with
    | .ok m => (.ok (some m), w)
    | .error e => (.error e, w.report (.qualifierFailed q test e))
  | none =>
    match w.managerByName name with
    | (.ok m, w) => (.ok m, w)
    | (.error (.misconfigured fault), w) => (.error (.misconfigured fault), w)
    | (.error e, w) =>
      if strict then (.error e, w) else (.ok none, w.report (.managerUnresolved name test e))

/-- Register a manager. -/
def register (r : Registration) (w : World α) : Except LookupError Unit × World α :=
  match w.registry.register r with
  | .ok g => (.ok (), { w.report (.managerRegistered r) with registry := g })
  | .error e => (.error e, w)

/-- Add a selection hook. -/
def addSelector (m : Manager) (w : World α) : World α :=
  { w with registry := w.registry.addSelector m }

end World

end TransactionalTest
