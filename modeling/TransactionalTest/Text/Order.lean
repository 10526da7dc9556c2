/-!
# Order of texts

* `TextOrder.le` — the order of a dictionary whose letters are ordered by code point.
-/

namespace TransactionalTest

namespace TextOrder

/-- The first list of characters does not come after the second. -/
def charsLe : List Char → List Char → Bool
  | [], _ => true
  | _ :: _, [] => false
  | a :: as, b :: bs => a.toNat < b.toNat || (a.toNat == b.toNat && charsLe as bs)

/-- The first text does not come after the second. -/
def le (a b : String) : Bool := charsLe a.toList b.toList

end TextOrder

end TransactionalTest
