/-!
# Ranges of code points

A class of characters as the ranges of their numbers, in order.

* `CodeRanges.has` — the character is in one of them.
-/

namespace TransactionalTest

/-- The first and the last number of every range. -/
abbrev CodeRanges := List (Nat × Nat)

namespace CodeRanges

/-- The number of the character is in one of the ranges. -/
def has (t : CodeRanges) (c : Char) : Bool := t.any fun r => r.1 ≤ c.toNat && c.toNat ≤ r.2

end CodeRanges

end TransactionalTest
