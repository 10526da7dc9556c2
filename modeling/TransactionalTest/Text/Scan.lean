/-!
# Scanning

* `Scanner` — takes something from the front of a text.
-/

namespace TransactionalTest

/-- Takes something from the front of a text and returns it with the rest, or refuses. -/
abbrev Scanner (τ : Type) := List Char → Option (τ × List Char)

end TransactionalTest
