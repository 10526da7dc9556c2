import TransactionalTest.Decimal.Numeral

/-!
# JSON values

A JSON document as a value.  The entries of an object keep their order and may repeat a name, and
a number keeps what its text says, so that readers of such values can be as strict as they like.

* `Json` — the values;
* `Json.entries` — all values under one name.
-/

namespace TransactionalTest

/-- A JSON value. -/
inductive Json where
  | null
  | bool (b : Bool)
  /-- A number written without point and exponent; `-0` is not one. -/
  | integer (n : Int)
  /-- Any other number. -/
  | real (x : DecimalText)
  | string (s : String)
  /-- A string with an escape that stands for half a character, which has no text; or an object
  with such a name in it. -/
  | broken
  | array (items : List Json)
  | object (entries : List (String × Json))
  deriving Repr, Inhabited

namespace Json

/-- The values of all entries of this name, in order. -/
def valuesOf (name : String) (es : List (String × Json)) : List Json :=
  (es.filter fun e => e.1 == name).map Prod.snd

end Json

end TransactionalTest
