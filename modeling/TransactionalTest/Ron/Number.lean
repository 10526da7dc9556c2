import TransactionalTest.Decimal.Width
import TransactionalTest.Ron.Text
import TransactionalTest.Settings.Basic

/-!
# Numbers of RON

A number is read as an integer unless its digits go on with a point, an exponent or a sign.  What
cannot be read as an integer is tried as a real number.

* `Ron.integer` — an integer of a base between two and sixteen;
* `Ron.real` — a decimal, or one of the words for what is not a number or not finite;
* `Ron.number` — either.
-/

namespace TransactionalTest

namespace Ron

/-- A character of an integer, of whatever base. -/
def isIntegerChar (c : Char) : Bool := (Hex.value? c).isSome || c = '_'

/-- A character of a real number. -/
def isRealChar (c : Char) : Bool :=
  c.isDigit || c = 'e' || c = 'E' || c = '.' || c = '+' || c = '-' || c = '_'

/-! ### Integers -/

/-- The value of digits of a base, underscores aside; the first is a digit. -/
def ofBase? (base : Nat) (cs : List Char) : Option Nat :=
  if cs.isEmpty || cs.head? = some '_' then none
  else ((cs.filter (· ≠ '_')).mapM Hex.value?).bind fun ds =>
    if ds.all (· < base) then some (ds.foldl (fun n d => n * base + d) 0) else none

/-- An integer that fits a 64-bit word as a setting.  With a sign one bit is needed for it; without
one, an integer that would need this bit is kept as a real number. -/
def fitting? (signed negative : Bool) (n : Nat) : Option Setting :=
  let x : Int := if negative then -n else n
  if Width.fits64 x then some (.integer x)
  else if !signed && n < Width.bits64 then some (.real (Binary64.ofNumeral ⟨false, n, 0⟩))
  else none

/-- The base that the front of an integer announces, and the digits behind. -/
def base : List Char → Nat × List Char
  | '0' :: 'x' :: r => (16, r)
  | '0' :: 'o' :: r => (8, r)
  | '0' :: 'b' :: r => (2, r)
  | r => (10, r)

/-- An integer at the front of a text. -/
def integer (cs : List Char) : Option (Setting × List Char) :=
  let (negative, r) := Numeral.sign cs
  let (b, ds) := base r
  let (ds, rest) := ds.span isIntegerChar
  ((ofBase? b ds).bind (fitting? (r.length != cs.length) negative)).map fun x => (x, rest)

/-! ### Real numbers -/

/-- The words for what is not a number or not finite, after a sign or none. -/
def word? (cs : List Char) : Option (Binary64 × List Char) :=
  let (negative, r) := Numeral.sign cs
  let (w, r) := r.span isNameChar
  if w = "inf".toList then some (.infinite negative, r)
  else if w = "NaN".toList then some (.nan, r)
  else none

/-- A real number at the front of a text; underscores have no place in it. -/
def real (cs : List Char) : Option (Setting × List Char) :=
  match word? cs with
  | some (x, r) => some (.real x, r)
  | none =>
    let (body, r) := cs.span isRealChar
    (Binary64.ofChars? body).map fun x => (.real x, r)

/-- More characters of a real number than of an integer come after the sign. -/
def looksReal (cs : List Char) : Bool :=
  let r := (Numeral.sign cs).2
  (r.takeWhile isIntegerChar).length < (r.takeWhile isRealChar).length

/-- A number at the front of a text. -/
def number (cs : List Char) : Option (Setting × List Char) :=
  if looksReal cs then real cs else (integer cs).or (real cs)

end Ron

end TransactionalTest
