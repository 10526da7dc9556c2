/-!
# Decimal numerals

A number as a decimal text writes it, and the parts from which such texts are read.

* `Numeral` — a sign, digits and a power of ten;
* `DecimalText` — the same with the digits as they stand;
* `Digits.span`, `Digits.value` — runs of digits;
* `Numeral.ofChars?` — a free form: a sign, digits with or without a point, an exponent.
-/

namespace TransactionalTest

/-! ### Digits -/

namespace Digits

/-- The digits at the front, and the rest. -/
def span (cs : List Char) : List Char × List Char := cs.span Char.isDigit

/-- The number that a run of digits writes. -/
def value (cs : List Char) : Nat := cs.foldl (fun n c => n * 10 + (c.toNat - 48)) 0

/-- A number written out in digits. -/
def text (n : Nat) : List Char := Nat.toDigits 10 n

end Digits

/-! ### Numerals -/

/-- The number `±mantissa · 10 ^ exponent`. -/
structure Numeral where
  negative : Bool := false
  mantissa : Nat
  exponent : Int := 0
  deriving DecidableEq, Repr, Inhabited

namespace Numeral

/-- A sign at the front: whether it is a minus, and the rest. -/
def sign : List Char → Bool × List Char
  | '-' :: r => (true, r)
  | '+' :: r => (false, r)
  | r => (false, r)

/-- The numeral of an integer part, a fraction and a power of ten. -/
def ofParts (negative : Bool) (whole fraction : List Char) (exponent : Int) : Numeral :=
  ⟨negative, Digits.value (whole ++ fraction), exponent - fraction.length⟩

/-- An exponent that must fill the rest of the text. -/
def exponent? (cs : List Char) : Option Int :=
  let (negative, r) := sign cs
  let (ds, r) := Digits.span r
  if ds.isEmpty || !r.isEmpty then none
  else some (if negative then -(Digits.value ds : Int) else Digits.value ds)

/-- Read a whole text: digits on at least one side of the point, then perhaps an exponent. -/
def ofChars? (cs : List Char) : Option Numeral :=
  let (negative, r) := sign cs
  let (whole, r) := Digits.span r
  let (fraction, r) := match r with
    | '.' :: r => Digits.span r
    | r => ([], r)
  if whole.isEmpty && fraction.isEmpty then none
  else match r with
    | [] => some (ofParts negative whole fraction 0)
    | c :: r =>
      if c = 'e' || c = 'E' then (exponent? r).map (ofParts negative whole fraction) else none

end Numeral

/-- A number as it is written: the digits before and after the point, and a power of ten. -/
structure DecimalText where
  negative : Bool := false
  whole : List Char
  fraction : List Char := []
  exponent : Int := 0
  deriving DecidableEq, Repr, Inhabited

/-- The number that the text writes. -/
def DecimalText.numeral (t : DecimalText) : Numeral :=
  Numeral.ofParts t.negative t.whole t.fraction t.exponent

/-- Read a whole text as an integer: a sign, perhaps, and digits. -/
def Digits.integer? (cs : List Char) : Option Int :=
  let (negative, r) := Numeral.sign cs
  let (ds, r) := Digits.span r
  if ds.isEmpty || !r.isEmpty then none
  else some (if negative then -(Digits.value ds : Int) else Digits.value ds)

end TransactionalTest
