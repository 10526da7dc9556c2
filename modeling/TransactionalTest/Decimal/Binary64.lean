import TransactionalTest.Decimal.Numeral
import TransactionalTest.Decimal.Width

/-!
# Binary floating-point numbers of 64 bits

The numbers `±m · 2 ^ q` with `m < 2 ^ 53` and `-1074 ≤ q ≤ 971`, the infinities and the value
that is no number.

* `Binary64.ofNumeral` — the nearest one to a decimal numeral, ties to even;
* `Binary64.mul`, `Binary64.div` — arithmetic, rounded the same way;
* `Binary64.isZero` — whether it counts as zero.

All arithmetic is exact, on natural numbers.
-/

namespace TransactionalTest

/-- A binary floating-point number of 64 bits. -/
inductive Binary64 where
  | finite (negative : Bool) (mantissa : Nat) (exponent : Int)
  | infinite (negative : Bool)
  | nan
  deriving DecidableEq, Repr, Inhabited

namespace Binary64

/-- The least exponent. -/
def minExponent : Int := -1074

/-- The greatest exponent. -/
def maxExponent : Int := 971

/-- The least mantissa whose number has neighbours at two distances, `2 ^ 52`. -/
def leastMantissa : Nat := 0x10000000000000

/-- The least number that is too long for a mantissa, `2 ^ 53`. -/
def mantissaBound : Nat := 0x20000000000000

/-- The quotient rounded to the nearest integer, a half to the even one. -/
def roundDiv (num den : Nat) : Nat :=
  let q := num / den
  let r := num % den
  if 2 * r < den then q
  else if den < 2 * r then q + 1
  else if q % 2 = 0 then q else q + 1

/-- `num / den` in units of `2 ^ q`, as a quotient of natural numbers. -/
def scale (num den : Nat) (q : Int) : Nat × Nat :=
  if 0 ≤ q then (num, den * Power.two q.toNat) else (num * Power.two (-q).toNat, den)

/-- The number nearest to the positive `num / den`. -/
def ofRatio (negative : Bool) (num den : Nat) : Binary64 :=
  let k : Int := (num.log2 : Int) - den.log2
  let q := max (k - 53) minExponent
  let (n, d) := scale num den q
  let q := if mantissaBound ≤ n / d then q + 1 else q
  let (n, d) := scale num den q
  let m := roundDiv n d
  let (m, q) := if m = mantissaBound then (leastMantissa, q + 1) else (m, q)
  if maxExponent < q then infinite negative else finite negative m q

/-- How many decimal digits a number has. -/
def digitCount (n : Nat) : Int := (Digits.text n).length

/-- The number nearest to a decimal numeral.  The bounds on the power of ten only cut short what
would come out as zero or infinity anyway. -/
def ofNumeral (x : Numeral) : Binary64 :=
  if x.mantissa = 0 then finite x.negative 0 minExponent
  else if x.exponent + digitCount x.mantissa > 400 then infinite x.negative
  else if x.exponent + digitCount x.mantissa < -400 then finite x.negative 0 minExponent
  else if 0 ≤ x.exponent then ofRatio x.negative (x.mantissa * Power.ten x.exponent.toNat) 1
  else ofRatio x.negative x.mantissa (Power.ten (-x.exponent).toNat)

/-- The number nearest to `num / den · 2 ^ q`. -/
def ofScaled (negative : Bool) (num den : Nat) (q : Int) : Binary64 :=
  if num = 0 then finite negative 0 minExponent
  else ofRatio negative (num * Power.two q.toNat) (den * Power.two (-q).toNat)

/-- The product of two finite numbers, rounded. -/
def mul : Binary64 → Binary64 → Binary64
  | finite s m q, finite t n p => ofScaled (s != t) (m * n) 1 (q + p)
  | _, _ => nan

/-- The quotient of two finite numbers, the second not zero, rounded. -/
def div : Binary64 → Binary64 → Binary64
  | finite s m q, finite t n p => ofScaled (s != t) m n (q - p)
  | _, _ => nan

/-- Zero of either sign. -/
def isZero : Binary64 → Bool
  | finite _ 0 _ => true
  | _ => false

/-- The word "infinity", its short form, or "nan", in any case, with a sign in front or not. -/
def special? (cs : List Char) : Option Binary64 :=
  let (negative, r) := Numeral.sign cs
  let word := String.ofList (r.map Char.toLower)
  if word = "inf" ∨ word = "infinity" then some (infinite negative)
  else if word = "nan" then some nan
  else none

/-- Read a whole text as a number. -/
def ofChars? (cs : List Char) : Option Binary64 :=
  (special? cs).or ((Numeral.ofChars? cs).map ofNumeral)

end Binary64

end TransactionalTest
