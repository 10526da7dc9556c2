import TransactionalTest.Decimal.Binary64

/-!
# Reading decimals step by step

A quick way to read a decimal numeral: the leading digits that fit a 64-bit word become a number,
which is then multiplied or divided by a power of ten.  Each step rounds, so the result can be a
neighbour of the nearest number; for few digits and small powers both are the same.

* `Stepwise.leadingDigits` — the digits that fit;
* `Stepwise.ofText?` — the number, unless it is too large.
-/

namespace TransactionalTest

namespace Stepwise

/-- Drop digits at the end until the rest is below `2 ^ 64`, and count them. -/
def leadingDigits (m : Nat) : Nat × Nat :=
  if m < Width.bits64 then (m, 0)
  else
    let (d, dropped) := leadingDigits (m / 10)
    (d, dropped + 1)
termination_by m
decreasing_by
  simp only [Width.bits64] at *
  omega

/-- The number nearest to a power of ten. -/
def power (e : Nat) : Binary64 := Binary64.ofNumeral ⟨false, 1, e⟩

/-- The largest power of ten below the largest number. -/
def maxPower : Nat := 308

/-- Multiply by `10 ^ e`; far below one in several steps, of which `fuel` bounds the number.  None
if the product is too large. -/
def shift : Nat → Binary64 → Int → Option Binary64
  | 0, x, _ => some x
  | fuel + 1, x, e =>
    if e.natAbs ≤ maxPower then
      if 0 ≤ e then
        match x.mul (power e.natAbs) with
        | .finite s m q => some (.finite s m q)
        | _ => none
      else some (x.div (power e.natAbs))
    else if x.isZero then some x
    else if 0 ≤ e then none
    else shift fuel (x.div (power maxPower)) (e + maxPower)

/-- Put digits after a number as long as it fits, and count them. -/
def withDigits (n : Nat) : List Char → Nat × Nat
  | [] => (n, 0)
  | c :: r =>
    let longer := n * 10 + Digits.value [c]
    if longer < Width.bits64 then
      let (m, added) := withDigits longer r
      (m, added + 1)
    else (n, 0)

/-- The number of a text, unless it is too large.  Digits before the point that do not fit count
as zeros after the number, but digits after the point are put behind what has fitted all the same.
After four steps down nothing is left of a 64-bit word. -/
def ofText? (t : DecimalText) : Option Binary64 :=
  let (whole, dropped) := leadingDigits (Digits.value t.whole)
  let (d, added) := withDigits whole t.fraction
  shift 4 (Binary64.ofNumeral ⟨t.negative, d, 0⟩) (t.exponent + dropped - added)

end Stepwise

end TransactionalTest
