import TransactionalTest.Decimal.Binary64

/-!
# Shortest decimal text

The decimal text of a binary number with the fewest digits that read back as that number.

* `Shortest.digits` — those digits, with their power of ten;
* `Shortest.text` — the text, never with an exponent.
-/

namespace TransactionalTest

namespace Shortest

/-- `a · 2 ^ q` is at most `d · 10 ^ e`, or less than it when `strict` is set. -/
def below (strict : Bool) (a : Nat) (q : Int) (d : Nat) (e : Int) : Bool :=
  let l := a * Power.two q.toNat * Power.ten (-e).toNat
  let r := d * Power.ten e.toNat * Power.two (-q).toNat
  if strict then decide (l < r) else decide (l ≤ r)

/-- `d · 10 ^ e` is at most `a · 2 ^ q`, or less than it when `strict` is set. -/
def above (strict : Bool) (a : Nat) (q : Int) (d : Nat) (e : Int) : Bool :=
  let l := d * Power.ten e.toNat * Power.two (-q).toNat
  let r := a * Power.two q.toNat * Power.ten (-e).toNat
  if strict then decide (l < r) else decide (l ≤ r)

/-- `d · 10 ^ e` reads back as `m · 2 ^ q`: it is no farther away than half the way to the
neighbours, and that far only if `m` is even. -/
def readsBack (m : Nat) (q : Int) (d : Nat) (e : Int) : Bool :=
  let strict := m % 2 == 1
  let down := if m = Binary64.leastMantissa ∧ q ≠ Binary64.minExponent then 4 * m - 1 else 4 * m - 2
  below strict down (q - 2) d e && above strict (4 * m + 2) (q - 2) d e

/-- The whole part of `m · 2 ^ q / 10 ^ e`. -/
def floorAt (m : Nat) (q e : Int) : Nat :=
  (m * Power.two q.toNat * Power.ten (-e).toNat) / (Power.ten e.toNat * Power.two (-q).toNat)

/-- `m · 2 ^ q` lies in the lower half between `d · 10 ^ e` and its upper neighbour. -/
def nearerBelow (m : Nat) (q : Int) (d : Nat) (e : Int) : Bool :=
  below true (2 * m) q (2 * d + 1) e

/-- Of the two numbers around `m · 2 ^ q` on the grid `10 ^ e`, the nearer one that reads back; the
upper one when both are equally near. -/
def onGrid? (m : Nat) (q e : Int) : Option Nat :=
  let d := floorAt m q e
  match readsBack m q d e, readsBack m q (d + 1) e with
  | true, true => some (if nearerBelow m q d e then d else d + 1)
  | true, false => some d
  | false, true => some (d + 1)
  | false, false => none

/-- The first grid, of `n` ever finer ones from `10 ^ e` down, that has a number that reads
back. -/
def search (m : Nat) (q : Int) : Nat → Int → Nat × Int
  | 0, e => (floorAt m q e, e)
  | n + 1, e =>
    match onGrid? m q e with
    | some d => (d, e)
    | none => search m q n (e - 1)

/-- The power of ten of the leading digit of `m · 2 ^ q`. -/
def leading (m : Nat) (q : Int) : Int :=
  if 0 ≤ q then Binary64.digitCount (m * Power.two q.toNat) - 1
  else
    let s := (-q).toNat
    let whole := m / Power.two s
    if whole ≠ 0 then Binary64.digitCount whole - 1
    else Binary64.digitCount (m * Power.ten s / Power.two s) - 1 - s

/-- Without the zeros at the end; `fuel` bounds how many there are. -/
def strip : Nat → Nat × Int → Nat × Int
  | 0, x => x
  | fuel + 1, (d, e) => if d ≠ 0 ∧ d % 10 = 0 then strip fuel (d / 10, e + 1) else (d, e)

/-- The fewest digits that read back as the positive `m · 2 ^ q`, with their power of ten. -/
def digits (m : Nat) (q : Int) : Nat × Int := strip 20 (search m q 18 (leading m q))

/-- `d · 10 ^ e` written out without an exponent. -/
def positional (d : Nat) (e : Int) : List Char :=
  if 0 ≤ e then Digits.text d ++ List.replicate e.toNat '0'
  else
    let ds := Digits.text d
    let places := (-e).toNat
    let ds := List.replicate (places + 1 - ds.length) '0' ++ ds
    ds.take (ds.length - places) ++ '.' :: ds.drop (ds.length - places)

/-- The text of a number: the fewest digits that read back, never with an exponent. -/
def text : Binary64 → String
  | .nan => "NaN"
  | .infinite negative => if negative then "-inf" else "inf"
  | .finite negative m q =>
    let body := if m = 0 then ['0'] else
      let (d, e) := digits m q
      positional d e
    String.ofList (if negative then '-' :: body else body)

end Shortest

end TransactionalTest
