/-!
# Hexadecimal digits

* `Hex.digit`, `Hex.value?` — one digit;
* `Hex.shortest`, `Hex.padded` — a number, with as few digits as it needs or with a given count.
-/

namespace TransactionalTest

namespace Hex

/-- A number below 16 as a lower-case digit. -/
def digit (n : Nat) : Char :=
  if n < 10 then Char.ofNat (48 + n) else Char.ofNat (87 + n)

/-- The value of a digit of either case. -/
def value? (c : Char) : Option Nat :=
  if '0' ≤ c ∧ c ≤ '9' then some (c.toNat - 48)
  else if 'a' ≤ c ∧ c ≤ 'f' then some (c.toNat - 87)
  else if 'A' ≤ c ∧ c ≤ 'F' then some (c.toNat - 55)
  else none

/-- The lowest `n` digits of a number. -/
def padded : Nat → Nat → List Char
  | 0, _ => []
  | n + 1, x => padded n (x / 16) ++ [digit (x % 16)]

/-- The digits of a number, without leading zeros. -/
def shortest (x : Nat) : List Char :=
  if x < 16 then [digit x] else shortest (x / 16) ++ [digit (x % 16)]
termination_by x
decreasing_by omega

/-- The number that these digits write. -/
def ofDigits? (cs : List Char) : Option Nat :=
  (cs.mapM value?).map fun ds => ds.foldl (fun n d => n * 16 + d) 0

end Hex

end TransactionalTest
