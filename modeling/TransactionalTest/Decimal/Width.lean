/-!
# Powers and word sizes

* `Power.two`, `Power.ten` — powers of the two bases;
* `Width.fits64` — the integers of 64 bits.
-/

namespace TransactionalTest

namespace Power

/-- A power of two. -/
def two (n : Nat) : Nat := Nat.pow 2 n

/-- A power of ten. -/
def ten (n : Nat) : Nat := Nat.pow 10 n

theorem two_pos (n : Nat) : 0 < two n := Nat.pow_pos (by decide)

theorem ten_pos (n : Nat) : 0 < ten n := Nat.pow_pos (by decide)

end Power

namespace Width

/-- The least number that needs more than 32 bits. -/
def bits32 : Nat := 0x100000000

/-- The least number that needs more than 64 bits. -/
def bits64 : Nat := 0x10000000000000000

/-- An integer that 64 bits can hold, one of them for the sign. -/
def fits64 (n : Int) : Bool := -0x8000000000000000 ≤ n && n < 0x8000000000000000

end Width

end TransactionalTest
