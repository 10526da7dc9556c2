import Mathlib.Algebra.Order.Field.Power
import Mathlib.Algebra.Order.Field.Rat
import Mathlib.Tactic.FieldSimp
import Mathlib.Tactic.Linarith
import Mathlib.Tactic.Positivity
import Mathlib.Tactic.Ring
import TransactionalTest.Decimal.Binary64

/-!
# Rounding to binary numbers

A ratio is read as the binary number next to it.  The exponent is the one at which the mantissa has
its full length, or the least one; the mantissa is the nearest integer, the even one of two.

* `Binary64.IsCanonical` : the numbers as they are read, each in one form;
* `Binary64.FitsAt`, `Binary64.NearestAt` : the exponent and the mantissa of a ratio;
* `Binary64.ofRatio_eq` : these are the ones that `ofRatio` takes;
* `Binary64.Surrounds` : the ratios that are nearer to a number than to any other one;
* `Binary64.ofRatio_of_surrounds` : they are read as this number.
-/

namespace TransactionalTest

/-! ### Powers -/

namespace Power

/-- A power as a quotient of two, one of which is one. -/
theorem zpow_eq_div {b : ℚ} (hb : b ≠ 0) (q : ℤ) : b ^ q = b ^ q.toNat / b ^ (-q).toNat := by
  rw [← zpow_natCast, ← zpow_natCast, ← zpow_sub₀ hb]
  congr 1
  omega

theorem cast_two (n : ℕ) : (two n : ℚ) = 2 ^ n := by
  rw [two]
  exact Nat.cast_pow 2 n

theorem cast_ten (n : ℕ) : (ten n : ℚ) = 10 ^ n := by
  rw [ten]
  exact Nat.cast_pow 10 n

end Power

namespace Binary64

/-! ### Numbers in their form -/

/-- The number is in the form in which it is read: its mantissa is of full length or its exponent
the least. -/
def IsCanonical : Binary64 → Prop
  | finite _ m q => m < mantissaBound ∧ minExponent ≤ q ∧ q ≤ maxExponent ∧
      (leastMantissa ≤ m ∨ q = minExponent)
  | infinite _ => True
  | nan => True

theorem cast_leastMantissa : (leastMantissa : ℚ) = 2 ^ 52 := by norm_num [leastMantissa]

theorem cast_mantissaBound : (mantissaBound : ℚ) = 2 ^ 53 := by norm_num [mantissaBound]

/-- At this exponent the mantissa of `v` has its full length, or the exponent is the least. -/
structure FitsAt (q : ℤ) (v : ℚ) : Prop where
  least : minExponent ≤ q
  below : v < 2 ^ 53 * 2 ^ q
  above : 2 ^ 52 * 2 ^ q ≤ v ∨ q = minExponent

/-- The integer is the nearest one to `v` in units of `2 ^ q`, and the even one of two. -/
structure NearestAt (m : ℕ) (q : ℤ) (v : ℚ) : Prop where
  lower : (m - 1 / 2) * 2 ^ q ≤ v
  upper : v ≤ (m + 1 / 2) * 2 ^ q
  even_lower : (m - 1 / 2) * 2 ^ q = v → m % 2 = 0
  even_upper : v = (m + 1 / 2) * 2 ^ q → m % 2 = 0

/-- A number from its parts; a mantissa that has become too long is halved. -/
def carried (negative : Bool) (m : ℕ) (q : ℤ) : Binary64 :=
  let (m, q) := if m = mantissaBound then (leastMantissa, q + 1) else (m, q)
  if maxExponent < q then infinite negative else finite negative m q

/-! ### The nearest integer -/

theorem roundDiv_spec (n : ℕ) {d : ℕ} (hd : 0 < d) :
    2 * roundDiv n d * d ≤ 2 * n + d ∧ 2 * n ≤ 2 * roundDiv n d * d + d ∧
      (2 * roundDiv n d * d = 2 * n + d → roundDiv n d % 2 = 0) ∧
      (2 * n = 2 * roundDiv n d * d + d → roundDiv n d % 2 = 0) := by
  have hdiv := Nat.div_add_mod n d
  have hmod := Nat.mod_lt n hd
  have hlow : 2 * (n / d) * d = 2 * (d * (n / d)) := by ring
  have hhigh : 2 * (n / d + 1) * d = 2 * (d * (n / d)) + 2 * d := by ring
  simp only [roundDiv]
  split_ifs <;> simp only [hlow, hhigh] <;> omega

theorem nearestAt_roundDiv {n d : ℕ} (hd : 0 < d) {q : ℤ} {v : ℚ} (hv : v = n / d * 2 ^ q) :
    NearestAt (roundDiv n d) q v := by
  obtain ⟨hlow, hhigh, hlow_even, hhigh_even⟩ := roundDiv_spec n hd
  generalize roundDiv n d = m at *
  have hd' : (0 : ℚ) < d := Nat.cast_pos.2 hd
  have hq : (0 : ℚ) < 2 ^ q := by positivity
  have hlow' : (2 : ℚ) * m * d ≤ 2 * n + d := by exact_mod_cast hlow
  have hhigh' : (2 : ℚ) * n ≤ 2 * m * d + d := by exact_mod_cast hhigh
  subst hv
  refine ⟨?_, ?_, fun heq => hlow_even ?_, fun heq => hhigh_even ?_⟩
  · refine mul_le_mul_of_nonneg_right ?_ hq.le
    rw [le_div_iff₀ hd']
    linarith
  · refine mul_le_mul_of_nonneg_right ?_ hq.le
    rw [div_le_iff₀ hd']
    linarith
  · have heq := mul_right_cancel₀ hq.ne' heq
    rw [eq_div_iff hd'.ne'] at heq
    have hcast : (2 : ℚ) * m * d = 2 * n + d := by linarith
    exact_mod_cast hcast
  · have heq := mul_right_cancel₀ hq.ne' heq
    rw [div_eq_iff hd'.ne'] at heq
    have hcast : (2 : ℚ) * n = 2 * m * d + d := by linarith
    exact_mod_cast hcast

/-- A ratio below an integer has its nearest one no greater. -/
theorem NearestAt.le_of_lt {m n : ℕ} {q : ℤ} {v : ℚ} (h : NearestAt m q v) (hv : v < n * 2 ^ q) :
    m ≤ n := by
  have hq : (0 : ℚ) < 2 ^ q := by positivity
  have hlt : (m : ℚ) - 1 / 2 < n := lt_of_mul_lt_mul_right (h.lower.trans_lt hv) hq.le
  have hcast : (m : ℚ) < n + 1 := by linarith
  exact Nat.lt_succ_iff.1 (by exact_mod_cast hcast)

/-- A ratio no less than an integer has its nearest one no less. -/
theorem NearestAt.le_of_le {m n : ℕ} {q : ℤ} {v : ℚ} (h : NearestAt m q v) (hv : n * 2 ^ q ≤ v) :
    n ≤ m := by
  have hq : (0 : ℚ) < 2 ^ q := by positivity
  have hle : (n : ℚ) ≤ m + 1 / 2 := le_of_mul_le_mul_right (hv.trans h.upper) hq
  have hcast : (n : ℚ) < m + 1 := by linarith
  exact Nat.lt_succ_iff.1 (by exact_mod_cast hcast)

/-! ### The exponent -/

/-- Scaling gives the ratio in other units. -/
theorem scale_spec (num : ℕ) {den : ℕ} (hden : 0 < den) (q : ℤ) :
    0 < (scale num den q).2 ∧
      (num : ℚ) / den = (scale num den q).1 / (scale num den q).2 * 2 ^ q := by
  have hden' : (den : ℚ) ≠ 0 := Nat.cast_ne_zero.2 hden.ne'
  unfold scale
  split_ifs with hq
  · refine ⟨Nat.mul_pos hden (Power.two_pos _), ?_⟩
    rw [Power.zpow_eq_div two_ne_zero, show (-q).toNat = 0 by omega]
    simp only [Nat.cast_mul, Power.cast_two]
    field_simp
  · refine ⟨hden, ?_⟩
    rw [Power.zpow_eq_div two_ne_zero, show q.toNat = 0 by omega]
    simp only [Nat.cast_mul, Power.cast_two]
    field_simp

theorem mantissaBound_le_div_iff {n d : ℕ} (hd : 0 < d) {q : ℤ} {v : ℚ}
    (hv : v = n / d * 2 ^ q) : mantissaBound ≤ n / d ↔ 2 ^ 53 * 2 ^ q ≤ v := by
  have hd' : (0 : ℚ) < d := Nat.cast_pos.2 hd
  have hq : (0 : ℚ) < 2 ^ q := by positivity
  rw [Nat.le_div_iff_mul_le hd, hv, mul_le_mul_iff_left₀ hq, le_div_iff₀ hd', ← cast_mantissaBound]
  norm_cast

/-- The lengths of the two parts tell the ratio up to a factor of two. -/
theorem ratio_bounds {num den : ℕ} (hnum : 0 < num) (hden : 0 < den) :
    (2 : ℚ) ^ ((num.log2 : ℤ) - den.log2 - 1) ≤ num / den ∧
      (num : ℚ) / den < 2 ^ ((num.log2 : ℤ) - den.log2 + 1) := by
  have hden' : (0 : ℚ) < den := Nat.cast_pos.2 hden
  have hnum_low : (2 : ℚ) ^ num.log2 ≤ num := by exact_mod_cast Nat.log2_self_le hnum.ne'
  have hnum_high : (num : ℚ) < 2 ^ (num.log2 + 1) := by exact_mod_cast Nat.lt_log2_self (n := num)
  have hden_low : (2 : ℚ) ^ den.log2 ≤ den := by exact_mod_cast Nat.log2_self_le hden.ne'
  have hden_high : (den : ℚ) < 2 ^ (den.log2 + 1) := by exact_mod_cast Nat.lt_log2_self (n := den)
  have hpow {a : ℤ} {b c : ℕ} (h : a = b - c) : (2 : ℚ) ^ a = 2 ^ b / 2 ^ c := by
    rw [h, zpow_sub₀ two_ne_zero, zpow_natCast, zpow_natCast]
  constructor
  · rw [hpow (b := num.log2) (c := den.log2 + 1) (by omega), div_le_div_iff₀ (by positivity) hden']
    exact mul_le_mul hnum_low hden_high.le hden'.le (by positivity)
  · rw [hpow (b := num.log2 + 1) (c := den.log2) (by omega), div_lt_div_iff₀ hden' (by positivity)]
    exact mul_lt_mul hnum_high hden_low (by positivity) (by positivity)

/-- What `ofRatio` makes of a ratio: the nearest mantissa at the exponent that fits. -/
theorem ofRatio_eq (negative : Bool) {num den : ℕ} (hnum : 0 < num) (hden : 0 < den) :
    ∃ m q, FitsAt q (num / den : ℚ) ∧ NearestAt m q (num / den : ℚ) ∧
      ofRatio negative num den = carried negative m q := by
  obtain ⟨hlow, hhigh⟩ := ratio_bounds hnum hden
  set k : ℤ := (num.log2 : ℤ) - den.log2 with hk
  set q₀ : ℤ := max (k - 53) minExponent with hq₀
  set q : ℤ := if mantissaBound ≤ (scale num den q₀).1 / (scale num den q₀).2 then q₀ + 1 else q₀
    with hq
  obtain ⟨hpos₀, hratio₀⟩ := scale_spec num hden q₀
  obtain ⟨hpos, hratio⟩ := scale_spec num hden q
  refine ⟨roundDiv (scale num den q).1 (scale num den q).2, q, ?_, nearestAt_roundDiv hpos hratio,
    rfl⟩
  have hupper : (num : ℚ) / den < 2 ^ 54 * 2 ^ q₀ := by
    refine hhigh.trans_le ?_
    rw [← zpow_natCast, ← zpow_add₀ two_ne_zero]
    refine zpow_le_zpow_right₀ one_le_two ?_
    push_cast
    omega
  rw [hq]
  by_cases hlong : mantissaBound ≤ (scale num den q₀).1 / (scale num den q₀).2
  · rw [if_pos hlong]
    rw [mantissaBound_le_div_iff hpos₀ hratio₀] at hlong
    rw [show (2 : ℚ) ^ 54 = 2 ^ 53 * 2 by norm_num] at hupper
    rw [show (2 : ℚ) ^ 53 = 2 ^ 52 * 2 by norm_num] at hlong
    refine ⟨by omega, ?_, .inl ?_⟩ <;> rw [zpow_add₀ two_ne_zero, zpow_one] <;> linarith
  · rw [if_neg hlong]
    rw [mantissaBound_le_div_iff hpos₀ hratio₀, not_le] at hlong
    refine ⟨by omega, hlong, ?_⟩
    by_cases hleast : q₀ = minExponent
    · exact .inr hleast
    · refine .inl (le_trans (le_of_eq ?_) hlow)
      rw [← zpow_natCast, ← zpow_add₀ two_ne_zero]
      congr 1
      push_cast
      omega

/-! ### Around a number -/

/-- Of two numbers one after the other only one is the even one in the middle. -/
theorem not_lt_of_nearest {m n : ℕ} {q : ℤ} {v : ℚ} (hm : NearestAt m q v) (hn : NearestAt n q v) :
    ¬m < n := by
  intro hlt
  have hq : (0 : ℚ) < 2 ^ q := by positivity
  have hle : (m : ℚ) + 1 ≤ n := by exact_mod_cast hlt
  have hstep : ((m : ℚ) + 1 / 2) * 2 ^ q ≤ (n - 1 / 2) * 2 ^ q :=
    mul_le_mul_of_nonneg_right (by linarith) hq.le
  have hmiddle : v = (m + 1 / 2) * 2 ^ q := le_antisymm hm.upper (hstep.trans hn.lower)
  have hmiddle' : (n - 1 / 2) * 2 ^ q = v := le_antisymm hn.lower (hm.upper.trans hstep)
  have hnext : m + 1 = n := by
    have := mul_right_cancel₀ hq.ne' (hmiddle.symm.trans hmiddle'.symm)
    have hcast : (m : ℚ) + 1 = n := by linarith
    exact_mod_cast hcast
  have := hm.even_upper hmiddle
  have := hn.even_lower hmiddle'
  omega

theorem NearestAt.unique {m n : ℕ} {q : ℤ} {v : ℚ} (hm : NearestAt m q v) (hn : NearestAt n q v) :
    m = n :=
  Nat.le_antisymm (not_lt.1 (not_lt_of_nearest hn hm)) (not_lt.1 (not_lt_of_nearest hm hn))

/-- The ratio is nearer to the number `m · 2 ^ q` than to any other one, or in the middle between
two of them and `m` is even.  Below the least mantissa the next number is only half as far away. -/
structure Surrounds (m : ℕ) (q : ℤ) (v : ℚ) : Prop extends NearestAt m q v where
  lower_least : m = leastMantissa → q ≠ minExponent → (m - 1 / 4) * 2 ^ q ≤ v

theorem two_zpow_pred (q : ℤ) : (2 : ℚ) ^ q = 2 * 2 ^ (q - 1) := by
  rw [zpow_sub_one₀ two_ne_zero]
  ring

theorem Surrounds.lt_bound {negative : Bool} {m : ℕ} {q : ℤ} {v : ℚ}
    (hc : (finite negative m q).IsCanonical) (hm : Surrounds m q v) : v < 2 ^ 53 * 2 ^ q := by
  have hq : (0 : ℚ) < 2 ^ q := by positivity
  have hbound : (m : ℚ) + 1 ≤ 2 ^ 53 := by
    rw [← cast_mantissaBound]
    exact_mod_cast hc.1
  refine hm.upper.trans_lt (mul_lt_mul_of_pos_right ?_ hq)
  linarith

/-- A ratio around a number fits at no greater exponent. -/
theorem FitsAt.exponent_le {negative : Bool} {m : ℕ} {q p : ℤ} {v : ℚ}
    (hc : (finite negative m q).IsCanonical) (hm : Surrounds m q v) (hp : FitsAt p v) : p ≤ q := by
  have hleast : minExponent ≤ q := hc.2.1
  by_contra hgt
  have hne : p ≠ minExponent := by omega
  have hsucc : (2 : ℚ) ^ (q + 1) ≤ 2 ^ p := zpow_le_zpow_right₀ one_le_two (by omega)
  have habove := hp.above.resolve_right hne
  have hlt := hm.lt_bound hc
  rw [zpow_add_one₀ two_ne_zero] at hsucc
  linarith

/-- A ratio around a number that fits at a smaller exponent fits at the next one, and is a little
less than the least mantissa of full length. -/
theorem FitsAt.of_exponent_lt {negative : Bool} {m : ℕ} {q p : ℤ} {v : ℚ}
    (hc : (finite negative m q).IsCanonical) (hm : Surrounds m q v) (hp : FitsAt p v)
    (hlt : p < q) : p = q - 1 ∧ m = leastMantissa ∧ NearestAt mantissaBound p v := by
  have hne : q ≠ minExponent := by
    have := hp.least
    omega
  have hhalf : (0 : ℚ) < 2 ^ (q - 1) := by positivity
  have hv : v < leastMantissa * 2 ^ q := by
    have hpred : (2 : ℚ) ^ p ≤ 2 ^ (q - 1) := zpow_le_zpow_right₀ one_le_two (by omega)
    have := hp.below
    rw [cast_leastMantissa, two_zpow_pred q]
    linarith
  have hm_eq : m = leastMantissa :=
    le_antisymm (hm.le_of_lt hv) (hc.2.2.2.resolve_right hne)
  -- below the least mantissa the numbers stand twice as close
  have hlow := hm.lower_least hm_eq hne
  rw [hm_eq, cast_leastMantissa, two_zpow_pred q] at hlow
  rw [cast_leastMantissa, two_zpow_pred q] at hv
  have hp_eq : p = q - 1 := by
    by_contra hother
    have hpred : (2 : ℚ) ^ p ≤ 2 ^ (q - 1 - 1) := zpow_le_zpow_right₀ one_le_two (by omega)
    have := hp.below
    rw [two_zpow_pred (q - 1)] at hlow hhalf
    linarith
  subst hp_eq
  refine ⟨rfl, hm_eq, ?_, ?_, fun _ => by decide, fun _ => by decide⟩
  · rw [cast_mantissaBound]
    linarith
  · rw [cast_mantissaBound]
    linarith

/-- **A ratio around a number is read as this number.** -/
theorem ofRatio_of_surrounds {negative : Bool} {num den m : ℕ} {q : ℤ} (hnum : 0 < num)
    (hden : 0 < den) (hc : (finite negative m q).IsCanonical)
    (hm : Surrounds m q (num / den : ℚ)) : ofRatio negative num den = finite negative m q := by
  obtain ⟨n, p, hp, hn, heq⟩ := ofRatio_eq negative hnum hden
  have hbound : m ≠ mantissaBound := hc.1.ne
  have hmax : ¬maxExponent < q := not_lt.2 hc.2.2.1
  rw [heq]
  rcases (hp.exponent_le hc hm).eq_or_lt with rfl | hlt
  · rw [hn.unique hm.toNearestAt, carried, if_neg hbound]
    simp only [hmax, ↓reduceIte]
  · obtain ⟨rfl, hleast, hnear⟩ := hp.of_exponent_lt hc hm hlt
    rw [hn.unique hnear, carried, if_pos rfl, hleast, sub_add_cancel]
    simp only [hmax, ↓reduceIte]

/-! ### Numbers that are read -/

theorem isCanonical_ofRatio (negative : Bool) {num den : ℕ} (hnum : 0 < num) (hden : 0 < den) :
    (ofRatio negative num den).IsCanonical := by
  obtain ⟨m, q, hq, hm, heq⟩ := ofRatio_eq negative hnum hden
  rw [heq, carried]
  by_cases hlong : m = mantissaBound
  · simp only [hlong, ↓reduceIte]
    split_ifs with hmax
    · trivial
    · exact ⟨by decide, by have := hq.least; omega, not_lt.1 hmax, .inl le_rfl⟩
  · simp only [hlong, ↓reduceIte]
    split_ifs with hmax
    · trivial
    · refine ⟨lt_of_le_of_ne (hm.le_of_lt ?_) hlong, hq.least, not_lt.1 hmax,
        hq.above.imp_left fun habove => hm.le_of_le ?_⟩
      · rw [cast_mantissaBound]
        exact hq.below
      · rw [cast_leastMantissa]
        exact habove

end Binary64

end TransactionalTest
