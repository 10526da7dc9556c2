import Mathlib.Data.Nat.Cast.Order.Field
import TransactionalTest.Decimal.Shortest
import TransactionalTest.Proofs.Decimals
import TransactionalTest.Proofs.Rounding
import TransactionalTest.Text.Lower

/-!
# Shortest texts read back

The text of a binary number is found on a search through ever finer decimal grids, for a point that
lies around the number.  On the last of these grids there must be one, and a text that writes such a
point is read as the number that it was made of.

* `Shortest.surrounds_digits` : the digits that the search ends with lie around the number;
* `Shortest.positional_cases` : written out without an exponent, digits keep their value;
* `Binary64.ofNumeral_of_surrounds` : numerals around a number are read as this number;
* `Binary64.isCanonical_ofChars?` : numbers are read in their form;
* `Shortest.ofChars?_text` : the text of a number in its form is read as this number.
-/

namespace TransactionalTest

/-! ### Lengths -/

namespace Binary64

theorem zpow_digitCount_le {n : ℕ} (h : 0 < n) : (10 : ℚ) ^ (digitCount n - 1) ≤ n := by
  have hpos : 0 < (Digits.text n).length := List.length_pos_iff.2 (Digits.text_ne_nil n)
  have hcount : digitCount n - 1 = ((Digits.text n).length - 1 : ℕ) := by
    rw [digitCount]
    omega
  rw [hcount, zpow_natCast]
  exact_mod_cast (Digits.text_length_bounds h).1

theorem lt_zpow_digitCount {n : ℕ} (h : 0 < n) : (n : ℚ) < 10 ^ digitCount n := by
  rw [digitCount, zpow_natCast]
  exact_mod_cast (Digits.text_length_bounds h).2

end Binary64

/-! ### The search -/

namespace Shortest

open Binary64

variable {m : ℕ} {q : ℤ} {d : ℕ} {e : ℤ}

theorem below_iff {strict : Bool} {a : ℕ} : below strict a q d e = true ↔
    (a : ℚ) * 2 ^ q ≤ d * 10 ^ e ∧ (strict = true → (a : ℚ) * 2 ^ q ≠ d * 10 ^ e) := by
  have hleft : (a : ℚ) * 2 ^ q = (a * Power.two q.toNat : ℕ) / (Power.two (-q).toNat : ℕ) := by
    rw [Power.zpow_eq_div two_ne_zero, Nat.cast_mul, Power.cast_two, Power.cast_two, mul_div_assoc]
  have hright : (d : ℚ) * 10 ^ e = (d * Power.ten e.toNat : ℕ) / (Power.ten (-e).toNat : ℕ) := by
    rw [Power.zpow_eq_div (by norm_num), Nat.cast_mul, Power.cast_ten, Power.cast_ten,
      mul_div_assoc]
  have htwo : (0 : ℚ) < (Power.two (-q).toNat : ℕ) := Nat.cast_pos.2 (Power.two_pos _)
  have hten : (0 : ℚ) < (Power.ten (-e).toNat : ℕ) := Nat.cast_pos.2 (Power.ten_pos _)
  have hle : (a : ℚ) * 2 ^ q ≤ d * 10 ^ e ↔ a * Power.two q.toNat * Power.ten (-e).toNat ≤
      d * Power.ten e.toNat * Power.two (-q).toNat := by
    rw [hleft, hright, div_le_div_iff₀ htwo hten]
    norm_cast
  have heq : (a : ℚ) * 2 ^ q = d * 10 ^ e ↔ a * Power.two q.toNat * Power.ten (-e).toNat =
      d * Power.ten e.toNat * Power.two (-q).toNat := by
    rw [hleft, hright, div_eq_div_iff htwo.ne' hten.ne']
    norm_cast
  rw [ne_eq, hle, heq, below]
  cases strict <;> simp [lt_iff_le_and_ne]

theorem above_eq {strict : Bool} {a : ℕ} :
    above strict a q d e = !below (!strict) a q d e := by
  cases strict <;> simp [above, below, ← decide_not]

theorem above_iff {strict : Bool} {a : ℕ} : above strict a q d e = true ↔
    (d : ℚ) * 10 ^ e ≤ a * 2 ^ q ∧ (strict = true → (d : ℚ) * 10 ^ e ≠ a * 2 ^ q) := by
  rw [above_eq, Bool.not_eq_true', ← Bool.not_eq_true, below_iff]
  cases strict
  · simp [← lt_iff_le_and_ne]
  · simp [← lt_iff_le_and_ne]

/-- A point that is found to read back lies around the number. -/
theorem surrounds_of_readsBack (hm : 0 < m) (h : readsBack m q d e = true) :
    Surrounds m q (d * 10 ^ e : ℚ) := by
  obtain ⟨down, hdown, hleast⟩ : ∃ down : ℕ,
      (below (m % 2 == 1) down (q - 2) d e && above (m % 2 == 1) (4 * m + 2) (q - 2) d e) = true ∧
      ((m = leastMantissa ∧ q ≠ minExponent ∧ down = 4 * m - 1) ∨
        (¬(m = leastMantissa ∧ q ≠ minExponent) ∧ down = 4 * m - 2)) := by
    refine ⟨_, h, ?_⟩
    split_ifs with hleast
    · exact .inl ⟨hleast.1, hleast.2, rfl⟩
    · exact .inr ⟨hleast, rfl⟩
  rw [Bool.and_eq_true, below_iff, above_iff] at hdown
  obtain ⟨⟨hlow, hlow_ne⟩, hhigh, hhigh_ne⟩ := hdown
  have hodd : m % 2 ≠ 0 → (m % 2 == 1) = true := by
    intro hm
    simp only [beq_iff_eq]
    omega
  have hpow : (2 : ℚ) ^ q = 4 * 2 ^ (q - 2) := by
    rw [two_zpow_pred q, two_zpow_pred (q - 1), show q - 1 - 1 = q - 2 by ring]
    ring
  have hpos : (0 : ℚ) < 2 ^ (q - 2) := by positivity
  have hup : ((4 * m + 2 : ℕ) : ℚ) * 2 ^ (q - 2) = (m + 1 / 2) * 2 ^ q := by
    rw [hpow]
    push_cast
    ring
  rw [hup] at hhigh hhigh_ne
  have heven_upper : (d * 10 ^ e : ℚ) = (m + 1 / 2) * 2 ^ q → m % 2 = 0 :=
    fun heq => by_contra fun hm => hhigh_ne (hodd hm) heq
  rcases hleast with ⟨hm_eq, -, rfl⟩ | ⟨hother, rfl⟩
  · have hquarter : ((4 * m - 1 : ℕ) : ℚ) * 2 ^ (q - 2) = (m - 1 / 4) * 2 ^ q := by
      rw [hpow, Nat.cast_sub (by omega)]
      push_cast
      ring
    rw [hquarter] at hlow
    refine ⟨⟨?_, hhigh, fun _ => ?_, heven_upper⟩, fun _ _ => hlow⟩
    · rw [hpow] at hlow ⊢
      linarith
    · rw [hm_eq]
      decide
  · have hhalf : ((4 * m - 2 : ℕ) : ℚ) * 2 ^ (q - 2) = (m - 1 / 2) * 2 ^ q := by
      rw [hpow, Nat.cast_sub (by omega)]
      push_cast
      ring
    rw [hhalf] at hlow hlow_ne
    exact ⟨⟨hlow, hhigh, fun heq => by_contra fun hm => hlow_ne (hodd hm) heq, heven_upper⟩,
      fun hm hq => absurd ⟨hm, hq⟩ hother⟩

theorem floorAt_spec (m : ℕ) (q e : ℤ) :
    (floorAt m q e : ℚ) * 10 ^ e ≤ m * 2 ^ q ∧ (m : ℚ) * 2 ^ q < (floorAt m q e + 1) * 10 ^ e := by
  have hden : 0 < Power.ten e.toNat * Power.two (-q).toNat :=
    Nat.mul_pos (Power.ten_pos _) (Power.two_pos _)
  have hden' : (0 : ℚ) < (10 : ℚ) ^ e.toNat * 2 ^ (-q).toNat := by positivity
  have hnum : (m : ℚ) * 2 ^ q = m * 2 ^ q.toNat * 10 ^ (-e).toNat /
      (10 ^ e.toNat * 2 ^ (-q).toNat) * 10 ^ e := by
    rw [Power.zpow_eq_div two_ne_zero q, Power.zpow_eq_div (by norm_num : (10 : ℚ) ≠ 0) e]
    field_simp
  have hten : (0 : ℚ) < 10 ^ e := by positivity
  rw [hnum]
  constructor
  · refine mul_le_mul_of_nonneg_right ?_ hten.le
    rw [le_div_iff₀ hden']
    have := Nat.div_mul_le_self (m * Power.two q.toNat * Power.ten (-e).toNat)
      (Power.ten e.toNat * Power.two (-q).toNat)
    rw [← Power.cast_two, ← Power.cast_two, ← Power.cast_ten, ← Power.cast_ten]
    exact_mod_cast this
  · refine mul_lt_mul_of_pos_right ?_ hten
    rw [div_lt_iff₀ hden']
    have := Nat.lt_mul_of_div_lt (Nat.lt_succ_self
      (m * Power.two q.toNat * Power.ten (-e).toNat / (Power.ten e.toNat * Power.two (-q).toNat)))
      hden
    rw [← Power.cast_two, ← Power.cast_two, ← Power.cast_ten, ← Power.cast_ten]
    rw [floorAt]
    exact_mod_cast this

/-- What is taken from a grid has been found to read back. -/
theorem readsBack_of_onGrid? (h : onGrid? m q e = some d) : readsBack m q d e = true := by
  unfold onGrid? at h
  simp only at h
  split at h
  case h_1 hlow hhigh =>
    split at h <;> obtain rfl := Option.some.inj h
    · exact hlow
    · exact hhigh
  case h_2 hlow _ => exact Option.some.inj h ▸ hlow
  case h_3 _ hhigh => exact Option.some.inj h ▸ hhigh
  case h_4 => cases h

/-- On a grid that is fine enough the point below the number lies around it. -/
theorem surrounds_floorAt (he : (10 : ℚ) ^ e ≤ 2 ^ q / 4) :
    Surrounds m q (floorAt m q e * 10 ^ e : ℚ) := by
  obtain ⟨hle, hlt⟩ := floorAt_spec m q e
  have hq : (0 : ℚ) < 2 ^ q := by positivity
  have hlow : ((m : ℚ) - 1 / 4) * 2 ^ q < floorAt m q e * 10 ^ e := by linarith
  refine ⟨⟨by linarith, by linarith, fun heq => ?_, fun heq => ?_⟩, fun _ _ => hlow.le⟩
  · linarith
  · linarith

/-- Whatever point the search ends with, it lies around the number, if the last grid is fine
enough. -/
theorem surrounds_search (hm : 0 < m) (n : ℕ) (he : (10 : ℚ) ^ (e - n) ≤ 2 ^ q / 4) :
    Surrounds m q ((search m q n e).1 * 10 ^ (search m q n e).2 : ℚ) := by
  induction n generalizing e with
  | zero =>
    rw [Nat.cast_zero, sub_zero] at he
    exact surrounds_floorAt he
  | succ n ih =>
    rw [search]
    split
    case h_1 d hd => exact surrounds_of_readsBack hm (readsBack_of_onGrid? hd)
    case h_2 =>
      refine ih ?_
      rwa [show e - 1 - (n : ℤ) = e - (n + 1 : ℕ) by push_cast; ring]

/-- The search begins at a power of ten that is no greater than the number. -/
theorem zpow_leading_le (hm : 0 < m) (q : ℤ) : (10 : ℚ) ^ leading m q ≤ m * 2 ^ q := by
  unfold leading
  simp only
  split_ifs with hq hwhole
  · refine (zpow_digitCount_le (Nat.mul_pos hm (Power.two_pos _))).trans_eq ?_
    rw [Nat.cast_mul, Power.cast_two, ← zpow_natCast, Int.toNat_of_nonneg hq]
  all_goals
    have hnumber : (m : ℚ) * 2 ^ q = m / Power.two (-q).toNat := by
      rw [Power.zpow_eq_div two_ne_zero, Power.cast_two, show q.toNat = 0 by omega, pow_zero]
      ring
    rw [hnumber]
  · exact (zpow_digitCount_le (Nat.pos_of_ne_zero hwhole)).trans Nat.cast_div_le
  · have hten : (0 : ℚ) < 10 ^ (-q).toNat := by positivity
    have hscaled : 0 < m * Power.ten (-q).toNat / Power.two (-q).toNat := by
      refine Nat.div_pos ?_ (Power.two_pos _)
      calc Power.two (-q).toNat ≤ Power.ten (-q).toNat := Nat.pow_le_pow_left (by norm_num) _
        _ ≤ m * Power.ten (-q).toNat := Nat.le_mul_of_pos_left _ hm
    rw [zpow_sub₀ (by norm_num), zpow_natCast, div_le_iff₀ hten]
    refine ((zpow_digitCount_le hscaled).trans Nat.cast_div_le).trans_eq ?_
    rw [Nat.cast_mul, Power.cast_ten]
    ring

theorem strip_value (fuel : ℕ) (x : ℕ × ℤ) :
    ((strip fuel x).1 : ℚ) * 10 ^ (strip fuel x).2 = x.1 * 10 ^ x.2 := by
  induction fuel generalizing x with
  | zero => rfl
  | succ fuel ih =>
    obtain ⟨d, e⟩ := x
    rw [strip]
    split_ifs with hd
    · have hdiv : (d : ℚ) = (d / 10 : ℕ) * 10 := by
        exact_mod_cast (Nat.div_mul_cancel (Nat.dvd_of_mod_eq_zero hd.2)).symm
      rw [ih, hdiv, zpow_add_one₀ (by norm_num)]
      push_cast
      ring
    · rfl

/-- **The digits of a number lie around it.** -/
theorem surrounds_digits {negative : Bool} (hm : 0 < m)
    (hc : (finite negative m q).IsCanonical) :
    Surrounds m q ((digits m q).1 * 10 ^ (digits m q).2 : ℚ) := by
  rw [digits, strip_value]
  refine surrounds_search hm 18 ?_
  -- the number is below `2 ^ 53` units, so the last grid is far finer than a unit
  have hbound : (m : ℚ) < 2 ^ 53 := by
    rw [← cast_mantissaBound]
    exact_mod_cast hc.1
  have hq : (0 : ℚ) < 2 ^ q := by positivity
  have hlead := zpow_leading_le hm q
  rw [zpow_sub₀ (by norm_num), zpow_natCast, div_le_iff₀ (by positivity)]
  calc (10 : ℚ) ^ leading m q ≤ m * 2 ^ q := hlead
    _ ≤ 2 ^ 53 * 2 ^ q := mul_le_mul_of_nonneg_right hbound.le hq.le
    _ ≤ 2 ^ q / 4 * 10 ^ 18 := by norm_num; linarith

/-! ### Written out -/

/-- Written out without an exponent, a number is digits, and digits behind a point if there are
places after it, and they keep its value. -/
theorem positional_cases (d : ℕ) (e : ℤ) : ∃ (c : Char) (whole fraction : List Char),
    (∀ d ∈ c :: whole, d.isDigit = true) ∧ (∀ d ∈ fraction, d.isDigit = true) ∧
    (positional d e = c :: whole ∧ fraction = [] ∨
      positional d e = c :: whole ++ '.' :: fraction) ∧
    (Digits.value (c :: whole ++ fraction) : ℚ) * 10 ^ (-(fraction.length : ℤ)) = d * 10 ^ e := by
  have htext : ∀ c ∈ Digits.text d, c.isDigit = true := fun c => Digits.isDigit_of_mem_text
  have hzeros (n : ℕ) : ∀ c ∈ List.replicate n '0', c.isDigit = true := by
    intro c hc
    rw [List.eq_of_mem_replicate hc]
    decide
  rw [positional]
  split_ifs with he
  · obtain ⟨c, whole, hwhole⟩ := List.exists_cons_of_ne_nil
      (List.append_ne_nil_of_left_ne_nil (Digits.text_ne_nil d) (List.replicate e.toNat '0'))
    refine ⟨c, whole, [], fun x hx => ?_, by simp, .inl ⟨hwhole, rfl⟩, ?_⟩
    · rw [← hwhole] at hx
      exact (List.mem_append.1 hx).elim (htext x) (hzeros _ x)
    · rw [List.append_nil, ← hwhole, Digits.value_append, Digits.value_text, Digits.value_zeros,
        List.length_replicate, List.length_nil]
      simp only [Nat.cast_mul, Nat.cast_pow, Nat.cast_ofNat, Nat.cast_zero, neg_zero, zpow_zero,
        mul_one, add_zero]
      rw [← zpow_natCast, Int.toNat_of_nonneg he]
  · set ds := List.replicate ((-e).toNat + 1 - (Digits.text d).length) '0' ++ Digits.text d with hds
    have hd (x : Char) (hx : x ∈ ds) : x.isDigit = true :=
      (List.mem_append.1 hx).elim (hzeros _ x) (htext x)
    have hlen : (-e).toNat < ds.length := by
      rw [hds, List.length_append, List.length_replicate]
      omega
    have hvalue : Digits.value ds = d := by
      rw [hds, Digits.value_append, Digits.value_zeros, Digits.value_text, zero_mul, zero_add]
    -- there is at least one digit before the point
    obtain ⟨c, whole, hwhole⟩ := List.exists_cons_of_length_pos
      (show 0 < (ds.take (ds.length - (-e).toNat)).length by
        rw [List.length_take]
        omega)
    refine ⟨c, whole, ds.drop (ds.length - (-e).toNat),
      fun x hx => hd x (List.mem_of_mem_take (hwhole ▸ hx)),
      fun x hx => hd x (List.mem_of_mem_drop hx), .inr (congrArg (· ++ _) hwhole), ?_⟩
    rw [← hwhole, List.take_append_drop, hvalue, List.length_drop,
      show (-((ds.length - (ds.length - (-e).toNat) : ℕ) : ℤ)) = e by omega]

end Shortest

/-! ### Reading back -/

namespace Binary64

variable {negative : Bool} {m : ℕ} {q : ℤ}

theorem two_zpow_le_ten {k : ℤ} (hk : 0 ≤ k) : (2 : ℚ) ^ (3 * k) ≤ 10 ^ k := by
  rw [zpow_mul]
  exact zpow_le_zpow_left₀ hk (by norm_num) (by norm_num)

/-- The numbers lie between two powers of ten. -/
theorem Surrounds.bounds {v : ℚ} (hm : 0 < m) (hc : (finite negative m q).IsCanonical)
    (h : Surrounds m q v) : (10 : ℚ) ^ (-359 : ℤ) ≤ v ∧ v < 10 ^ (342 : ℤ) := by
  obtain ⟨hbound, hleast, hmax, -⟩ := hc
  have hq : (0 : ℚ) < 2 ^ q := by positivity
  constructor
  · have hm' : (1 : ℚ) ≤ m := by exact_mod_cast hm
    calc (10 : ℚ) ^ (-359 : ℤ) ≤ 2 ^ (3 * -359 : ℤ) := by
          rw [zpow_neg, show (3 * -359 : ℤ) = -(3 * 359) by norm_num, zpow_neg]
          exact inv_anti₀ (by positivity) (two_zpow_le_ten (by norm_num))
      _ ≤ 2 ^ (q - 1) := by
          refine zpow_le_zpow_right₀ one_le_two ?_
          rw [minExponent] at hleast
          omega
      _ = 1 / 2 * 2 ^ q := by rw [two_zpow_pred q]; ring
      _ ≤ (m - 1 / 2) * 2 ^ q := mul_le_mul_of_nonneg_right (by linarith) hq.le
      _ ≤ v := h.lower
  · have hm' : (m : ℚ) + 1 ≤ 2 ^ 53 := by
      rw [← cast_mantissaBound]
      exact_mod_cast hbound
    calc v ≤ (m + 1 / 2) * 2 ^ q := h.upper
      _ < 2 ^ 53 * 2 ^ q := mul_lt_mul_of_pos_right (by linarith) hq
      _ = 2 ^ (53 + q) := by rw [zpow_add₀ two_ne_zero]; norm_num
      _ ≤ 2 ^ (3 * 342 : ℤ) := by
          refine zpow_le_zpow_right₀ one_le_two ?_
          rw [maxExponent] at hmax
          omega
      _ ≤ 10 ^ (342 : ℤ) := two_zpow_le_ten (by norm_num)

/-- How large a numeral is tells where its digits stand. -/
theorem digitCount_bounds {n : ℕ} (hn : 0 < n) {p a b : ℤ} (hlow : (10 : ℚ) ^ a ≤ n * 10 ^ p)
    (hhigh : (n : ℚ) * 10 ^ p < 10 ^ b) : a < p + digitCount n ∧ p + digitCount n ≤ b := by
  have hp : (0 : ℚ) < 10 ^ p := by positivity
  have hleast : (10 : ℚ) ^ a < 10 ^ (digitCount n + p) := by
    rw [zpow_add₀ (by norm_num)]
    exact hlow.trans_lt (mul_lt_mul_of_pos_right (lt_zpow_digitCount hn) hp)
  have hmost : (10 : ℚ) ^ (digitCount n - 1 + p) < 10 ^ b := by
    rw [zpow_add₀ (by norm_num)]
    exact (mul_le_mul_of_nonneg_right (zpow_digitCount_le hn) hp.le).trans_lt hhigh
  rw [zpow_lt_zpow_iff_right₀ (by norm_num)] at hleast hmost
  omega

/-- **A numeral around a number is read as this number.** -/
theorem ofNumeral_of_surrounds (hm : 0 < m) (hc : (finite negative m q).IsCanonical) {n : ℕ} {p : ℤ}
    (h : Surrounds m q (n * 10 ^ p : ℚ)) : ofNumeral ⟨negative, n, p⟩ = finite negative m q := by
  obtain ⟨hlow, hhigh⟩ := h.bounds hm hc
  have hn : 0 < n := by
    by_contra hzero
    obtain rfl : n = 0 := by omega
    have : (0 : ℚ) < 10 ^ (-359 : ℤ) := by positivity
    rw [Nat.cast_zero, zero_mul] at hlow
    linarith
  obtain ⟨hleast, hmost⟩ := digitCount_bounds hn hlow hhigh
  have hzero : n ≠ 0 := hn.ne'
  have hsmall : ¬p + digitCount n > 400 := by omega
  have hlarge : ¬p + digitCount n < -400 := by omega
  simp only [ofNumeral, hzero, hsmall, hlarge, ↓reduceIte]
  split_ifs with hsign
  · refine ofRatio_of_surrounds (Nat.mul_pos hn (Power.ten_pos _)) Nat.one_pos hc ?_
    rwa [Nat.cast_mul, Power.cast_ten, Nat.cast_one, div_one, ← zpow_natCast,
      Int.toNat_of_nonneg hsign]
  · refine ofRatio_of_surrounds hn (Power.ten_pos _) hc ?_
    rw [Power.zpow_eq_div (by norm_num), show p.toNat = 0 by omega] at h
    rw [Power.cast_ten]
    simpa [div_eq_mul_inv] using h

theorem isCanonical_ofNumeral (x : Numeral) : (ofNumeral x).IsCanonical := by
  have hzero (negative : Bool) : (finite negative 0 minExponent).IsCanonical :=
    ⟨by decide, by decide, by decide, .inr rfl⟩
  unfold ofNumeral
  split_ifs with hmantissa
  · exact hzero _
  · trivial
  · exact hzero _
  · exact isCanonical_ofRatio _ (Nat.mul_pos (Nat.pos_of_ne_zero hmantissa) (Power.ten_pos _))
      Nat.one_pos
  · exact isCanonical_ofRatio _ (Nat.pos_of_ne_zero hmantissa) (Power.ten_pos _)

/-- **Numbers are read in their form.** -/
theorem isCanonical_ofChars? {cs : List Char} {x : Binary64} (h : ofChars? cs = some x) :
    x.IsCanonical := by
  rw [ofChars?, Option.or_eq_some_iff] at h
  rcases h with h | ⟨-, h⟩
  · unfold special? at h
    simp only at h
    split_ifs at h <;> obtain rfl := Option.some.inj h <;> trivial
  · obtain ⟨y, -, rfl⟩ := Option.map_eq_some_iff.1 h
    exact isCanonical_ofNumeral y

/-- No word begins with a digit. -/
theorem special?_signed {c : Char} (hc : c.isDigit = true) (negative : Bool) (cs : List Char) :
    special? (Numeral.signed negative (c :: cs)) = none := by
  have hbounds := Digits.bounds_of_isDigit hc
  have hlower : c.toLower = c := by
    rcases Lower.toLower_cases c with h | h
    · omega
    · exact h.2
  have hword {word : String} (h : word.toList.head?.any Char.isDigit = false) :
      String.ofList ((c :: cs).map Char.toLower) ≠ word := by
    rintro rfl
    simp [hlower, hc] at h
  rw [special?, Numeral.sign_signed hc]
  simp only
  rw [if_neg (not_or.2 ⟨hword (by decide), hword (by decide)⟩), if_neg (hword (by decide))]

end Binary64

namespace Shortest

open Binary64

/-- **The text of a number is read as this number.** -/
theorem ofChars?_text {x : Binary64} (hx : x.IsCanonical) :
    Binary64.ofChars? (text x).toList = some x := by
  cases x with
  | nan => decide
  | infinite negative => cases negative <;> decide
  | finite negative m q =>
    have htext : (text (finite negative m q)).toList = Numeral.signed negative
        (if m = 0 then ['0'] else positional (digits m q).1 (digits m q).2) := by
      rw [text, String.toList_ofList]
      rfl
    rw [htext]
    split_ifs with hm
    · obtain rfl : q = minExponent := by
        refine hx.2.2.2.resolve_left ?_
        rw [hm]
        decide
      subst hm
      cases negative <;> decide
    · have hm : 0 < m := Nat.pos_of_ne_zero hm
      have hsurrounds := surrounds_digits hm hx
      obtain ⟨c, whole, fraction, hwhole, hfraction, hparts, hvalue⟩ :=
        positional_cases (digits m q).1 (digits m q).2
      rw [← hvalue, neg_eq_zero_sub] at hsurrounds
      have hread := ofNumeral_of_surrounds hm hx hsurrounds
      have hc : c.isDigit = true := hwhole c List.mem_cons_self
      rcases hparts with ⟨hparts, rfl⟩ | hparts
      · rw [hparts, Binary64.ofChars?, special?_signed hc, Numeral.ofChars?_whole hwhole]
        exact congrArg some hread
      · rw [hparts, Binary64.ofChars?, Numeral.ofChars?_point hwhole hfraction, List.cons_append,
          special?_signed hc]
        exact congrArg some hread

end Shortest

end TransactionalTest
