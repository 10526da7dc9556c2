import Mathlib.Data.List.Induction
import Mathlib.Data.List.TakeDrop
import Mathlib.Data.List.TakeWhile
import Mathlib.Data.Nat.Digits.Defs
import Mathlib.Tactic.Ring
import TransactionalTest.Decimal.Shortest
import TransactionalTest.Text.Blank

/-!
# Canonical decimals

A number has one canonical text and many others that read as the same number: with a plus sign,
with zeros in front, or as zero below zero.

* `Digits.text_value_iff` : digits are the text of their number when no zero stands in front;
* `Digits.text_length_bounds` : how many digits a number has;
* `Numeral.ofChars?_whole`, `Numeral.ofChars?_point` : digits are read as they are written;
* `Digits.IsInteger` : the three ways to write an integer;
* `Digits.toString_eq_iff` : which of them comes back when the integer is written out.
-/

namespace TransactionalTest

namespace Digits

/-! ### Natural numbers -/

theorem value_eq (cs : List Char) : value cs = Nat.ofDigitChars 10 cs 0 := by
  have hstep : (fun n (c : Char) => n * 10 + (c.toNat - 48)) =
      fun n c => 10 * n + (c.toNat - '0'.toNat) := by
    funext n c
    rw [Nat.mul_comm]
    rfl
  rw [value, Nat.ofDigitChars_eq_foldl, hstep]

theorem value_text (n : Nat) : value (text n) = n := by
  rw [value_eq, text, Nat.ofDigitChars_ten_toDigits]

theorem value_append_singleton (ds : List Char) (c : Char) :
    value (ds ++ [c]) = 10 * value ds + (c.toNat - 48) := by
  simp [value, Nat.mul_comm]

theorem isDigit_of_mem_text {n : Nat} {c : Char} (h : c ∈ text n) : c.isDigit = true :=
  Nat.isDigit_of_mem_toDigits (by decide) (by decide) h

theorem text_ne_nil (n : Nat) : text n ≠ [] := Nat.toDigits_ne_nil

/-- Digits with no zero in front of others. -/
def IsCanonical (ds : List Char) : Prop := ds ≠ [] ∧ ∀ r, ds = '0' :: r → r = []

theorem isCanonical_text (n : Nat) : IsCanonical (text n) := by
  refine ⟨text_ne_nil n, ?_⟩
  induction n using Nat.base_induction 10 (by decide) with
  | single m hm =>
    rw [text, Nat.toDigits_of_lt_base hm]
    simp
  | digit m k hk hm ih =>
    intro r hr
    rw [text, ← Nat.toDigits_append_toDigits (by decide) hm hk] at hr
    cases hfront : text m with
    | nil => exact absurd hfront (text_ne_nil m)
    | cons c ds =>
      rw [text] at hfront
      rw [hfront, List.cons_append, List.cons.injEq] at hr
      -- a zero in front would be all of `m`
      have hzero : text m = ['0'] := by
        rw [text, hfront, hr.1, ih ds (by rw [text, hfront, hr.1])]
      have := value_text m
      rw [hzero] at this
      simp [value] at this
      omega

theorem bounds_of_isDigit {c : Char} (h : c.isDigit = true) : 48 ≤ c.toNat ∧ c.toNat ≤ 57 := by
  simp only [Char.isDigit, ge_iff_le, Bool.and_eq_true, decide_eq_true_eq,
    UInt32.le_iff_toNat_le] at h
  exact h

theorem text_digit {c : Char} (hc : c.isDigit = true) : text (c.toNat - 48) = [c] := by
  have hbounds := bounds_of_isDigit hc
  have hsmall : c.toNat - 48 < 10 := by omega
  rw [text, Nat.toDigits_of_lt_base hsmall]
  congr 1
  apply Char.toNat_inj.1
  rw [Nat.toNat_digitChar_of_lt_ten hsmall]
  omega

/-- Digits with no zero in front are the text of their number. -/
theorem text_value {ds : List Char} (hd : ∀ c ∈ ds, c.isDigit = true) (h : IsCanonical ds) :
    text (value ds) = ds := by
  induction ds using List.reverseRecOn with
  | nil => exact absurd rfl h.1
  | append_singleton ds c ih =>
    have hc : c.isDigit = true := hd c (by simp)
    rw [value_append_singleton]
    by_cases hnil : ds = []
    · subst hnil
      simpa [value] using text_digit hc
    · have hfront : IsCanonical ds := by
        refine ⟨hnil, fun r hr => ?_⟩
        have := h.2 (r ++ [c]) (by rw [hr, List.cons_append])
        simp at this
      have hdigits := ih (fun d hd' => hd d (by simp [hd'])) hfront
      have hpos : 0 < value ds := by
        by_contra hzero
        have hzero : value ds = 0 := by omega
        rw [hzero, text, Nat.toDigits_zero] at hdigits
        have := h.2 [c] (by rw [← hdigits]; rfl)
        simp at this
      have hsmall : c.toNat - 48 < 10 := by
        have := bounds_of_isDigit hc
        omega
      rw [text, ← Nat.toDigits_append_toDigits (by decide) hpos hsmall]
      exact congrArg₂ (· ++ ·) hdigits (text_digit hc)

theorem text_value_iff {ds : List Char} (hd : ∀ c ∈ ds, c.isDigit = true) :
    text (value ds) = ds ↔ IsCanonical ds :=
  ⟨fun h => h ▸ isCanonical_text _, text_value hd⟩

theorem value_append (ds es : List Char) :
    value (ds ++ es) = value ds * 10 ^ es.length + value es := by
  induction es using List.reverseRecOn with
  | nil => simp [value]
  | append_singleton es c ih =>
    rw [← List.append_assoc, value_append_singleton, ih, value_append_singleton,
      List.length_append, List.length_singleton, Nat.pow_succ]
    ring

theorem value_zeros (n : ℕ) : value (List.replicate n '0') = 0 := by
  induction n with
  | zero => rfl
  | succ n ih => rw [List.replicate_succ', value_append_singleton, ih]; rfl

theorem value_lt {ds : List Char} (hd : ∀ c ∈ ds, c.isDigit = true) :
    value ds < 10 ^ ds.length := by
  induction ds using List.reverseRecOn with
  | nil => simp [value]
  | append_singleton ds c ih =>
    have hds := ih fun d hd' => hd d (by simp [hd'])
    have hc := bounds_of_isDigit (hd c (by simp))
    rw [value_append_singleton, List.length_append, List.length_singleton, Nat.pow_succ]
    omega

/-- The number of digits tells a number up to a factor of ten. -/
theorem text_length_bounds {n : ℕ} (h : 0 < n) :
    10 ^ ((text n).length - 1) ≤ n ∧ n < 10 ^ (text n).length := by
  constructor
  · by_contra hlt
    have hpos : 0 < (text n).length - 1 := by
      by_contra hzero
      have hzero : (text n).length - 1 = 0 := by omega
      rw [hzero] at hlt
      omega
    have := Nat.toDigits_length 10 n _ hpos (not_le.1 hlt)
    rw [text] at this hpos
    omega
  · have := value_lt fun c hc => isDigit_of_mem_text (n := n) hc
    rwa [value_text] at this

end Digits

/-! ### Texts of numerals -/

namespace Numeral

/-- A text behind its sign. -/
def signed (negative : Bool) (cs : List Char) : List Char := if negative then '-' :: cs else cs

theorem sign_signed {c : Char} (hc : c.isDigit = true) (negative : Bool) (cs : List Char) :
    sign (signed negative (c :: cs)) = (negative, c :: cs) := by
  cases negative with
  | true => rfl
  | false =>
    have hminus : c ≠ '-' := by
      rintro rfl
      exact absurd hc (by decide)
    have hplus : c ≠ '+' := by
      rintro rfl
      exact absurd hc (by decide)
    rw [signed, if_neg Bool.false_ne_true]
    unfold sign
    split
    case h_1 heq => exact absurd (List.cons.inj heq).1 hminus
    case h_2 heq => exact absurd (List.cons.inj heq).1 hplus
    case h_3 => rfl

/-- Digits at the front of a text that goes on with another character, or ends. -/
theorem span_digits {ds : List Char} (hd : ∀ c ∈ ds, c.isDigit = true) {r : List Char}
    (hr : ∀ c ∈ r.head?, c.isDigit = false) : Digits.span (ds ++ r) = (ds, r) := by
  have htake : r.takeWhile Char.isDigit = [] := by
    cases r with
    | nil => rfl
    | cons c r => rw [List.takeWhile_cons_of_neg (by simp [hr c rfl])]
  have hdrop : r.dropWhile Char.isDigit = r := by
    cases r with
    | nil => rfl
    | cons c r => rw [List.dropWhile_cons_of_neg (by simp [hr c rfl])]
  rw [Digits.span, List.span_eq_takeWhile_dropWhile, List.takeWhile_append_of_pos hd,
    List.dropWhile_append_of_pos hd, htake, hdrop, List.append_nil]

variable {c : Char} {whole fraction : List Char}

theorem ofChars?_whole (hd : ∀ d ∈ c :: whole, d.isDigit = true) (negative : Bool) :
    ofChars? (signed negative (c :: whole)) = some (ofParts negative (c :: whole) [] 0) := by
  have hspan : Digits.span (c :: whole) = (c :: whole, []) := by
    simpa using span_digits (r := []) hd (by simp)
  rw [ofChars?, sign_signed (hd c List.mem_cons_self)]
  simp only [hspan]
  rfl

theorem ofChars?_point (hd : ∀ d ∈ c :: whole, d.isDigit = true)
    (hf : ∀ d ∈ fraction, d.isDigit = true) (negative : Bool) :
    ofChars? (signed negative (c :: whole ++ '.' :: fraction)) =
      some (ofParts negative (c :: whole) fraction 0) := by
  have hspan : Digits.span (c :: whole ++ '.' :: fraction) = (c :: whole, '.' :: fraction) :=
    span_digits hd (by simp)
  have hspan' : Digits.span fraction = (fraction, []) := by
    simpa using span_digits (r := []) hf (by simp)
  rw [List.cons_append] at hspan ⊢
  rw [ofChars?, sign_signed (hd c List.mem_cons_self)]
  simp only [hspan, hspan']
  rfl

end Numeral

/-! ### Integers -/

namespace Digits

/-- The ways to write an integer: digits, with a sign in front or without. -/
inductive IsInteger : List Char → Int → Prop
  | bare {ds : List Char} (hne : ds ≠ []) (hd : ∀ c ∈ ds, c.isDigit = true) :
    IsInteger ds (value ds)
  | plus {ds : List Char} (hne : ds ≠ []) (hd : ∀ c ∈ ds, c.isDigit = true) :
    IsInteger ('+' :: ds) (value ds)
  | minus {ds : List Char} (hne : ds ≠ []) (hd : ∀ c ∈ ds, c.isDigit = true) :
    IsInteger ('-' :: ds) (-(value ds : Int))

theorem isInteger_of_integer? {cs : List Char} {n : Int} (h : integer? cs = some n) :
    IsInteger cs n := by
  obtain ⟨negative, r, hsign⟩ : ∃ negative r, Numeral.sign cs = (negative, r) := ⟨_, _, rfl⟩
  simp only [integer?, hsign, span, List.span_eq_takeWhile_dropWhile,
    Option.ite_none_left_eq_some, Bool.or_eq_true, List.isEmpty_iff, Bool.not_eq_true',
    List.isEmpty_eq_false_iff, not_or, not_not, Option.some.injEq] at h
  obtain ⟨⟨hne, hrest⟩, rfl⟩ := h
  have hd : ∀ c ∈ r, c.isDigit = true := List.dropWhile_eq_nil_iff.1 hrest
  rw [List.takeWhile_eq_self_iff.2 hd] at hne ⊢
  unfold Numeral.sign at hsign
  split at hsign <;> obtain ⟨rfl, rfl⟩ := Prod.mk.inj hsign
  · exact .minus hne hd
  · exact .plus hne hd
  · exact .bare hne hd

theorem toList_toString_of_nonneg (n : Nat) : (toString (n : Int)).toList = text n := by
  rw [Int.toString_eq_repr, Int.repr_eq_if]
  simp [text]

theorem toList_toString_neg {n : Nat} (h : 0 < n) :
    (toString (-(n : Int))).toList = '-' :: text n := by
  rw [Int.toString_eq_repr, Int.repr_eq_if, if_neg (by omega)]
  simp [text]

/-- The digits of an integer, without its sign. -/
theorem IsInteger.sign_bare {ds : List Char} (hne : ds ≠ []) (hd : ∀ c ∈ ds, c.isDigit = true) :
    Numeral.sign ds = (false, ds) := by
  cases ds with
  | nil => exact absurd rfl hne
  | cons c ds => exact Numeral.sign_signed (hd c List.mem_cons_self) false ds

theorem integer?_signed {ds : List Char} (hne : ds ≠ []) (hd : ∀ c ∈ ds, c.isDigit = true)
    (negative : Bool) : integer? (Numeral.signed negative ds) =
      some (if negative then -(value ds : Int) else value ds) := by
  cases ds with
  | nil => exact absurd rfl hne
  | cons c ds =>
    have hspan : span (c :: ds) = (c :: ds, []) := by
      simpa using Numeral.span_digits (r := []) hd (by simp)
    rw [integer?, Numeral.sign_signed (hd c List.mem_cons_self)]
    simp only [hspan]
    rfl

/-- An integer written out reads back. -/
theorem integer?_toString (n : Int) : integer? (toString n).toList = some n := by
  have hread (m : Nat) := integer?_signed (text_ne_nil m) fun c => isDigit_of_mem_text
  rcases Int.eq_nat_or_neg n with ⟨m, rfl | rfl⟩
  · rw [toList_toString_of_nonneg]
    exact (hread m false).trans (by rw [value_text]; rfl)
  · rcases Nat.eq_zero_or_pos m with rfl | hpos
    · decide
    · rw [toList_toString_neg hpos]
      exact (hread m true).trans (by rw [value_text]; rfl)

/-- An integer comes back as it was written unless there is a plus sign, a zero in front of other
digits, or a zero below zero. -/
theorem IsInteger.toString_eq_iff {s : String} {n : Int} (h : IsInteger s.toList n) :
    toString n = s ↔ s.toList.head? ≠ some '+' ∧ s ≠ "-0" ∧
      ∀ r, (Numeral.sign s.toList).2 = '0' :: r → r = [] := by
  have hinj (t : String) : t = s ↔ t.toList = s.toList := String.toList_inj.symm
  have hzero : s ≠ "-0" ↔ s.toList ≠ ['-', '0'] := by
    rw [ne_eq, eq_comm, hinj, eq_comm]
    rfl
  rw [hinj, hzero]
  generalize s.toList = cs at h
  clear hinj hzero s
  cases h with
  | bare hne hd =>
    rw [toList_toString_of_nonneg, text_value_iff hd, sign_bare hne hd]
    have hhead (c : Char) (hc : c.isDigit = false) (r : List Char) : cs ≠ c :: r := by
      rintro rfl
      simp [hd c List.mem_cons_self] at hc
    have hplus : cs.head? ≠ some '+' := by
      rw [ne_eq, List.head?_eq_some_iff, not_exists]
      exact hhead '+' (by decide)
    simp [IsCanonical, hne, hplus, hhead '-' (by decide)]
  | @plus ds hne hd =>
    rw [toList_toString_of_nonneg]
    have hother : text (value ds) ≠ '+' :: ds := by
      intro heq
      have hmem : '+' ∈ text (value ds) := heq ▸ List.mem_cons_self
      exact absurd (isDigit_of_mem_text hmem) (by decide)
    simp [hother]
  | @minus ds hne hd =>
    rcases Nat.eq_zero_or_pos (value ds) with hzero | hpos
    · rw [hzero]
      have hother : (toString (-((0 : Nat) : Int))).toList ≠ '-' :: ds := by
        rw [show (toString (-((0 : Nat) : Int))).toList = ['0'] from by decide]
        simp
      simp only [hother, false_iff, not_and, Numeral.sign]
      intro _ hne0 hcanonical
      -- digits of zero without a zero in front are a single zero
      have hdigits := text_value hd ⟨hne, hcanonical⟩
      rw [hzero, text, Nat.toDigits_zero] at hdigits
      exact hne0 (by rw [← hdigits])
    · rw [toList_toString_neg hpos, List.cons.injEq, text_value_iff hd]
      have hne0 : '-' :: ds ≠ ['-', '0'] := by
        intro heq
        rw [(List.cons.inj heq).2] at hpos
        exact absurd hpos (by decide)
      simp [IsCanonical, hne, Numeral.sign, hne0]

end Digits

end TransactionalTest
