/-!
# Lower case

Lower-casing as far as a word of ASCII letters can tell.  Of all characters beyond ASCII only the
Kelvin sign `U+212A` has an ASCII letter as its lower-case form, so two texts that this function
keeps apart from an ASCII word are kept apart from it by the full mapping too, and conversely.

* `Lower.lower` — the text in lower case;
* `Lower.eqIgnoreCase` — equality of ASCII words whatever their case.
-/

namespace TransactionalTest

namespace Lower

/-- An ASCII capital or the Kelvin sign as its small letter; any other character as it is. -/
def lowerChar (c : Char) : Char :=
  if c.toNat = 0x212A then 'k' else c.toLower

/-- The text in lower case. -/
def lower (s : String) : String := String.ofList (s.toList.map lowerChar)

/-- Whether the two texts are equal once the ASCII capitals are made small. -/
def eqIgnoreCase (a b : String) : Bool :=
  a.toList.map Char.toLower == b.toList.map Char.toLower

/-- The small letters by their numbers. -/
theorem isLower_iff (c : Char) : c.isLower = true ↔ 97 ≤ c.toNat ∧ c.toNat ≤ 122 := by
  have hdef : c.isLower = (decide ('a'.val ≤ c.val) && decide (c.val ≤ 'z'.val)) := rfl
  rw [hdef, Bool.and_eq_true, decide_eq_true_eq, decide_eq_true_eq, UInt32.le_iff_toNat_le,
    UInt32.le_iff_toNat_le]
  rfl

/-- A capital becomes the small letter 32 places on, and any other character stays. -/
theorem toLower_cases (c : Char) :
    (65 ≤ c.toNat ∧ c.toNat ≤ 90 ∧ c.toLower.toNat = c.toNat + 32) ∨
      (¬(65 ≤ c.toNat ∧ c.toNat ≤ 90) ∧ c.toLower = c) := by
  have hbounds : c.val ≥ 'A'.val ∧ c.val ≤ 'Z'.val ↔ 65 ≤ c.toNat ∧ c.toNat ≤ 90 := by
    rw [ge_iff_le, UInt32.le_iff_toNat_le, UInt32.le_iff_toNat_le]
    rfl
  by_cases h : c.val ≥ 'A'.val ∧ c.val ≤ 'Z'.val
  · obtain ⟨hlow, hhigh⟩ := hbounds.1 h
    have hval : c.toLower.val = c.val + 32 := congrArg Char.val (dif_pos h)
    have hnext : c.toLower.toNat = (c.val + 32).toNat := congrArg UInt32.toNat hval
    rw [UInt32.toNat_add] at hnext
    refine .inl ⟨hlow, hhigh, hnext.trans (Nat.mod_eq_of_lt ?_)⟩
    have hsmall : c.val.toNat ≤ 90 := hhigh
    simp only [UInt32.reduceToNat]
    omega
  · exact .inr ⟨fun hcapital => h (hbounds.2 hcapital), dif_neg h⟩

theorem lowerChar_of_isLower {c : Char} (h : c.isLower = true) : lowerChar c = c := by
  rw [isLower_iff] at h
  rw [lowerChar, if_neg (by omega)]
  rcases toLower_cases c with hcapital | hother
  · omega
  · exact hother.2

/-- A character stays as it is or becomes a small letter. -/
theorem lowerChar_cases (c : Char) : lowerChar c = c ∨ (lowerChar c).isLower = true := by
  rw [lowerChar]
  split
  · exact .inr rfl
  · rcases toLower_cases c with ⟨hlow, hhigh, hnext⟩ | hother
    · refine .inr ((isLower_iff _).2 ?_)
      omega
    · exact .inl hother.2

theorem lowerChar_lowerChar (c : Char) : lowerChar (lowerChar c) = lowerChar c := by
  rcases lowerChar_cases c with h | h
  · rw [h, h]
  · exact lowerChar_of_isLower h

theorem toList_lower (s : String) : (lower s).toList = s.toList.map lowerChar := by
  simp [lower]

theorem lower_append (s t : String) : lower (s ++ t) = lower s ++ lower t := by
  simp [lower]

theorem lower_lower (s : String) : lower (lower s) = lower s := by
  rw [lower, toList_lower, List.map_map, lower]
  congr 1
  exact List.map_congr_left fun c _ => lowerChar_lowerChar c

end Lower

end TransactionalTest
