/-!
# Blank characters

The characters with the Unicode property `White_Space`, and trimming by them.

* `Blank.isBlank` — the class;
* `Blank.trim` — a text without the blanks at its two ends;
* `Blank.isBlankText` — nothing but blanks.
-/

namespace TransactionalTest

namespace Blank

/-- The characters with the Unicode property `White_Space`.  The zero width space `U+200B`, the
byte order mark `U+FEFF` and `U+180E` are not among them. -/
def isBlank (c : Char) : Bool :=
  let n := c.toNat
  (0x9 ≤ n && n ≤ 0xD) || n == 0x20 || n == 0x85 || n == 0xA0 || n == 0x1680 ||
    (0x2000 ≤ n && n ≤ 0x200A) || n == 0x2028 || n == 0x2029 || n == 0x202F || n == 0x205F ||
    n == 0x3000

/-- The characters without the blanks at the front. -/
def trimStart (cs : List Char) : List Char := cs.dropWhile isBlank

/-- The characters without the blanks at either end. -/
def trimChars (cs : List Char) : List Char := (trimStart (trimStart cs).reverse).reverse

/-- The text without the blanks at either end. -/
def trim (s : String) : String := String.ofList (trimChars s.toList)

/-- The text holds nothing but blanks; so does the empty text. -/
def isBlankText (s : String) : Bool := s.toList.all isBlank

/-- A blank stands at one of the two ends of the text. -/
def isPadded (s : String) : Bool := trim s != s

theorem trimStart_eq_self_iff (cs : List Char) :
    trimStart cs = cs ↔ cs.head?.any isBlank = false := by
  cases cs with
  | nil => simp [trimStart]
  | cons c cs =>
    cases hc : isBlank c
    · simp [trimStart, hc]
    · have hlonger : trimStart (c :: cs) ≠ c :: cs := by
        intro h
        have hle : (cs.dropWhile isBlank).length ≤ cs.length :=
          (List.dropWhile_suffix isBlank).length_le
        have hlen := congrArg List.length h
        simp only [trimStart, List.dropWhile_cons, hc, ↓reduceIte, List.length_cons] at hlen
        omega
      simp [hlonger, hc]

theorem trimChars_eq_self_iff (cs : List Char) :
    trimChars cs = cs ↔ cs.head?.any isBlank = false ∧ cs.getLast?.any isBlank = false := by
  rw [← List.head?_reverse, ← trimStart_eq_self_iff, ← trimStart_eq_self_iff]
  constructor
  · intro h
    -- what is trimmed at the front cannot come back at the end
    have hfront : trimStart cs = cs := by
      have hsuffix : trimStart cs <:+ cs := List.dropWhile_suffix isBlank
      refine hsuffix.eq_of_length_le ?_
      have hback : (trimStart (trimStart cs).reverse).length ≤ (trimStart cs).reverse.length :=
        (List.dropWhile_suffix isBlank).length_le
      have hlen := congrArg List.length h
      simp only [trimChars, List.length_reverse] at hlen hback
      omega
    rw [trimChars, hfront] at h
    exact ⟨hfront, List.reverse_eq_iff.1 h⟩
  · rintro ⟨hfront, hback⟩
    rw [trimChars, hfront, hback, List.reverse_reverse]

/-- A text is padded when its first or its last character is a blank. -/
theorem isPadded_eq (s : String) :
    isPadded s = (s.toList.head?.any isBlank || s.toList.getLast?.any isBlank) := by
  have htrim : trim s = s ↔ trimChars s.toList = s.toList := by
    rw [trim, ← String.toList_inj, String.toList_ofList]
  rw [isPadded, Bool.eq_iff_iff, bne_iff_ne, ne_eq, htrim, trimChars_eq_self_iff]
  cases s.toList.head?.any isBlank <;> simp

end Blank

end TransactionalTest
