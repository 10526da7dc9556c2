import TransactionalTest.Text.HiddenRanges
import TransactionalTest.Text.LetterRanges
import TransactionalTest.Text.MarkRanges
import TransactionalTest.Text.NumberRanges

/-!
# Classes of characters

The classes of the Unicode character database that the formats and the diagnostics ask about.
Below `0x80` every class is spelled out; the tables hold the rest.

* `Category.isLetter`, `Category.isDigit`, `Category.isMark`, `Category.isConnector`;
* `Category.isDiacritic` — among them the circumflex and the grave accent of ASCII;
* `Category.isAlphanumeric` — letters, numbers and what counts as alphabetic;
* `Category.isHidden`, `Category.isExtender` — characters that cannot be shown on their own.
-/

namespace TransactionalTest

namespace Category

/-- A letter or a number written with letters. -/
def isLetter (c : Char) : Bool := if c.toNat < 0x80 then c.isAlpha else letters.has c

/-- A decimal digit. -/
def isDigit (c : Char) : Bool := if c.toNat < 0x80 then c.isDigit else digits.has c

/-- A mark that takes no room of its own. -/
def isMark (c : Char) : Bool := if c.toNat < 0x80 then false else marks.has c

/-- A sign that joins two words into one. -/
def isConnector (c : Char) : Bool := if c.toNat < 0x80 then c = '_' else connectors.has c

/-- A diacritic that is neither a letter nor a mark. -/
def isDiacritic (c : Char) : Bool :=
  if c.toNat < 0x80 then c = '^' || c.toNat = 0x60 else diacritics.has c

/-- A letter, a number of any kind, or a sign that counts as alphabetic. -/
def isAlphanumeric (c : Char) : Bool :=
  if c.toNat < 0x80 then c.isAlphanum
  else letters.has c || digits.has c || numbers.has c || vowelSigns.has c

/-- A control, a format, a blank other than the space, or a character without a shape. -/
def isHidden (c : Char) : Bool :=
  if c.toNat < 0x80 then c.toNat < 0x20 || c.toNat = 0x7F else hidden.has c

/-- A character that is shown as a part of the one before it. -/
def isExtender (c : Char) : Bool :=
  if c.toNat < 0x80 then false else marks.has c || extenders.has c

end Category

end TransactionalTest
