import TransactionalTest.Json.Reader
import TransactionalTest.Settings.Basic
import TransactionalTest.Text.Category
import TransactionalTest.Text.Scan

/-!
# Settings in JSON5 files

JSON with comments, single quotes, names without quotes, commas at the end and more forms of
numbers.

* `Json5.value` — one value at the front of a text;
* `Layer.ofJson5?` — the entries of the object that a document is.
-/

namespace TransactionalTest

namespace Json5

/-! ### Between the values -/

/-- A character that ends a line. -/
def isLineEnd (c : Char) : Bool := c = '\n' || c = '\r' || c = '\u2028' || c = '\u2029'

/-- A blank: those of Unicode but for `U+0085`, and the byte order mark. -/
def isBlank (c : Char) : Bool := (Blank.isBlank c && c ≠ '\x85') || c = '\ufeff'

/-- What stands between two values. -/
inductive Gap where
  | blanks
  | lineComment
  | blockComment
  deriving DecidableEq

/-- The text without the blanks and comments at its front.  A comment that is not closed leaves an
asterisk, with which nothing starts. -/
def skipGap : Gap → List Char → List Char
  | .blanks, '/' :: '/' :: r => skipGap .lineComment r
  | .blanks, '/' :: '*' :: r => skipGap .blockComment r
  | .blanks, c :: r => if isBlank c then skipGap .blanks r else c :: r
  | .lineComment, c :: r => skipGap (if isLineEnd c then .blanks else .lineComment) r
  | .blockComment, '*' :: '/' :: r => skipGap .blanks r
  | .blockComment, _ :: r => skipGap .blockComment r
  | .blockComment, [] => ['*']
  | .blanks, [] | .lineComment, [] => []

/-- The text without the blanks and comments at its front. -/
def skip (cs : List Char) : List Char := skipGap .blanks cs

/-! ### Strings and names -/

/-- The character that a backslash and this one write; a digit needs more than that. -/
def escape? (c : Char) : Option Char :=
  match c with
  | 'b' => some '\x08'
  | 'f' => some '\x0c'
  | 'n' => some '\n'
  | 'r' => some '\r'
  | 't' => some '\t'
  | 'v' => some '\x0b'
  | '0' => some '\x00'
  | c => if c.isDigit || c = 'x' || c = 'u' then none else some c

/-- The parts of a string after its opening quote, and what follows its closing quote. -/
def pieces (quote : Char) : List Char → Option (List Json.Reader.Piece × List Char)
  | [] => none
  | '\\' :: 'u' :: a :: b :: c :: d :: r => do
    let n ← Hex.ofDigits? [a, b, c, d]
    let (ps, r) ← pieces quote r
    return (.unit n :: ps, r)
  | '\\' :: 'x' :: a :: b :: r => do
    let n ← Hex.ofDigits? [a, b]
    let (ps, r) ← pieces quote r
    return (.char (Char.ofNat n) :: ps, r)
  | '\\' :: '\r' :: '\n' :: r => pieces quote r
  | '\\' :: e :: r =>
    if isLineEnd e then pieces quote r
    else do
      let c ← escape? e
      let (ps, r) ← pieces quote r
      return (.char c :: ps, r)
  | c :: r =>
    if c = quote then some ([], r)
    else if c = '\\' || isLineEnd c then none
    else do
      let (ps, r) ← pieces quote r
      return (.char c :: ps, r)

/-- The character that two halves make.  The bit for the planes beyond the first is set, not added,
so of two neighbouring planes both give characters of the odd one. -/
def join (high low : Nat) : Char :=
  Char.ofNat ((high - 0xD800) * 0x400 ||| (low - 0xDC00 + 0x10000))

/-- The text that these parts make. -/
def textOf? (ps : List Json.Reader.Piece) : Option String :=
  (Json.Reader.assemble join ps).map String.ofList

/-- A string after its opening quote. -/
def text (quote : Char) (cs : List Char) : Option (String × List Char) := do
  let (ps, r) ← pieces quote cs
  return (← textOf? ps, r)

/-- A name without quotes starts with a letter, a dollar sign or an underscore. -/
def isNameStart (c : Char) : Bool := Category.isLetter c || c = '$' || c = '_'

/-- It goes on with these, with marks and diacritics, digits, connectors and the characters that
join or part their neighbours. -/
def isNamePart (c : Char) : Bool :=
  isNameStart c || Category.isMark c || Category.isDiacritic c || Category.isDigit c ||
    Category.isConnector c || c = '\u200c' || c = '\u200d'

/-- The parts at the front of a name without quotes, and what follows.  An escape may stand for any
character. -/
def namePieces (isStart : Bool) : List Char → List Json.Reader.Piece × List Char
  | '\\' :: 'u' :: a :: b :: c :: d :: r =>
    match Hex.ofDigits? [a, b, c, d] with
    | some n =>
      let (ps, r) := namePieces false r
      (.unit n :: ps, r)
    | none => ([], '\\' :: 'u' :: a :: b :: c :: d :: r)
  | c :: r =>
    if isNameStart c || (!isStart && isNamePart c) then
      let (ps, r) := namePieces false r
      (.char c :: ps, r)
    else ([], c :: r)
  | [] => ([], [])

/-- The name of an entry. -/
def name : Scanner String
  | '"' :: r => text '"' r
  | '\'' :: r => text '\'' r
  | cs =>
    let (ps, r) := namePieces true cs
    if ps.isEmpty then none else (textOf? ps).map fun n => (n, r)

/-! ### Numbers -/

/-- An integer of 64 bits. -/
def integer? (n : Int) : Option Setting :=
  if Width.fits64 n then some (.integer n) else none

/-- A number without its sign.  A hexadecimal one has no sign and fits 32 bits. -/
def unsigned (negative signed : Bool) : Scanner Setting
  | 'I' :: 'n' :: 'f' :: 'i' :: 'n' :: 'i' :: 't' :: 'y' :: r =>
    if signed && !negative then none else some (.real (.infinite negative), r)
  | 'N' :: 'a' :: 'N' :: r => if signed && !negative then none else some (.real .nan, r)
  | cs =>
    match cs with
    | '0' :: 'x' :: r | '0' :: 'X' :: r =>
      let (ds, r) := r.span fun c => (Hex.value? c).isSome
      match Hex.ofDigits? ds with
      | some n => if ds.isEmpty || signed || Width.bits32 ≤ n then none else some (.integer n, r)
      | none => none
    | cs => do
      let (whole, r) := Digits.span cs
      let (point, fraction, r) := match r with
        | '.' :: r =>
          let (ds, r) := Digits.span r
          (true, ds, r)
        | r => (false, [], r)
      if (whole.isEmpty && fraction.isEmpty) || (whole.length ≠ 1 && whole.head? == some '0') then
        none
      let (e, r) ← Json.Reader.exponent r
      if !point && e.isNone then
        let n : Int := Digits.value whole
        return (← integer? (if negative then -n else n), r)
      else
        match Binary64.ofNumeral (Numeral.ofParts negative whole fraction (e.getD 0)) with
        | .infinite _ => none
        | x => return (.real x, r)

/-- A number at the front of a text. -/
def number : Scanner Setting
  | '-' :: r => unsigned true true r
  | '+' :: r => unsigned false true r
  | r => unsigned false false r

/-! ### Values -/

mutual

/-- A value at the front of a text.  `fuel` bounds the nesting and the lengths of lists. -/
def value : Nat → Scanner Setting
  | 0, _ => none
  | fuel + 1, cs =>
    match skip cs with
    | 'n' :: 'u' :: 'l' :: 'l' :: r => some (.nil, r)
    | 't' :: 'r' :: 'u' :: 'e' :: r => some (.boolean true, r)
    | 'f' :: 'a' :: 'l' :: 's' :: 'e' :: r => some (.boolean false, r)
    | '"' :: r => (text '"' r).map fun x => (.text x.1, x.2)
    | '\'' :: r => (text '\'' r).map fun x => (.text x.1, x.2)
    | '[' :: r =>
      match skip r with
      | ']' :: r => some (.list, r)
      | r => (items fuel r).map fun r => (.list, r)
    | '\x7b' :: r => (object fuel r).map fun x => (.table x.1.isEmpty, x.2)
    | r => number r

/-- What follows the items of an array and its closing bracket. -/
def items : Nat → List Char → Option (List Char)
  | 0, _ => none
  | fuel + 1, cs =>
    match value fuel cs with
    | none => none
    | some (_, r) =>
      match skip r with
      | ',' :: r =>
        match skip r with
        | ']' :: r => some r
        | r => items fuel r
      | ']' :: r => some r
      | _ => none

/-- The entries of an object after its opening brace. -/
def object : Nat → Scanner Layer
  | 0, _ => none
  | fuel + 1, cs =>
    match skip cs with
    | '\x7d' :: r => some ([], r)
    | r => members fuel r

/-- The entries of an object up to its closing brace; there is one at least. -/
def members : Nat → Scanner Layer
  | 0, _ => none
  | fuel + 1, cs =>
    match name (skip cs) with
    | none => none
    | some (n, r) =>
      match skip r with
      | ':' :: r =>
        match value fuel r with
        | none => none
        | some (x, r) =>
          match skip r with
          | ',' :: r =>
            match skip r with
            | '\x7d' :: r => some ([(n, x)], r)
            | r => (members fuel r).map fun y => ((n, x) :: y.1, y.2)
          | '\x7d' :: r => some ([(n, x)], r)
          | _ => none
      | _ => none

end

end Json5

/-- What a JSON5 document says; of several entries under one name the last one counts. -/
def Layer.ofJson5? (content : String) : Option Layer :=
  match Json5.skip content.toList with
  | '\x7b' :: r =>
    match Json5.object (2 * r.length + 2) r with
    | some (l, r) => if (Json5.skip r).isEmpty then some (Table.ofList l) else none
    | none => none
  | _ => none

end TransactionalTest
