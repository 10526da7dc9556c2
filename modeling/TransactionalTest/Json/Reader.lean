import TransactionalTest.Json.Basic
import TransactionalTest.Text.Hex

/-!
# Reading JSON

The strict grammar: no comments, no trailing commas, nothing after the document but blanks.

* `Json.parse?` — a whole text;
* `Json.Reader.value` — one value at the front of a text.
-/

namespace TransactionalTest

namespace Json

namespace Reader

/-- The four blanks of the grammar. -/
def isBlank (c : Char) : Bool := c = ' ' || c = '\n' || c = '\r' || c = '\t'

/-- The text without the blanks at its front. -/
def skip (cs : List Char) : List Char := cs.dropWhile isBlank

/-! ### Strings -/

/-- The code unit that four hexadecimal digits write. -/
def unit? (a b c d : Char) : Option Nat := Hex.ofDigits? [a, b, c, d]

/-- The first half of a character beyond the basic plane. -/
def isHigh (n : Nat) : Bool := 0xD800 ≤ n && n < 0xDC00

/-- The second half of such a character. -/
def isLow (n : Nat) : Bool := 0xDC00 ≤ n && n < 0xE000

/-- The character that two halves make. -/
def join (high low : Nat) : Char :=
  Char.ofNat (0x10000 + (high - 0xD800) * 0x400 + (low - 0xDC00))

/-- The character that a short escape stands for. -/
def short? : Char → Option Char
  | '"' => some '"'
  | '\\' => some '\\'
  | '/' => some '/'
  | 'b' => some '\x08'
  | 'f' => some '\x0c'
  | 'n' => some '\n'
  | 'r' => some '\r'
  | 't' => some '\t'
  | _ => none

/-- A part of a string: a character, or a code unit that an escape gives by number. -/
inductive Piece where
  | char (c : Char)
  | unit (n : Nat)
  deriving DecidableEq, Repr

/-- The parts of a string after its opening quote, and what follows its closing quote. -/
def pieces : List Char → Option (List Piece × List Char)
  | [] => none
  | '"' :: r => some ([], r)
  | '\\' :: 'u' :: a :: b :: c :: d :: r => do
    let n ← unit? a b c d
    let (ps, r) ← pieces r
    return (.unit n :: ps, r)
  | '\\' :: e :: r => do
    let c ← short? e
    let (ps, r) ← pieces r
    return (.char c :: ps, r)
  | c :: r =>
    if c.toNat < 0x20 then none
    else do
      let (ps, r) ← pieces r
      return (.char c :: ps, r)

/-- The characters that the parts make, unless a half character is left alone; `join` makes one of
two halves. -/
def assemble (join : Nat → Nat → Char) : List Piece → Option (List Char)
  | [] => some []
  | .char c :: ps => (assemble join ps).map (c :: ·)
  | .unit n :: ps =>
    if isLow n then none
    else if isHigh n then
      match ps with
      | .unit m :: ps => if isLow m then (assemble join ps).map (join n m :: ·) else none
      | _ => none
    else (assemble join ps).map (Char.ofNat n :: ·)

/-- The rest of a string after its opening quote; it may have no text. -/
def text (cs : List Char) : Option (Option String × List Char) :=
  (pieces cs).map fun x => ((assemble join x.1).map String.ofList, x.2)

/-- The value of a string. -/
def ofText (s : Option String) : Json := s.elim .broken .string

/-- The value of an object. -/
def ofMembers (es : List (Option String × Json)) : Json :=
  match es.mapM fun e => e.1.map fun name => (name, e.2) with
  | some es => .object es
  | none => .broken

/-! ### Numbers -/

/-- The power of ten after a number, if there is one, and the rest. -/
def exponent : List Char → Option (Option Int × List Char)
  | c :: r =>
    if c = 'e' || c = 'E' then
      let (negative, r) := Numeral.sign r
      let (ds, r) := Digits.span r
      if ds.isEmpty then none
      else some (some (if negative then -(Digits.value ds : Int) else Digits.value ds), r)
    else some (none, c :: r)
  | [] => some (none, [])

/-- The digits after the point, if there is one, and the rest. -/
def fraction : List Char → Option (Option (List Char) × List Char)
  | '.' :: r =>
    let (ds, r) := Digits.span r
    if ds.isEmpty then none else some (some ds, r)
  | r => some (none, r)

/-- A number at the front of a text. -/
def number (cs : List Char) : Option (Json × List Char) :=
  let (negative, r) := match cs with
    | '-' :: r => (true, r)
    | r => (false, r)
  let (whole, r) := Digits.span r
  if whole.isEmpty || (whole.length ≠ 1 && whole.head? == some '0') then none
  else do
    let (f, r) ← fraction r
    let (e, r) ← exponent r
    if f.isNone && e.isNone && !(negative && Digits.value whole == 0) then
      let n : Int := Digits.value whole
      return (.integer (if negative then -n else n), r)
    else
      return (.real ⟨negative, whole, f.getD [], e.getD 0⟩, r)

/-! ### Values -/

mutual

/-- A value at the front of a text.  `fuel` bounds the nesting and the lengths of lists. -/
def value : Nat → List Char → Option (Json × List Char)
  | 0, _ => none
  | fuel + 1, cs =>
    match skip cs with
    | 'n' :: 'u' :: 'l' :: 'l' :: r => some (.null, r)
    | 't' :: 'r' :: 'u' :: 'e' :: r => some (.bool true, r)
    | 'f' :: 'a' :: 'l' :: 's' :: 'e' :: r => some (.bool false, r)
    | '"' :: r => (text r).map fun x => (ofText x.1, x.2)
    | '[' :: r =>
      match skip r with
      | ']' :: r => some (.array [], r)
      | r => (items fuel r).map fun x => (.array x.1, x.2)
    | '\x7b' :: r =>
      match skip r with
      | '\x7d' :: r => some (.object [], r)
      | r => (members fuel r).map fun x => (ofMembers x.1, x.2)
    | r => number r

/-- The items of an array up to its closing bracket. -/
def items : Nat → List Char → Option (List Json × List Char)
  | 0, _ => none
  | fuel + 1, cs =>
    match value fuel cs with
    | none => none
    | some (x, r) =>
      match skip r with
      | ',' :: r => (items fuel r).map fun y => (x :: y.1, y.2)
      | ']' :: r => some ([x], r)
      | _ => none

/-- The members of an object up to its closing brace. -/
def members : Nat → List Char → Option (List (Option String × Json) × List Char)
  | 0, _ => none
  | fuel + 1, cs =>
    match skip cs with
    | '"' :: r =>
      match text r with
      | some (name, r) =>
        match skip r with
        | ':' :: r =>
          match value fuel r with
          | none => none
          | some (x, r) =>
            match skip r with
            | ',' :: r => (members fuel r).map fun y => ((name, x) :: y.1, y.2)
            | '\x7d' :: r => some ([(name, x)], r)
            | _ => none
        | _ => none
      | none => none
    | _ => none

end

end Reader

/-- Read a whole text.  Every two turns of the reader take a character, so the fuel suffices. -/
def parse? (s : String) : Option Json :=
  match Reader.value (2 * s.length + 2) s.toList with
  | some (x, r) => if (Reader.skip r).isEmpty then some x else none
  | none => none

end Json

end TransactionalTest
