import TransactionalTest.Text.Hex
import TransactionalTest.Text.Scan

/-!
# Names and texts of RON

What the values of a document are made of, and what stands between them.

* `Ron.skip` — the text without the blanks and comments at its front;
* `Ron.name` — a name, plain or raw;
* `Ron.text`, `Ron.rawText`, `Ron.quotedChar` — texts after their opening quote.
-/

namespace TransactionalTest

namespace Ron

/-! ### Between the values -/

/-- A blank. -/
def isBlank (c : Char) : Bool := c = ' ' || c = '\n' || c = '\t' || c = '\r'

/-- What stands between two values. -/
inductive Gap where
  | blanks
  | lineComment
  /-- So many block comments, one in the other, less one. -/
  | blockComment (depth : Nat)
  deriving DecidableEq

/-- The text without the blanks and comments at its front.  A comment that is not closed leaves an
asterisk, with which nothing starts. -/
def skipGap : Gap → List Char → List Char
  | .blanks, '/' :: '/' :: r => skipGap .lineComment r
  | .blanks, '/' :: '*' :: r => skipGap (.blockComment 0) r
  | .blanks, c :: r => if isBlank c then skipGap .blanks r else c :: r
  | .lineComment, c :: r => skipGap (if c = '\n' then .blanks else .lineComment) r
  | .blockComment depth, '/' :: '*' :: r => skipGap (.blockComment (depth + 1)) r
  | .blockComment 0, '*' :: '/' :: r => skipGap .blanks r
  | .blockComment (depth + 1), '*' :: '/' :: r => skipGap (.blockComment depth) r
  | .blockComment depth, _ :: r => skipGap (.blockComment depth) r
  | .blockComment _, [] => ['*']
  | .blanks, [] | .lineComment, [] => []

/-- The text without the blanks and comments at its front. -/
def skip (cs : List Char) : List Char := skipGap .blanks cs

/-! ### Names -/

/-- A character that a name starts with. -/
def isNameStart (c : Char) : Bool := c.isAlpha || c = '_'

/-- A character of a name. -/
def isNameChar (c : Char) : Bool := c.isAlphanum || c = '_'

/-- A character of a raw name. -/
def isRawNameChar (c : Char) : Bool := isNameChar c || c = '.' || c = '+' || c = '-'

/-- A name that would go on if it were a raw one is refused. -/
def plainName (cs : List Char) : Option (String × List Char) :=
  let (n, r) := cs.span isNameChar
  match r with
  | [] => some (String.ofList n, r)
  | c :: _ => if isRawNameChar c then none else some (String.ofList n, r)

/-- A name at the front of a text.  A raw name stands behind `r#`; a quote behind `r`, or behind `r`
and number signs, begins a raw text instead. -/
def name : Scanner String
  | [] | ['r'] | 'r' :: '"' :: _ | ['r', '#'] => none
  | 'r' :: '#' :: c :: r =>
    if isRawNameChar c then
      let (n, r) := (c :: r).span isRawNameChar
      some (String.ofList n, r)
    else none
  | c :: r => if isNameStart c then plainName (c :: r) else none

/-! ### Texts -/

/-- The character of a number. -/
def scalar? (n : Nat) : Option Char :=
  if (Char.ofNat n).toNat = n then some (Char.ofNat n) else none

/-- The character of the escape after a backslash. -/
def escape : Scanner Char
  | '\'' :: r => some ('\'', r)
  | '"' :: r => some ('"', r)
  | '\\' :: r => some ('\\', r)
  | 'n' :: r => some ('\n', r)
  | 'r' :: r => some ('\r', r)
  | 't' :: r => some ('\t', r)
  | '0' :: r => some ('\x00', r)
  | 'x' :: a :: b :: r => do return (← scalar? (← Hex.ofDigits? [a, b]), r)
  | 'u' :: '\x7b' :: r => do
    let (ds, r) := r.span fun c => (Hex.value? c).isSome
    match r with
    | '\x7d' :: r =>
      if ds.isEmpty || 6 < ds.length then none
      else return (← scalar? (← Hex.ofDigits? ds), r)
    | _ => none
  | _ => none

/-- The rest of a string after its opening quote; `acc` holds what has been read, last character
first. -/
def text (acc : List Char) : Nat → Scanner String
  | 0, _ => none
  | fuel + 1, cs =>
    match cs with
    | '"' :: r => some (String.ofList acc.reverse, r)
    | '\\' :: r =>
      match escape r with
      | some (c, r) => text (c :: acc) fuel r
      | none => none
    | c :: r => text (c :: acc) fuel r
    | [] => none

/-- The rest of a raw string, up to a quote and so many number signs. -/
def rawText (signs : Nat) : List Char → Option (List Char × List Char)
  | [] => none
  | c :: r =>
    if c = '"' && (List.replicate signs '#').isPrefixOf r then some ([], r.drop signs)
    else (rawText signs r).map fun x => (c :: x.1, x.2)

/-- A character after its opening quote. -/
def quotedChar : Scanner Char
  | '\\' :: r => do
    match ← escape r with
    | (c, '\'' :: r) => return (c, r)
    | _ => none
  | c :: '\'' :: r => if c = '\'' then none else some (c, r)
  | _ => none

end Ron

end TransactionalTest
