import TransactionalTest.Text.Hex
import TransactionalTest.Text.Scan

/-!
# TOML texts

Strings in their four forms, comments and blanks.

* `Toml.string` — a string in any form;
* `Toml.bareKey` — the characters of a key without quotes;
* `Toml.skipSpace`, `Toml.lineEnd`, `Toml.skipLines` — what stands between the values.
-/

namespace TransactionalTest

namespace Toml

/-! ### Between the values -/

/-- A space or a tab. -/
def isSpace (c : Char) : Bool := c = ' ' || c = '\t'

/-- The text without the spaces at its front. -/
def skipSpace (cs : List Char) : List Char := cs.dropWhile isSpace

/-- A character that may stand in a comment. -/
def isCommentChar (c : Char) : Bool := c = '\t' || (0x20 ≤ c.toNat && c.toNat ≠ 0x7F)

/-- The text without a comment at its front. -/
def skipComment : List Char → List Char
  | '#' :: r => r.dropWhile isCommentChar
  | r => r

/-- The text after a line break at its front. -/
def newline? : List Char → Option (List Char)
  | '\n' :: r => some r
  | '\r' :: '\n' :: r => some r
  | _ => none

/-- The rest of a line after its last value: spaces, a comment, and a break or the end. -/
def lineEnd (cs : List Char) : Option (List Char) :=
  match skipComment (skipSpace cs) with
  | [] => some []
  | r => newline? r

/-- The text without the blank lines and comments at its front; `fuel` bounds their number. -/
def skipLines : Nat → List Char → List Char
  | 0, cs => cs
  | fuel + 1, cs =>
    let r := skipSpace cs
    match newline? (skipComment r) with
    | some r => skipLines fuel r
    | none => r

/-! ### Strings -/

/-- A character that may stand in a string as it is. -/
def isTextChar (c : Char) : Bool := c = '\t' || (0x20 ≤ c.toNat && c.toNat ≠ 0x7F)

/-- The character of this number, if there is one. -/
def scalar? (n : Nat) : Option Char :=
  let c := Char.ofNat n
  if c.toNat = n then some c else none

/-- The character of the escape after a backslash. -/
def escape : Scanner Char
  | 'b' :: r => some ('\x08', r)
  | 't' :: r => some ('\t', r)
  | 'n' :: r => some ('\n', r)
  | 'f' :: r => some ('\x0c', r)
  | 'r' :: r => some ('\r', r)
  | '"' :: r => some ('"', r)
  | '\\' :: r => some ('\\', r)
  | 'u' :: a :: b :: c :: d :: r => do
    return (← scalar? (← Hex.ofDigits? [a, b, c, d]), r)
  | 'U' :: a :: b :: c :: d :: e :: f :: g :: h :: r => do
    return (← scalar? (← Hex.ofDigits? [a, b, c, d, e, f, g, h]), r)
  | _ => none

/-- The rest of a string on one line after its opening quote; `acc` holds what has been read, last
character first. -/
def basic (acc : List Char) : Nat → Scanner String
  | 0, _ => none
  | fuel + 1, cs =>
    match cs with
    | '"' :: r => some (String.ofList acc.reverse, r)
    | '\\' :: r =>
      match escape r with
      | some (c, r) => basic (c :: acc) fuel r
      | none => none
    | c :: r => if isTextChar c then basic (c :: acc) fuel r else none
    | [] => none

/-- The rest of a literal string on one line after its opening quote. -/
def literal (cs : List Char) : Option (String × List Char) :=
  let (body, r) := cs.span fun c => isTextChar c && c ≠ '\''
  match r with
  | '\'' :: r => some (String.ofList body, r)
  | _ => none

/-- Spaces and line breaks at the front of a text. -/
def skipBlank (cs : List Char) : List Char :=
  cs.dropWhile fun c => isSpace c || c = '\n' || c = '\r'

/-- A carriage return without a line feed stands among the blanks at the front of a text. -/
def strayReturn : List Char → Bool
  | '\r' :: '\n' :: r => strayReturn r
  | '\r' :: _ => true
  | c :: r => if isSpace c || c = '\n' then strayReturn r else false
  | [] => false

/-- Quotes at the end of a string of several lines: all of them but the last three belong to the
text, which can be two at most. -/
def closing (quote : Char) (acc : List Char) (cs : List Char) : Option (String × List Char) :=
  let (quotes, r) := cs.span (· = quote)
  if quotes.length ≤ 5 then
    some (String.ofList (acc.reverse ++ List.replicate (quotes.length - 3) quote), r)
  else
    some (String.ofList (acc.reverse ++ [quote, quote]),
      List.replicate (quotes.length - 5) quote ++ r)

/-- The rest of a string of several lines. -/
def multiBasic (acc : List Char) : Nat → Scanner String
  | 0, _ => none
  | fuel + 1, cs =>
    match cs with
    | '"' :: '"' :: '"' :: _ => closing '"' acc cs
    | '\\' :: r =>
      match newline? (skipSpace r) with
      | some r => if strayReturn r then none else multiBasic acc fuel (skipBlank r)
      | none =>
        match escape r with
        | some (c, r) => multiBasic (c :: acc) fuel r
        | none => none
    | c :: r =>
      match newline? cs with
      | some r => multiBasic ('\n' :: acc) fuel r
      | none => if isTextChar c then multiBasic (c :: acc) fuel r else none
    | [] => none

/-- The rest of a literal string of several lines. -/
def multiLiteral (acc : List Char) : Nat → Scanner String
  | 0, _ => none
  | fuel + 1, cs =>
    match cs with
    | '\'' :: '\'' :: '\'' :: _ => closing '\'' acc cs
    | c :: r =>
      match newline? cs with
      | some r => multiLiteral ('\n' :: acc) fuel r
      | none => if isTextChar c then multiLiteral (c :: acc) fuel r else none
    | [] => none

/-- The text without a line break at its front. -/
def dropNewline (cs : List Char) : List Char := (newline? cs).getD cs

/-- A string on one line, as it may stand for a key. -/
def lineString : Scanner String
  | '"' :: r => basic [] (r.length + 1) r
  | '\'' :: r => literal r
  | _ => none

/-- A string in any form. -/
def string : Scanner String
  | '"' :: '"' :: '"' :: r => multiBasic [] (r.length + 1) (dropNewline r)
  | '\'' :: '\'' :: '\'' :: r => multiLiteral [] (r.length + 1) (dropNewline r)
  | r => lineString r

/-- A character of a key without quotes. -/
def isBareKeyChar (c : Char) : Bool := c.isAlphanum || c = '-' || c = '_'

/-- A key without quotes. -/
def bareKey (cs : List Char) : Option (String × List Char) :=
  let (key, r) := cs.span isBareKeyChar
  if key.isEmpty then none else some (String.ofList key, r)

end Toml

end TransactionalTest
