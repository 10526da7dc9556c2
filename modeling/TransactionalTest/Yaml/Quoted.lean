import TransactionalTest.Yaml.Cursor

/-!
# Scalars in quotes

Inside quotes a single line break folds to a space and more of them to one less.  Double quotes
know escapes, and a backslash before a line break takes that break away.

* `Quoted.escape?` — the character of an escape;
* `Quoted.read?` — a whole scalar, from its opening quote to what follows the closing one.
-/

namespace TransactionalTest

namespace Yaml

/-- The line breaks inside a scalar that is being read, and what they fold to. -/
structure Fold where
  /-- There has been a line break that folds. -/
  first : Bool := false
  /-- How many have come after it. -/
  more : Nat := 0

namespace Fold

/-- What the breaks leave in the text. -/
def text (f : Fold) : List Char :=
  if f.first && f.more == 0 then [' '] else List.replicate f.more '\n'

end Fold

namespace Quoted

/-- The escapes of one character. -/
def named : List (Char × Char) :=
  [('0', '\x00'), ('a', '\x07'), ('b', '\x08'), ('t', '\t'), ('\t', '\t'), ('n', '\n'),
    ('v', '\x0b'), ('f', '\x0c'), ('r', '\r'), ('e', '\x1b'), (' ', ' '), ('"', '"'), ('/', '/'),
    ('\\', '\\'), ('N', '\x85'), ('_', '\xa0'), ('L', '\u2028'), ('P', '\u2029')]

/-- How many hexadecimal digits follow the sign of an escape that gives a number. -/
def digits : List (Char × Nat) := [('x', 2), ('u', 4), ('U', 8)]

/-- The character of a number. -/
def ofNumber? (n : Nat) : Option Char :=
  if (Char.ofNat n).toNat = n then some (Char.ofNat n) else none

/-- The character of the escape after a backslash, and how many characters write it. -/
def escape? : List Char → Option (Char × Nat)
  | [] => none
  | c :: r =>
    match named.lookup c with
    | some d => some (d, 1)
    | none => do
      let n ← digits.lookup c
      let ds := r.take n
      if ds.length < n then none
      else return (← ofNumber? (← Hex.ofDigits? ds), n + 1)

/-- The characters up to the next blank, line break or closing quote; `acc` holds what has been
read, last character first.  A backslash at the end of a line ends them too, and goes with the
break, of which the answer gives word. -/
def word? (double : Bool) :
    Nat → List Char → Cursor → Option (List Char × Bool × Cursor)
  | 0, acc, c => some (acc, false, c)
  | fuel + 1, acc, c =>
    match c.rest with
    | [] => some (acc, false, c)
    | d :: r =>
      if isSpace d then some (acc, false, c)
      else if !double && d = '\'' then
        if r.head? = some '\'' then word? double fuel ('\'' :: acc) (c.advance 2)
        else some (acc, false, c)
      else if double && d = '"' then some (acc, false, c)
      else if double && d = '\\' then
        if r.head?.any isBreak then some (acc, true, (c.advance 1).newline)
        else
          match escape? r with
          | some (e, n) => word? double fuel (e :: acc) (c.advance (n + 1))
          | none => none
      else word? double fuel (d :: acc) (c.advance 1)

/-- The blanks and line breaks between two words, and what they leave in the text.  After a break
blanks are dropped; a tab must not stand there before column `indent`.  `broken` is set once there
has been a break, `blanks` holds those before it, last one first. -/
def between? (indent : Int) :
    Nat → Bool → Fold → List Char → Cursor → Option (List Char × Cursor)
  | 0, _, _, _, _ => none
  | fuel + 1, broken, fold, blanks, c =>
    if c.sees isBlank then
      if broken then
        if c.peek = some '\t' && c.column < indent then none
        else between? indent fuel broken fold blanks (c.skip 1)
      else between? indent fuel broken fold (c.peek.toList ++ blanks) (c.skip 1)
    else if c.sees isBreak then
      if broken then between? indent fuel true { fold with more := fold.more + 1 } [] c.newline
      else between? indent fuel true { fold with first := true } [] c.newline
    else some (if broken then fold.text else blanks.reverse, c)

/-- The text of a scalar after its opening quote, and the cursor at the closing one. -/
def body? (double : Bool) (indent : Int) :
    Nat → List Char → Cursor → Option (List Char × Cursor)
  | 0, _, _ => none
  | fuel + 1, acc, c =>
    if c.atStartMark || c.atEndMark || c.atEnd || c.column < indent then none
    else do
      let (acc, broken, c) ← word? double (c.rest.length + 1) acc c
      if c.peek = some (if double then '"' else '\'') then return (acc.reverse, c)
      let (joint, c) ← between? indent (c.rest.length + 1) broken {} [] c
      body? double indent fuel (joint.reverse ++ acc) c

/-- What may follow the closing quote: the end of the line, a colon if the scalar can be a key,
and between brackets a sign of theirs. -/
def mayFollow (flow sameLine : Bool) (c : Cursor) : Bool :=
  c.atLineEnd || (c.peek = some ':' && (flow || sameLine)) ||
    (flow && c.sees fun d => d = ',' || d = ']' || d = '\x7d')

/-- A scalar at a cursor: its text, and the cursor after it. -/
def read? (flow : Bool) (indent : Int) (c : Cursor) : Option (String × Cursor) := do
  let (text, close) ← body? (c.peek = some '"') indent (c.rest.length + 1) [] (c.advance 1)
  let (_, after) ← (close.advance 1).gap?
  if mayFollow flow (c.line == after.line) after then return (String.ofList text, after) else none

end Quoted

end Yaml

end TransactionalTest
