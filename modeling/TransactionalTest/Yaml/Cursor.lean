import TransactionalTest.Text.Hex

/-!
# Places in a YAML text

* `Yaml.isBreak`, `Yaml.isFlowSign`, … — the classes of characters;
* `Yaml.Cursor` — the rest of a text and the place where it starts;
* `Cursor.gap?` — the blanks and the comment that may end a line.

Line breaks are line feeds: `Cursor.ofText` replaces the others, and it ends the text at the first
character `U+0000`.
-/

namespace TransactionalTest

namespace Yaml

/-! ### Characters -/

/-- A blank within a line. -/
def isBlank (c : Char) : Bool := c = ' ' || c = '\t'

/-- A line break. -/
def isBreak (c : Char) : Bool := c = '\n'

/-- A blank or a line break. -/
def isSpace (c : Char) : Bool := isBlank c || isBreak c

/-- The signs of flow collections. -/
def isFlowSign (c : Char) : Bool :=
  c = ',' || c = '[' || c = ']' || c = '\x7b' || c = '\x7d'

/-- A character of the name of a directive or of a tag handle. -/
def isNameChar (c : Char) : Bool := c.isAlphanum || c = '-' || c = '_'

/-- A character of the name of an anchor. -/
def isAnchorChar (c : Char) : Bool := !isSpace c && !isFlowSign c && c ≠ '\uFEFF'

/-- A character of a URI. -/
def isUriChar (c : Char) : Bool :=
  c.isAlphanum || "-#;/?:@&=+$,_.!~*'()[]%".toList.contains c

/-- A character of a tag after its handle. -/
def isTagChar (c : Char) : Bool := isUriChar c && !isFlowSign c && c ≠ '!'

/-! ### Cursors -/

/-- The rest of a text and the place where it starts. -/
structure Cursor where
  rest : List Char
  /-- How many characters come before. -/
  index : Nat := 0
  line : Nat := 0
  column : Nat := 0
  /-- Nothing but blanks comes before on the line. -/
  fresh : Bool := true
  deriving Repr

/-- The text with line feeds for all line breaks. -/
def unifyBreaks : List Char → List Char
  | [] => []
  | '\r' :: '\n' :: r => '\n' :: unifyBreaks r
  | '\r' :: r => '\n' :: unifyBreaks r
  | c :: r => c :: unifyBreaks r

namespace Cursor

/-- The start of a text. -/
def ofText (s : String) : Cursor :=
  { rest := unifyBreaks (s.toList.takeWhile (· ≠ '\x00')) }

/-- The next character. -/
def peek (c : Cursor) : Option Char := c.rest.head?

/-- The character after so many others. -/
def peekAt (n : Nat) (c : Cursor) : Option Char := c.rest[n]?

/-- The next character is of a class. -/
def sees (p : Char → Bool) (c : Cursor) : Bool := c.peek.any p

/-- The character after so many others is of a class. -/
def seesAt (n : Nat) (p : Char → Bool) (c : Cursor) : Bool := (c.peekAt n).any p

/-- The text ends here. -/
def atEnd (c : Cursor) : Bool := c.rest.isEmpty

/-- The line ends here. -/
def atLineEnd (c : Cursor) : Bool := c.atEnd || c.sees isBreak

/-- A space, a line break or the end of the text comes after so many characters. -/
def spaceAt (n : Nat) (c : Cursor) : Bool := (c.peekAt n).all isSpace

/-- The cursor after so many blanks. -/
def skip (n : Nat) (c : Cursor) : Cursor :=
  { c with rest := c.rest.drop n, index := c.index + n, column := c.column + n }

/-- The cursor after so many characters that are not all blanks. -/
def advance (n : Nat) (c : Cursor) : Cursor := { c.skip n with fresh := false }

/-- The cursor after the line break. -/
def newline (c : Cursor) : Cursor :=
  { rest := c.rest.drop 1, index := c.index + 1, line := c.line + 1, column := 0, fresh := true }

/-- The characters of a class that come next, and the cursor after them. -/
def span (p : Char → Bool) (c : Cursor) : List Char × Cursor :=
  let cs := c.rest.takeWhile p
  (cs, if cs.isEmpty then c else c.advance cs.length)

/-- The cursor after the blanks of a class. -/
def skipWhile (p : Char → Bool) (c : Cursor) : Cursor := c.skip (c.rest.takeWhile p).length

/-- A line of the text begins here with a mark of three characters. -/
def atMark (mark : List Char) (c : Cursor) : Bool :=
  c.column == 0 && mark.isPrefixOf c.rest && c.spaceAt 3

/-- The mark before a document. -/
def atStartMark (c : Cursor) : Bool := c.atMark ['-', '-', '-']

/-- The mark after a document. -/
def atEndMark (c : Cursor) : Bool := c.atMark ['.', '.', '.']

/-- Blanks and a comment, which blanks must set off; what is left of the line comes after them.
Along with the cursor there, the blanks. -/
def gap? (c : Cursor) : Option (List Char × Cursor) :=
  let blanks := c.rest.takeWhile isBlank
  let after := c.skip blanks.length
  if after.peek = some '#' then
    if blanks.isEmpty then none else some (blanks, after.skipWhile fun d => !isBreak d)
  else some (blanks, after)

/-- The next token, after blanks, comments and line breaks, with word of a line break among them;
`fuel` bounds the number of steps.  In a block a tab is no indentation: before column `indent` it
may only stand on a line without text. -/
def toToken (block : Bool) (indent : Int) : Nat → Bool → Cursor → Option (Bool × Cursor)
  | 0, crossed, c => some (crossed, c)
  | fuel + 1, crossed, c =>
    match c.rest with
    | [] => some (crossed, c)
    | d :: _ =>
      if d = '\t' && block && c.fresh && c.column < indent then
        match c.gap? with
        | some (_, c) => if c.atLineEnd then toToken block indent fuel crossed c else none
        | none => none
      else if isBlank d then toToken block indent fuel crossed (c.skip 1)
      else if isBreak d then toToken block indent fuel true c.newline
      else if d = '#' then
        toToken block indent fuel crossed (c.skipWhile fun e => !isBreak e)
      else some (crossed, c)

end Cursor

end Yaml

end TransactionalTest
