import TransactionalTest.Yaml.Cursor

/-!
# Block scalars

The lines below a header, without their common indentation.  In the literal style they are kept;
in the folded one a break between two lines that start with text becomes a space.  The header says
how the text ends.

* `Block.header?` — the header;
* `Block.read?` — a whole scalar.
-/

namespace TransactionalTest

namespace Yaml

/-- How a block scalar ends: with one line break if it has text, without any, or with all that
come. -/
inductive Chomp where
  | clip
  | strip
  | keep
  deriving DecidableEq, Repr

namespace Block

/-- What the header says besides the style: how the scalar ends, and by how much it is indented if
that is given. -/
structure Header where
  chomp : Chomp := .clip
  more : Option Nat := none

/-- The end that a sign stands for. -/
def chompOf? (d : Char) : Option Chomp :=
  if d = '+' then some .keep else if d = '-' then some .strip else none

/-- The indentation that a digit gives; it must not be zero. -/
def moreOf? (d : Char) : Option Nat := if d.isDigit && d ≠ '0' then some (d.toNat - 48) else none

/-- The signs after the style, at most one of each kind, in either order; then the line ends. -/
def header? (c : Cursor) : Option (Header × Cursor) := do
  let first := c.peek
  let second := c.peekAt 1
  let h : Header × Nat :=
    match first.bind chompOf?, first.bind moreOf? with
    | some e, _ =>
      match second.bind moreOf? with
      | some n => (⟨e, some n⟩, 2)
      | none => (⟨e, none⟩, 1)
    | none, some n =>
      match second.bind chompOf? with
      | some e => (⟨e, some n⟩, 2)
      | none => (⟨.clip, some n⟩, 1)
    | none, none => ({}, 0)
  let (_, after) ← (c.advance h.2).gap?
  if after.atLineEnd then return (h.1, after) else none

/-- How many spaces come next. -/
def spaces (c : Cursor) : Nat := (c.rest.takeWhile (· = ' ')).length

/-- The indentation of the first line with text and of those before it, the deepest of all, and
how many lines come before it. -/
def firstIndent : Nat → Nat → Nat → Cursor → Nat × Nat × Cursor
  | 0, deepest, n, c => (deepest, n, c)
  | fuel + 1, deepest, n, c =>
    let c := c.skip (spaces c)
    let deepest := max deepest c.column
    if c.sees isBreak then firstIndent fuel deepest (n + 1) c.newline else (deepest, n, c)

/-- Up to `indent` spaces of the next line, and of the lines before it that end within them; and
how many such lines there are. -/
def skipIndent (indent : Nat) : Nat → Nat → Cursor → Nat × Cursor
  | 0, n, c => (n, c)
  | fuel + 1, n, c =>
    let c := c.skip (min (indent - c.column) (spaces c))
    if c.sees isBreak then skipIndent indent fuel (n + 1) c.newline else (n, c)

/-- The lines of a scalar being read. -/
structure Lines where
  /-- The text, last character first. -/
  text : List Char := []
  /-- The last line has ended. -/
  ended : Bool := false
  /-- How many empty lines have come after it. -/
  empty : Nat := 0
  /-- The last line starts with a blank. -/
  indented : Bool := false

/-- What stands between the lines so far and the next one. -/
def joint (literal blank : Bool) (l : Lines) : List Char :=
  if !literal && l.ended && !l.indented && !blank then
    if l.empty == 0 then [' '] else List.replicate l.empty '\n'
  else List.replicate (l.ended.toNat + l.empty) '\n'

/-- The lines from one at column `indent` on. -/
def lines (literal : Bool) (indent : Nat) : Nat → Lines → Cursor → Lines × Cursor
  | 0, l, c => (l, c)
  | fuel + 1, l, c =>
    if c.column ≠ indent || c.atEnd || (indent == 0 && c.atEndMark) then (l, c)
    else
      let blank := c.sees isBlank
      let cs := c.rest.takeWhile fun d => !isBreak d
      let text := cs.reverse ++ joint literal blank l ++ l.text
      let c := c.skip cs.length
      if c.atEnd then ({ text, indented := blank }, c)
      else
        let (empty, c) := skipIndent indent (c.rest.length + 1) 0 c.newline
        lines literal indent fuel { text, ended := true, empty, indented := blank } c

/-- The line breaks at the end of a scalar.  A last line without a break counts as ended if it
reaches column `indent`. -/
def ending (chomp : Chomp) (indent : Nat) (l : Lines) (c : Cursor) : List Char :=
  match chomp with
  | .strip => []
  | .clip | .keep =>
    let last := c.atEnd && max indent 1 ≤ c.column
    List.replicate
      (l.ended.toNat + last.toNat + (if chomp = .keep then l.empty else 0)) '\n'

/-- The text of a scalar without lines, at the end of the file: `broken` if the header's line has
ended, `empty` lines after it. -/
def bare (chomp : Chomp) (broken sameLine : Bool) (empty : Nat) : List Char :=
  if sameLine || chomp = .strip then []
  else if chomp = .keep && empty ≠ 0 then List.replicate empty '\n'
  else List.replicate broken.toNat '\n'

/-- A scalar at a cursor, inside something indented to `indent`. -/
def read? (indent : Int) (c : Cursor) : Option (String × Cursor) := do
  let (h, c₁) ← header? (c.advance 1)
  let broken := c₁.sees isBreak
  let start := if broken then c₁.newline else c₁
  if start.peek = some '\t' then none
  else
    let fuel := start.rest.length + 1
    let (depth, empty, first) :=
      match h.more with
      | some n =>
        let depth := (max indent 0 + n).toNat
        let (empty, first) := skipIndent depth fuel 0 start
        (depth, empty, first)
      | none =>
        let (deepest, empty, first) := firstIndent fuel 0 0 start
        (max deepest (indent + 1).toNat, empty, first)
    if first.atEnd then
      return (String.ofList (bare h.chomp broken (first.line == c.line) empty), first)
    else if first.column < depth && indent < first.column then none
    else
      let (l, after) := lines (c.peek = some '|') depth fuel { empty } first
      return (String.ofList (l.text.reverse ++ ending h.chomp depth l after), after)

end Block

end Yaml

end TransactionalTest
