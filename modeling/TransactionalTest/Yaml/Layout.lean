import TransactionalTest.Yaml.Token

/-!
# Reading tokens

A text is read from the front, one sign or scalar after another.  The indentation of blocks and
the starts of keys, which only the colon behind them gives away, are kept track of on the way.

* `Yaml.Layout` — what has been read, and what it leaves open;
* `Layout.next?` — one step;
* `Token.ofText?` — all tokens of a text.
-/

namespace TransactionalTest

namespace Yaml

/-- A place where a key may have started: how many tokens come before, and where it is. -/
structure KeyStart where
  token : Nat
  index : Nat
  line : Nat
  column : Nat
  /-- Nothing but a key can stand there. -/
  required : Bool

/-- An indentation that has been left for a deeper one. -/
structure Indent where
  column : Int
  /-- The deeper one is that of a block, and not the one column that sets off a value. -/
  block : Bool

/-- What has been read of a text, and what it leaves open. -/
structure Layout where
  cursor : Cursor
  tokens : Array Token := #[]
  /-- A key may start here. -/
  keyAllowed : Bool := true
  /-- For the block and every open bracket, the innermost first, where a key may have started. -/
  keys : List (Option KeyStart) := [none]
  indent : Int := -1
  indents : List Indent := []
  /-- How many brackets are open. -/
  flow : Nat := 0
  /-- The index at which a colon needs no space after it. -/
  adjacent : Nat := 0
  /-- There has been a mapping between brackets, or a question mark between them. -/
  mapped : Bool := false
  /-- A pair stands in a sequence, and its mapping has been begun for it. -/
  paired : Bool := false

namespace Layout

/-! ### Tokens and cursor -/

/-- Put a token at the end. -/
def push (t : Token) (l : Layout) : Layout := { l with tokens := l.tokens.push t }

/-- Put a token after so many others. -/
def insert (n : Nat) (t : Token) (l : Layout) : Layout :=
  { l with tokens := (l.tokens.extract 0 n).push t ++ l.tokens.extract n l.tokens.size }

/-- Go on at a cursor. -/
def goto (c : Cursor) (l : Layout) : Layout := { l with cursor := c }

/-- Pass over so many signs. -/
def advance (n : Nat) (l : Layout) : Layout := l.goto (l.cursor.advance n)

/-- Pass over what may follow on the line before the next token. -/
def gap? (l : Layout) : Option Layout := l.cursor.gap?.map fun r => l.goto r.2

/-- A key may start next, or not. -/
def allowKey (b : Bool) (l : Layout) : Layout := { l with keyAllowed := b }

/-- Brackets are open. -/
def inFlow (l : Layout) : Bool := 0 < l.flow

/-! ### Keys -/

/-- The innermost place where a key may have started. -/
def keyStart (l : Layout) : Option KeyStart := l.keys.head?.join

/-- Replace the innermost place where a key may have started. -/
def setKeyStart (k : Option KeyStart) (l : Layout) : Layout := { l with keys := k :: l.keys.drop 1 }

/-- The last indentation is that of a block. -/
def inBlock (l : Layout) : Bool := l.indents.head?.any Indent.block

/-- A key may start with the next token. -/
def saveKey (l : Layout) : Layout :=
  if l.keyAllowed then
    let c := l.cursor
    let required := !l.inFlow && l.indent == c.column && l.inBlock
    l.setKeyStart (some ⟨l.tokens.size, c.index, c.line, c.column, required⟩)
  else l

/-- No key has started at the innermost place. -/
def dropKey? (l : Layout) : Option Layout :=
  if l.keyStart.any KeyStart.required then none else some (l.setKeyStart none)

/-- A key stands on one line, and its colon comes within this many characters. -/
def maxKeyLength : Nat := 1024

/-- The key would be too long by now. -/
def isStale (c : Cursor) (k : KeyStart) : Bool :=
  k.line < c.line || k.index + maxKeyLength < c.index

/-- Give up on the keys that would be too long, outside of brackets. -/
def dropStale? (l : Layout) : Option Layout :=
  let stale := isStale l.cursor
  if l.inFlow then some l
  else if l.keys.any fun k => k.any fun k => k.required && stale k then none
  else some { l with keys := l.keys.map fun k => k.filter fun k => !stale k }

/-! ### Indentation -/

/-- A block begins at a column if that is deeper than the last one.  Its token goes to the end, or
after so many others. -/
def openBlock (column : Nat) (after : Option Nat) (t : Token) (l : Layout) : Layout :=
  if l.inFlow then l
  else
    let l :=
      match l.indents with
      | i :: r =>
        if l.indent ≤ (column : Int) && !i.block then { l with indent := i.column, indents := r }
        else l
      | [] => l
    if l.indent < (column : Int) then
      let l := { l with indent := (column : Int), indents := ⟨l.indent, true⟩ :: l.indents }
      match after with
      | some n => l.insert n t
      | none => l.push t
    else l

/-- The tokens that end the blocks deeper than a column, and the indentation that is left. -/
def closing (column : Int) : Int → List Indent → Nat × Int × List Indent
  | indent, [] => (0, indent, [])
  | indent, i :: r =>
    if column < indent then
      let (n, indent, rest) := closing column i.column r
      (n + i.block.toNat, indent, rest)
    else (0, indent, i :: r)

/-- The blocks deeper than a column end. -/
def closeBlocks (column : Int) (l : Layout) : Layout :=
  if l.inFlow then l
  else
    let (n, indent, indents) := closing column l.indent l.indents
    { l with indent, indents, tokens := l.tokens ++ Array.replicate n Token.blockEnd }

/-- What comes next is set off by one column from a block. -/
def setOff (l : Layout) : Layout :=
  if !l.inFlow && l.inBlock then
    { l with indent := l.indent + 1, indents := ⟨l.indent, false⟩ :: l.indents }
  else l

/-- The indentation without the columns that set off values. -/
def blockIndent : Int → List Indent → Int × List Indent
  | indent, [] => (indent, [])
  | indent, i :: r => if i.block then (indent, i :: r) else blockIndent i.column r

/-- Take back the columns that set off values. -/
def dropSetOff (l : Layout) : Layout :=
  let (indent, indents) := blockIndent l.indent l.indents
  { l with indent, indents }

/-! ### Brackets -/

/-- How many brackets may be open. -/
def maxFlow : Nat := 255

/-- A bracket opens. -/
def openFlow? (t : Token) (l : Layout) : Option Layout := do
  let l := l.saveKey.setOff
  if maxFlow ≤ l.flow then none
  else
    let l := { l with flow := l.flow + 1, keys := none :: l.keys }
    let l := { l with mapped := l.mapped || t == Token.flowMapping }
    return (← ((l.allowKey true).advance 1).gap?).push t

/-- End the mapping that has been begun for a pair. -/
def endPair (l : Layout) : Layout :=
  if l.paired then { l with paired := false, mapped := false }.push .flowMappingEnd else l

/-- A bracket closes. -/
def closeFlow? (t : Token) (l : Layout) : Option Layout := do
  let l ← l.dropKey?
  let l := if l.inFlow then { l with flow := l.flow - 1, keys := l.keys.drop 1 } else l
  let l := l.allowKey false
  let l := if t == Token.flowSequenceEnd then l.endPair else l
  let l ← (l.advance 1).gap?
  let l := if l.inFlow then { l with adjacent := l.cursor.index } else l
  return l.push t

/-- A comma between brackets. -/
def flowEntry? (l : Layout) : Option Layout := do
  let l := ((← l.dropKey?).allowKey true).endPair
  return (← (l.advance 1).gap?).push .flowEntry

/-! ### Blocks -/

/-- A hyphen that begins an item. -/
def blockEntry? (l : Layout) : Option Layout := do
  if l.inFlow || !l.keyAllowed then none
  else
    let column := l.cursor.column
    let l := (l.advance 1).openBlock column none .blockSequence
    let (blanks, c) ← l.cursor.gap?
    if blanks.contains '\t' && c.peek = some '-' && c.spaceAt 1 then none
    else
      let l := l.goto c
      let l := if c.sees isBreak || c.sees isFlowSign then l.setOff else l
      return ((← l.dropKey?).allowKey true).push .blockEntry

/-- The spaces, comments and line breaks after a question mark.  There must be a space or a break,
and no tab after them. -/
def afterKey? : Nat → Bool → Cursor → Option Cursor
  | 0, _, _ => none
  | fuel + 1, spaced, c =>
    if c.peek = some ' ' then afterKey? fuel true (c.skip 1)
    else if c.sees isBreak then afterKey? fuel true c.newline
    else if c.peek = some '#' then afterKey? fuel spaced (c.skipWhile fun d => !isBreak d)
    else if spaced && c.peek ≠ some '\t' then some c
    else none

/-- A question mark that begins a key. -/
def key? (l : Layout) : Option Layout := do
  if !l.inFlow && !l.keyAllowed then none
  else
    let l :=
      if l.inFlow then { l with mapped := true }
      else l.openBlock l.cursor.column none .blockMapping
    let l := (← l.dropKey?).allowKey !l.inFlow
    let c := l.cursor.advance 1
    return (l.goto (← afterKey? (c.rest.length + 1) false c)).push .key

/-- A colon after a key that has started before it, or after nothing.  In a sequence between
brackets a mapping is begun for the pair. -/
def value? (l : Layout) : Option Layout := do
  let start := l.cursor
  let paired := l.inFlow && !l.mapped
  let l := { l with paired }.advance 1
  let l ←
    if l.cursor.peek = some '\t' then
      match l.cursor.gap? with
      | some (blanks, c) =>
        if !blanks.contains ' ' && c.sees isNameChar then none else some (l.goto c)
      | none => none
    else some l
  match l.keyStart with
  | some k =>
    if paired && k.line < start.line then none
    else
      let l := l.insert k.token .key
      let l := if paired then l.insert k.token .flowMapping else l
      let l := (l.openBlock k.column (some k.token) .blockMapping).setOff
      return ((l.setKeyStart none).allowKey false).push .value
  | none =>
    let l := if paired then l.push .flowMapping else l
    if !l.inFlow && !l.keyAllowed then none
    else
      let l := l.openBlock start.column none .blockMapping
      return (l.setOff.allowKey !l.inFlow).push .value

/-! ### Scalars, names and marks -/

/-- Blanks, comments and line breaks; outside of brackets a key may start on a new line. -/
def toToken? (l : Layout) : Option Layout :=
  let c := l.cursor
  (c.toToken (!l.indents.isEmpty) l.indent (c.rest.length + 1) false).map fun r =>
    (l.goto r.2).allowKey (l.keyAllowed || (r.1 && !l.inFlow))

/-- A name or a tag, which may belong to a key. -/
def property? (r : Option (Token × Cursor)) (l : Layout) : Option Layout :=
  r.map fun r => ((l.saveKey.allowKey false).goto r.2).push r.1

/-- A scalar in quotes. -/
def quoted? (l : Layout) : Option Layout := do
  let l := l.saveKey.allowKey false
  let (text, c) ← Quoted.read? l.inFlow l.indent l.cursor
  let l ← (l.goto c).toToken?
  return { l with adjacent := l.cursor.index }.push (.scalar false text)

/-- A block scalar. -/
def block? (l : Layout) : Option Layout := do
  let l := (l.saveKey.allowKey true).dropSetOff
  let (text, c) ← Block.read? l.indent l.cursor
  return (l.goto c).push (.scalar false text)

/-- A plain scalar.  If it ends on a new line, a key may start there. -/
def plain? (l : Layout) : Option Layout := do
  let l := (l.saveKey.allowKey false).dropSetOff
  let (text, c) ← Plain.read? l.inFlow l.indent l.cursor
  return ((l.goto c).allowKey c.fresh).push (.scalar true text)

/-- A directive. -/
def directive? (l : Layout) : Option Layout := do
  let l := (← (l.closeBlocks (-1)).dropKey?).allowKey false
  let (t, c) ← Token.directive? l.cursor
  return (l.goto c).push t

/-- A mark before or after a document. -/
def mark? (t : Token) (l : Layout) : Option Layout := do
  let l := (← (l.closeBlocks (-1)).dropKey?).allowKey false
  return (l.advance 3).push t

/-- The mark after a document, with the rest of its line. -/
def endMark? (l : Layout) : Option Layout := do
  let l ← (← l.mark? .documentEnd).gap?
  if l.cursor.atLineEnd then return l else none

/-- The token that the next character begins. -/
def token? (d : Char) (l : Layout) : Option Layout :=
  let c := l.cursor
  let spaced := c.spaceAt 1
  if d = '[' then l.openFlow? .flowSequence
  else if d = '\x7b' then l.openFlow? .flowMapping
  else if d = ']' then l.closeFlow? .flowSequenceEnd
  else if d = '\x7d' then l.closeFlow? .flowMappingEnd
  else if d = ',' then l.flowEntry?
  else if d = '-' && spaced then l.blockEntry?
  else if d = '?' && spaced then l.key?
  else if d = ':' && (spaced || (l.inFlow && (c.seesAt 1 isFlowSign || c.index == l.adjacent))) then
    l.value?
  else if d = '*' then l.property? ((Token.name? c).map fun r => (.reference r.1, r.2))
  else if d = '&' then l.property? ((Token.name? c).map fun r => (.anchor r.1, r.2))
  else if d = '!' then l.property? (Token.tag? l.inFlow c)
  else if (d = '|' || d = '>') && !l.inFlow then l.block?
  else if d = '\'' || d = '"' then l.quoted?
  else if d = '%' || d = '@' || d.toNat = 0x60 then none
  else l.plain?

/-- One step: the next token, or nothing more at the end of the text. -/
def next? (l : Layout) : Option (Layout × Bool) := do
  let l ← (← l.toToken?).dropStale?
  let c := l.cursor
  let l := l.closeBlocks c.column
  match c.peek with
  | none =>
    if l.keys.any fun k => k.any KeyStart.required then none
    else return (l.closeBlocks (-1), false)
  | some d =>
    let l ←
      if c.column == 0 && d = '%' then l.directive?
      else if c.atStartMark then l.mark? .documentStart
      else if c.atEndMark then l.endMark?
      else if c.column < l.indent then none
      else l.token? d
    return (l, true)

/-- All steps to the end of the text; `fuel` bounds their number. -/
def run? : Nat → Layout → Option (Array Token)
  | 0, _ => none
  | fuel + 1, l =>
    match l.next? with
    | none => none
    | some (l, true) => run? fuel l
    | some (l, false) => some l.tokens

end Layout

/-- The tokens of a text. -/
def Token.ofText? (s : String) : Option (List Token) :=
  let c := Cursor.ofText s
  (Layout.run? (c.rest.length + 1) { cursor := c }).map Array.toList

end Yaml

end TransactionalTest
