import TransactionalTest.Yaml.Block
import TransactionalTest.Yaml.Plain

/-!
# The tokens of a YAML text

* `Yaml.Token` — what a text is made of, indentation included;
* `Token.directive?`, `Token.tag?`, `Token.name?` — the tokens that are read from a single place
  and are no scalars.
-/

namespace TransactionalTest

namespace Yaml

/-- A token.  The ends of blocks and, for all blocks and for pairs between brackets, the starts are
tokens too, although no sign in the text stands for them. -/
inductive Token where
  | version
  | handle (name uri : String)
  | documentStart
  | documentEnd
  | blockSequence
  | blockMapping
  | blockEnd
  | blockEntry
  | flowSequence
  | flowSequenceEnd
  | flowMapping
  | flowMappingEnd
  | flowEntry
  | key
  | value
  | reference (name : String)
  | anchor (name : String)
  | tag (handle suffix : String)
  | scalar (plain : Bool) (text : String)
  deriving DecidableEq, Repr

namespace Token

/-! ### Tags -/

/-- The number of bytes that a first byte of UTF-8 announces. -/
def byteCount? (b : Nat) : Option Nat :=
  if b < 0x80 then some 1
  else if b < 0xC0 then none
  else if b < 0xE0 then some 2
  else if b < 0xF0 then some 3
  else if b < 0xF8 then some 4
  else none

/-- So many further bytes of an escaped character, each in two digits after a percent sign.  The
bytes are put together as they are. -/
def furtherBytes? : Nat → Nat → List Char → Option (Nat × List Char)
  | 0, code, cs => some (code, cs)
  | n + 1, code, cs =>
    match cs with
    | '%' :: a :: b :: r => do
      let byte ← Hex.ofDigits? [a, b]
      if 0x80 ≤ byte ∧ byte < 0xC0 then furtherBytes? n (code * 0x100 + byte) r else none
    | _ => none

/-- An escaped character, and how many characters write it. -/
def uriEscape? : List Char → Option (Char × Nat)
  | '%' :: a :: b :: r => do
    let byte ← Hex.ofDigits? [a, b]
    let n ← byteCount? byte
    let (code, _) ← furtherBytes? (n - 1) byte r
    return (← Quoted.ofNumber? code, 3 * n)
  | _ => none

/-- The characters of a class that come next, escapes resolved. -/
def uri? (p : Char → Bool) : Nat → List Char → Cursor → Option (List Char × Cursor)
  | 0, acc, c => some (acc.reverse, c)
  | fuel + 1, acc, c =>
    if !c.sees p then some (acc.reverse, c)
    else if c.peek = some '%' then
      match uriEscape? c.rest with
      | some (d, n) => uri? p fuel (d :: acc) (c.advance n)
      | none => none
    else uri? p fuel (c.peek.toList ++ acc) (c.advance 1)

/-- The characters of a class that come next, escapes resolved. -/
def uriOf? (p : Char → Bool) (c : Cursor) : Option (List Char × Cursor) :=
  uri? p (c.rest.length + 1) [] c

/-- A handle: an exclamation mark, a name, and, as it may be, a second mark. -/
def handleOf (c : Cursor) : List Char × Cursor :=
  let (name, after) := (c.advance 1).span isNameChar
  if after.peek = some '!' then ('!' :: name ++ ['!'], after.advance 1) else ('!' :: name, after)

/-- The tag is written in full between angle brackets. -/
def fullTag? (c : Cursor) : Option (Token × Cursor) := do
  let (uri, after) ← uriOf? isUriChar (c.advance 2)
  if after.peek = some '>' then return (.tag "" (String.ofList uri), after.advance 1) else none

/-- The tag is written as a suffix to a handle.  A handle without a second mark is only the one
mark; its name belongs to the suffix.  The lone mark is a suffix to nothing. -/
def shortTag? (c : Cursor) : Option (Token × Cursor) := do
  let (head, after) := handleOf c
  if 2 ≤ head.length && head.getLast? = some '!' then
    let (suffix, after) ← uriOf? isTagChar after
    if suffix.isEmpty then none
    else return (.tag (String.ofList head) (String.ofList suffix), after)
  else
    let (more, after) ← uriOf? isTagChar after
    let suffix := head.drop 1 ++ more
    if suffix.isEmpty then return (.tag "" "!", after)
    else return (.tag "!" (String.ofList suffix), after)

/-- A tag; a space follows it, or between brackets a sign of theirs. -/
def tag? (flow : Bool) (c : Cursor) : Option (Token × Cursor) := do
  let (t, after) ← if c.peekAt 1 = some '<' then fullTag? c else shortTag? c
  if after.spaceAt 0 || (flow && after.sees isFlowSign) then return (t, after) else none

/-! ### Directives -/

/-- A number of a version, of one to nine digits. -/
def versionNumber? (c : Cursor) : Option Cursor :=
  let (ds, after) := c.span Char.isDigit
  if ds.isEmpty || 9 < ds.length then none else some after

/-- The version of the language, whatever it is. -/
def versionDirective? (c : Cursor) : Option (Token × Cursor) := do
  let c ← versionNumber? (c.skipWhile isBlank)
  if c.peek = some '.' then return (.version, ← versionNumber? (c.advance 1)) else none

/-- A handle for tags and what it stands for. -/
def handleDirective? (c : Cursor) : Option (Token × Cursor) := do
  let c := c.skipWhile isBlank
  if c.peek ≠ some '!' then none
  else
    let (head, c) := handleOf c
    if head ≠ ['!'] && head.getLast? ≠ some '!' then none
    else
      let c := c.skipWhile isBlank
      let (first, c) ←
        if c.peek = some '!' then some (['!'], c.advance 1)
        else if !c.sees isTagChar then none
        else if c.peek = some '%' then (uriEscape? c.rest).map fun e => ([e.1], c.advance e.2)
        else some (c.peek.toList, c.advance 1)
      let (more, c) ← uriOf? isUriChar c
      if c.spaceAt 0 then
        return (.handle (String.ofList head) (String.ofList (first ++ more)), c)
      else none

/-- A directive with the end of its line.  One that is not known counts as a handle without a
name. -/
def directive? (c : Cursor) : Option (Token × Cursor) := do
  let (name, c) := (c.advance 1).span isNameChar
  if name.isEmpty || !c.spaceAt 0 then none
  else
    let (t, c) ←
      if name = "YAML".toList then versionDirective? c
      else if name = "TAG".toList then handleDirective? c
      else some (.handle "" "", c.skipWhile fun d => !isBreak d)
    let (_, c) ← c.gap?
    if c.sees isBreak then return (t, c.newline)
    else if c.atEnd then return (t, c)
    else none

/-! ### Names -/

/-- The name of an anchor or of a reference to one, after its sign. -/
def name? (c : Cursor) : Option (String × Cursor) :=
  let (name, after) := (c.advance 1).span isAnchorChar
  if name.isEmpty then none else some (String.ofList name, after)

end Token

end Yaml

end TransactionalTest
