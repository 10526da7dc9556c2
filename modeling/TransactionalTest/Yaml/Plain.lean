import TransactionalTest.Yaml.Quoted

/-!
# Plain scalars

A plain scalar ends before a colon that a space follows, before a number sign that follows a
space, and, between brackets, before their signs.  It may go on in further lines, indented more
than what it belongs to; their breaks fold as in quotes.

* `Plain.read?` — a whole scalar.
-/

namespace TransactionalTest

namespace Yaml

namespace Plain

/-- The next character belongs to a plain scalar. -/
def goesOn (flow : Bool) (c : Cursor) : Bool :=
  match c.peek with
  | none => false
  | some d =>
    if isSpace d then false
    else if d = ':' then !(c.spaceAt 1 || (flow && c.seesAt 1 isFlowSign))
    else !(flow && isFlowSign d)

/-- The characters up to the next space or the end of the scalar; `acc` holds what has been read,
last character first. -/
def word (flow : Bool) : Nat → List Char → Cursor → List Char × Cursor
  | 0, acc, c => (acc, c)
  | fuel + 1, acc, c =>
    if goesOn flow c then word flow fuel (c.peek.toList ++ acc) (c.advance 1) else (acc, c)

/-- The blanks and line breaks after a word.  A tab before column `indent` may only stand on a
line without text. -/
def between? (indent : Int) : Nat → Fold → List Char → Cursor → Option (Fold × List Char × Cursor)
  | 0, _, _, _ => none
  | fuel + 1, fold, blanks, c =>
    if c.sees isBlank then
      if !c.fresh then between? indent fuel fold (c.peek.toList ++ blanks) (c.skip 1)
      else if c.column < indent && c.peek = some '\t' then
        match c.gap? with
        | some (_, c) => if c.atLineEnd then between? indent fuel fold blanks c else none
        | none => none
      else between? indent fuel fold blanks (c.skip 1)
    else if c.sees isBreak then
      if c.fresh then
        between? indent fuel { fold with more := fold.more + 1 } blanks c.newline
      else between? indent fuel { fold with first := true } [] c.newline
    else some (fold, blanks, c)

/-- The text of a scalar, and the cursor after it and the spaces that follow it.  The spaces
before the next word are in `fold` and `blanks`. -/
def body? (flow : Bool) (indent : Int) :
    Nat → List Char → Fold → List Char → Cursor → Option (List Char × Cursor)
  | 0, _, _, _, _ => none
  | fuel + 1, acc, fold, blanks, c =>
    if c.atStartMark || c.atEndMark || c.peek = some '#' then some (acc.reverse, c)
    else if flow && c.peek = some '-' && c.seesAt 1 isFlowSign then none
    else
      let (acc, fold, blanks, c) :=
        if goesOn flow c then
          let joint := if c.fresh then fold.text else blanks.reverse
          let (acc, c) := word flow (c.rest.length + 1) (joint.reverse ++ acc) c
          (acc, {}, [], c)
        else (acc, fold, blanks, c)
      if !c.sees isSpace then some (acc.reverse, c)
      else
        match between? indent (c.rest.length + 1) fold blanks c with
        | none => none
        | some (fold, blanks, c) =>
          if !flow && c.column < indent then some (acc.reverse, c)
          else body? flow indent fuel acc fold blanks c

/-- A scalar at a cursor, inside something indented to `indent`. -/
def read? (flow : Bool) (indent : Int) (c : Cursor) : Option (String × Cursor) :=
  if flow && c.column < indent + 1 then none
  else
    (body? flow (indent + 1) (c.rest.length + 1) [] {} [] c).map fun r =>
      (String.ofList r.1, r.2)

end Plain

end Yaml

end TransactionalTest
