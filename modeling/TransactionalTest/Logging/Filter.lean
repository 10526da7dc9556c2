import TransactionalTest.LogEvent
import TransactionalTest.Decimal.Binary64
import TransactionalTest.Logging.Pattern
import TransactionalTest.Text.Category
import TransactionalTest.Text.Lower
import TransactionalTest.Text.Order

/-!
# Log filters

Which reports are printed: a list of directives, each a level for the targets under a name.

* `LogFilter.directive?` — one directive: `level`, `target`, `target=level` or
  `target[span{field=value}]=level`;
* `LogFilter.parse?` — directives between commas;
* `LogFilter.allows` — the most specific directive decides.

A directive about spans or about the values of fields can only let reports inside a span pass.
Here no report is inside one, so such a directive has no say.
-/

namespace TransactionalTest

namespace LogFilter

/-- A level for the targets that start with a name; `limit` is the rank of the most talkative
level that passes, zero for none. -/
structure Directive where
  target : Option String := none
  /-- The name of the span around the report. -/
  span : Option String := none
  /-- A field that the report has, maybe with its value after an equals sign. -/
  field : Option String := none
  limit : Nat := LogLevel.trace.rank
  deriving DecidableEq, Repr

/-! ### Levels -/

/-- The number that decimal digits write, maybe after a plus sign. -/
def number? (s : String) : Option Nat :=
  let ds := match s.toList with
    | '+' :: r => r
    | cs => cs
  if ds.isEmpty || !ds.all Char.isDigit then none
  else some (ds.foldl (fun n c => n * 10 + (c.toNat - 48)) 0)

/-- The levels by name. -/
def limits : List (String × Nat) :=
  [("off", 0), ("error", 1), ("warn", 2), ("info", 3), ("debug", 4), ("trace", 5)]

/-- The rank of a level by its number or by its name in any case. -/
def limit? (s : String) : Option Nat :=
  match number? s with
  | some n => if n ≤ LogLevel.trace.rank then some n else none
  | none => (limits.find? fun e => Lower.eqIgnoreCase e.1 s).map (·.2)

/-! ### Fields -/

/-- The parts of a field between equals signs. -/
def fieldParts (field : String) : List String := field.splitOn "="

/-- The name of the field, without the value. -/
def fieldName (field : String) : String := (fieldParts field).headD ""

/-- The field has a name, and the value that it asks for, if there is one, can be read: a truth
value, a number or a regular expression. -/
def isField (field : String) : Bool :=
  field != "" &&
    match fieldParts field with
    | _ :: value :: _ =>
      value = "true" || value = "false" || (Binary64.ofChars? value.toList).isSome ||
        Pattern.isWellFormed value
    | _ => true

/-! ### Reading a directive

The shape of a directive is found in the text without the blanks around it, but its parts are cut
out of the text as it stands, at the same places.  Hence the pairs: the first character of each
tells the shape, the second belongs to the part; `rest` is what stands behind the last pair. -/

/-- The characters of the trimmed text, each with the one at its place in the text itself. -/
abbrev Aligned := List (Char × Char)

/-- The part of the text under these pairs. -/
def part (ps : Aligned) (rest : List Char) : String := String.ofList (ps.map (·.2) ++ rest)

/-- A directive can start with this character. -/
def isStart (c : Char) : Bool := c = '-' || c = ':' || c = '_' || Category.isAlphanumeric c

/-- The text is a level, or else a target whose reports all pass. -/
def ofWord (word : String) : Directive :=
  match limit? word with
  | some n => { limit := n }
  | none => { target := some word }

/-- The level behind the equals sign; without one all reports pass. -/
def withLevel? (d : Directive) (word : String) : Option Directive :=
  if word = "" then some d else (limit? word).map fun n => { d with limit := n }

/-- What follows the closing bracket: nothing, or the level. -/
def afterScope? (d : Directive) (ps : Aligned) (rest : List Char) : Option Directive :=
  match ps with
  | [] => some d
  | p :: ps => if p.1 = '=' then withLevel? d (part ps rest) else none

/-- The field up to the closing brace, which a closing bracket follows. -/
def inField? (d : Directive) (ps : Aligned) (rest : List Char) : Option Directive :=
  let (name, ps) := ps.span fun p => p.1 != '\x7d'
  match ps with
  | _ :: p :: ps =>
    if p.1 = ']' && isField (part name []) then
      afterScope? { d with field := some (part name []) } ps rest
    else none
  | _ => none

/-- The span and the field that an opening bracket announces. -/
def inScope? (target : Option String) (ps : Aligned) (rest : List Char) : Option Directive :=
  let (name, ps) := ps.span fun p => p.1 != ']' && p.1 != '\x7b'
  match ps with
  | [] => none
  | p :: ps =>
    if p.1 = ']' then afterScope? { target := target, span := some (part name []) } ps rest
    else
      inField?
        { target := target, span := if name.isEmpty then none else some (part name []) } ps rest

/-- A directive: a level, a target with a level, or a target alone; the target may be followed by
a span and a field in brackets. -/
def directive? (s : String) : Option Directive :=
  let seen := Blank.trimChars s.toList
  let rest := s.toList.drop seen.length
  match seen.zip s.toList with
  | [] => none
  | p :: ps =>
    if p.1 = '[' then inScope? none ps rest
    else if !isStart p.1 then none
    else
      let (word, tail) := (p :: ps).span fun p => p.1 != '=' && p.1 != '['
      match tail with
      | [] => some (ofWord (part word rest))
      | p :: ps =>
        if p.1 = '=' then withLevel? { target := some (part word []) } (part ps rest)
        else inScope? (some (part word [])) ps rest

/-- The directives between commas.  One that cannot be read spoils them all. -/
def parse? (s : String) : Option (List Directive) :=
  ((s.splitOn ",").filter fun x => !x.isEmpty).mapM directive?

/-! ### Deciding -/

/-- The directive has a say about reports outside all spans. -/
def isStatic (d : Directive) : Bool :=
  d.span.isNone && (d.field.all fun f => fieldName f == f)

/-- The directive is about the target, and about reports that have the fields of these names. -/
def covers (target : String) (names : List String) (d : Directive) : Bool :=
  (d.target.all fun t => t.toList.isPrefixOf target.toList) && d.field.all names.contains

/-- The length of the target a directive is about, a missing one the least. -/
def reach (d : Directive) : Nat :=
  match d.target with
  | some t => t.length + 1
  | none => 0

/-- The later of two directives about the same report unless the earlier one is more specific: it
has the longer target, or else a field, or else the field that comes later in the dictionary. -/
def moreSpecific (a b : Directive) : Directive :=
  if reach a ≠ reach b then if reach a < reach b then b else a
  else match a.field, b.field with
    | some f, some g => if TextOrder.le f g then b else a
    | some _, none => a
    | none, _ => b

/-- A report of this level from this target with fields of these names passes. -/
def allows (ds : List Directive) (target : String) (names : List String) (level : LogLevel) :
    Bool :=
  match ds.filter fun d => isStatic d && covers target names d with
  | [] => false
  | d :: ds => level.rank ≤ (ds.foldl moreSpecific d).limit

end LogFilter

end TransactionalTest
