import TransactionalTest.Toml.Number

/-!
# Reading TOML

* `Toml.value` — a value;
* `Toml.parse?` — a document, as the entries of its root table.
-/

namespace TransactionalTest

namespace Toml

/-! ### Keys -/

/-- One part of a key. -/
def keyPart : Scanner String
  | '"' :: r => lineString ('"' :: r)
  | '\'' :: r => lineString ('\'' :: r)
  | r => bareKey r

/-- How many levels a document may nest: arrays and tables in a value, or the parts of a key. -/
def maxDepth : Nat := 79

/-- At most so many parts of a key, between points. -/
def keyParts : Nat → Scanner (List String)
  | 0, _ => none
  | bound + 1, cs => do
    let (part, r) ← keyPart (skipSpace cs)
    match skipSpace r with
    | '.' :: r =>
      let (parts, r) ← keyParts bound r
      return (part :: parts, r)
    | r => return ([part], r)

/-- A key with its parts between points. -/
def key (cs : List Char) : Option (List String × List Char) := keyParts maxDepth cs

/-- The parts before the last one, and the last one. -/
def splitKey (parts : List String) : List String × String :=
  (parts.dropLast, parts.getLast?.getD "")

/-! ### Values -/

/-- A value without parts. -/
def scalar (cs : List Char) : Option (Item × List Char) :=
  match cs with
  | '"' :: _ | '\'' :: _ => (string cs).map fun x => (.text x.1, x.2)
  | 't' :: 'r' :: 'u' :: 'e' :: r => some (.boolean true, r)
  | 'f' :: 'a' :: 'l' :: 's' :: 'e' :: r => some (.boolean false, r)
  | _ => ((moment cs).or (real cs)).or (integer cs)

mutual

/-- A value at the front of a text, of at most so many levels.  `fuel` bounds the levels and the
lengths of lists together. -/
def value : Nat → Nat → Scanner Item
  | 0, _, _ => none
  | fuel + 1, depth, cs =>
    match cs, depth with
    | '[' :: _, 0 | '\x7b' :: _, 0 => none
    | '[' :: r, depth + 1 => (items fuel depth r).map fun x => (.array x.1, x.2)
    | '\x7b' :: r, depth + 1 =>
      match skipSpace r with
      | '\x7d' :: r => some (.table .inline [], r)
      | r => (members fuel depth [] r).map fun x => (.table .inline x.1, x.2)
    | cs, _ => scalar cs

/-- The items of an array up to its closing bracket. -/
def items : Nat → Nat → Scanner (List Item)
  | 0, _, _ => none
  | fuel + 1, depth, cs =>
    match skipLines (cs.length + 1) cs with
    | ']' :: r => some ([], r)
    | r =>
      match value fuel depth r with
      | none => none
      | some (x, r) =>
        match skipLines (r.length + 1) r with
        | ',' :: r => (items fuel depth r).map fun y => (x :: y.1, y.2)
        | ']' :: r => some ([x], r)
        | _ => none

/-- The members of a table between braces, all on one line, up to the closing brace. -/
def members : Nat → Nat → Entries → Scanner Entries
  | 0, _, _, _ => none
  | fuel + 1, depth, es, cs =>
    match key cs with
    | some (parts, '=' :: r) =>
      match value fuel depth (skipSpace r) with
      | none => none
      | some (x, r) =>
        let (path, last) := splitKey parts
        match setKey path last x .headed es with
        | none => none
        | some es =>
          match skipSpace r with
          | ',' :: r => members fuel depth es r
          | '\x7d' :: r => some (es, r)
          | _ => none
    | _ => none

end

/-! ### Documents -/

/-- A document in the making: its root and the header that the next keys come under. -/
structure Draft where
  root : Entries := []
  header : List String := []

/-- A header at the front of a text, after its first bracket. -/
def header (d : Draft) (cs : List Char) : Option (Draft × List Char) :=
  let (double, r) := match cs with
    | '[' :: r => (true, r)
    | r => (false, r)
  match key r with
  | some (parts, ']' :: r) =>
    let (path, last) := splitKey parts
    if double then
      match r with
      | ']' :: r => (openTables path last d.root).map fun root => (⟨root, parts⟩, r)
      | _ => none
    else (openTable path last d.root).map fun root => (⟨root, parts⟩, r)
  | _ => none

/-- A key with its value at the front of a text. -/
def entry (d : Draft) (cs : List Char) : Option (Draft × List Char) :=
  match key cs with
  | some (parts, '=' :: r) =>
    match value (2 * r.length + 2) maxDepth (skipSpace r) with
    | some (x, r) =>
      let (path, last) := splitKey parts
      (update false (setKey path last x) d.header .headed d.root).map fun root =>
        (⟨root, d.header⟩, r)
    | none => none
  | _ => none

/-- The lines of a document; `fuel` bounds their number. -/
def lines : Nat → Draft → List Char → Option Draft
  | 0, _, _ => none
  | fuel + 1, d, cs =>
    match skipLines (cs.length + 1) cs with
    | [] => some d
    | '#' :: r => if (lineEnd ('#' :: r)) = some [] then some d else none
    | '[' :: r =>
      match header d r with
      | some (d, r) => (lineEnd r).bind fun r => lines fuel d r
      | none => none
    | r =>
      match entry d r with
      | some (d, r) => (lineEnd r).bind fun r => lines fuel d r
      | none => none

/-- Read a document; a byte order mark may stand in front. -/
def parse? (s : String) : Option Entries :=
  let cs := match s.toList with
    | '\ufeff' :: r => r
    | cs => cs
  (lines (cs.length + 1) {} cs).map Draft.root

end Toml

end TransactionalTest
