import TransactionalTest.Decimal.Binary64

/-!
# TOML documents

A TOML document as a tree, and the rules by which headers and dotted keys build it: no table is
defined twice, no key is given twice, and a value is never extended.

* `Toml.Item` — the values and tables of a document;
* `Toml.update` — work on the table at the end of a path;
* `Toml.setKey`, `Toml.openTable`, `Toml.openTables` — the three ways in which a document grows.
-/

namespace TransactionalTest

namespace Toml

/-- How a table came to be. -/
inductive TableKind where
  /-- By a header of its own; the root counts as such. -/
  | headed
  /-- On the way of a longer header. -/
  | implied
  /-- On the way of a dotted key. -/
  | dotted
  /-- As a value between braces. -/
  | inline
  deriving DecidableEq, Repr

/-- A value or a table of a document. -/
inductive Item where
  | text (s : String)
  | integer (n : Int)
  | real (x : Binary64)
  | boolean (b : Bool)
  /-- A date, a time or both, in its normal form. -/
  | moment (s : String)
  | array (items : List Item)
  | table (kind : TableKind) (entries : List (String × Item))
  /-- Tables under one header in double brackets, last first. -/
  | tables (items : List (List (String × Item)))
  deriving Repr

/-- The entries of a table, in order. -/
abbrev Entries := List (String × Item)

/-- The item of a key. -/
def Entries.get? (key : String) (es : Entries) : Option Item :=
  (es.find? fun e => e.1 == key).map Prod.snd

/-- The entries with the key at this item, in place when the key is there. -/
def Entries.set (key : String) (x : Item) (es : Entries) : Entries :=
  if es.any fun e => e.1 == key then es.map fun e => if e.1 == key then (key, x) else e
  else es ++ [(key, x)]

/-- Work on the table at the end of a path, making the tables that are missing on the way.  The
path of a dotted key must not run through a table that has a header of its own. -/
def update (dotted : Bool) (f : TableKind → Entries → Option Entries) :
    List String → TableKind → Entries → Option Entries
  | [], kind, es => f kind es
  | key :: path, _, es =>
    match Entries.get? key es with
    | none =>
      let kind : TableKind := if dotted then .dotted else .implied
      (update dotted f path kind []).map fun x => Entries.set key (.table kind x) es
    | some (.table kind inner) =>
      if kind = .inline ∨ (dotted = true ∧ kind = .headed) then none
      else (update dotted f path kind inner).map fun x => Entries.set key (.table kind x) es
    | some (.tables (last :: items)) =>
      (update dotted f path .headed last).map fun x => Entries.set key (.tables (x :: items)) es
    | some _ => none

/-- Give a key, behind a dotted path, a value; the key must be new, and a dotted path must end in
a table that dotted keys made. -/
def setKey (path : List String) (key : String) (x : Item) (kind : TableKind) (es : Entries) :
    Option Entries :=
  update true
    (fun kind es =>
      if (kind == .dotted) == path.isEmpty || (Entries.get? key es).isSome then none
      else some (Entries.set key x es)) path kind es

/-- Open the table of a header in single brackets. -/
def openTable (path : List String) (key : String) (root : Entries) : Option Entries :=
  update false
    (fun _ es =>
      match Entries.get? key es with
      | none => some (Entries.set key (.table .headed []) es)
      | some (.table .implied inner) =>
        some (Entries.set key (.table .headed inner) (es.filter fun e => e.1 != key))
      | some _ => none) path .headed root

/-- Open another table of a header in double brackets. -/
def openTables (path : List String) (key : String) (root : Entries) : Option Entries :=
  update false
    (fun _ es =>
      match Entries.get? key es with
      | none => some (Entries.set key (.tables [[]]) es)
      | some (.tables items) => some (Entries.set key (.tables ([] :: items)) es)
      | some _ => none) path .headed root

end Toml

end TransactionalTest
