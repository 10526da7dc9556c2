import TransactionalTest.Settings.Basic
import TransactionalTest.Toml.Reader

/-!
# Settings in TOML files

A date is a text.  So is a table whose first key is reserved for dates: it stands for the date
that the key's text writes, whatever else the table holds, and a document with such a table is
refused if there is no such text.

* `Layer.ofToml?` — the entries of the root table.
-/

namespace TransactionalTest

namespace Setting

/-- The key that makes a date of its table. -/
def momentKey : String := "$__toml_private_datetime"

mutual

/-- A value of a TOML document as a setting. -/
def ofItem? : Toml.Item → Option Setting
  | .text s | .moment s => some (.text s)
  | .integer n => some (.integer n)
  | .real x => some (.real x)
  | .boolean b => some (.boolean b)
  | .array items => if areItems items then some .list else none
  | .tables ts => if areTables ts then some .list else none
  | .table _ [] => some (.table true)
  | .table _ ((key, x) :: es) =>
    if key = momentKey then
      match x with
      | .text s => (Toml.momentOfText? s).map .text
      | _ => none
    else if (ofItem? x).isSome && areEntries es then some (.table false)
    else none

/-- All items are settings. -/
def areItems : List Toml.Item → Bool
  | [] => true
  | x :: xs => (ofItem? x).isSome && areItems xs

/-- All values of entries are settings. -/
def areEntries : List (String × Toml.Item) → Bool
  | [] => true
  | (_, x) :: es => (ofItem? x).isSome && areEntries es

/-- All tables are settings. -/
def areTables : List (List (String × Toml.Item)) → Bool
  | [] => true
  | [] :: ts => areTables ts
  | ((key, x) :: es) :: ts =>
    (if key = momentKey then
      match x with
      | .text s => (Toml.momentOfText? s).isSome
      | _ => false
    else (ofItem? x).isSome && areEntries es) && areTables ts

end

end Setting

/-- What a TOML document says. -/
def Layer.ofToml? (content : String) : Option Layer :=
  (Toml.parse? content).bind fun es =>
    if (es.head?.map Prod.fst) == some Setting.momentKey then none
    else es.mapM fun e => (Setting.ofItem? e.2).map fun x => (e.1, x)

end TransactionalTest
