import TransactionalTest.Settings.Basic
import TransactionalTest.Yaml.Node

/-!
# Settings in YAML files

A document of settings is a mapping.  It is refused as a whole if something in it, at whatever
depth, cannot be held: a key that is neither a text nor an integer, one key twice, or a word for a
number that is no numeral.

* `Layer.ofYaml?` — the entries of the mapping.
-/

namespace TransactionalTest

namespace Yaml.Node

/-- The name that a key makes, along with word of whether it is an integer. -/
def name? : Node → Option (Bool × String)
  | text s => some (false, s)
  | integer n => some (true, toString n)
  | _ => none

/-- The names that the keys of a mapping make, if they all do and no key comes twice. -/
def names? (entries : List (Node × Node)) : Option (List String) :=
  match entries.mapM fun e => e.1.name? with
  | some names => if names.Nodup then some (names.map Prod.snd) else none
  | none => none

mutual

/-- The value of a node as a setting. -/
def setting? : Node → Option Setting
  | missing | null => some .nil
  | boolean b => some (.boolean b)
  | integer n => some (.integer n)
  | real s => (Binary64.ofChars? s.toList).map .real
  | text s => some (.text s)
  | sequence items => (settings? items).map fun _ => .list
  | mapping entries =>
    match names? entries, entrySettings? entries with
    | some _, some xs => some (.table xs.isEmpty)
    | _, _ => none

/-- The values of all items. -/
def settings? : List Node → Option (List Setting)
  | [] => some []
  | x :: xs =>
    match setting? x, settings? xs with
    | some y, some ys => some (y :: ys)
    | _, _ => none

/-- The values of all entries. -/
def entrySettings? : List (Node × Node) → Option (List Setting)
  | [] => some []
  | (_, x) :: es =>
    match setting? x, entrySettings? es with
    | some y, some ys => some (y :: ys)
    | _, _ => none

end

end Yaml.Node

/-- What a YAML document says; a text without a document says nothing. -/
def Layer.ofYaml? (content : String) : Option Layer := do
  match ← Yaml.Node.ofText? content with
  | none => return []
  | some (.mapping entries) =>
    return Table.ofList ((← Yaml.Node.names? entries).zip (← Yaml.Node.entrySettings? entries))
  | some _ => none

end TransactionalTest
