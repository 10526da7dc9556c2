import TransactionalTest.Decimal.Stepwise
import TransactionalTest.Json.Reader
import TransactionalTest.Settings.Basic

/-!
# Settings in JSON files

A document of settings is an object, and it is refused as a whole if any value in it, at whatever
depth, cannot be held: a number that is too large, a text with half a character, a value that
nests too deeply.

* `Layer.ofJson?` — the entries of the object.
-/

namespace TransactionalTest

namespace Setting

/-- A number that is no integer as a setting: a binary number read step by step. -/
def ofDecimal? (x : DecimalText) : Option Setting := (Stepwise.ofText? x).map .real

/-- An integer as a setting: one of 64 bits, else a binary number too. -/
def ofInteger? (n : Int) : Option Setting :=
  if Width.fits64 n then some (.integer n)
  else ofDecimal? { negative := decide (n < 0), whole := Digits.text n.natAbs }

mutual

/-- The value can be held, and it nests at most so deeply. -/
def canHold : Nat → Json → Bool
  | _, .null | _, .bool _ | _, .string _ => true
  | _, .broken => false
  | _, .integer n => (ofInteger? n).isSome
  | _, .real x => (ofDecimal? x).isSome
  | 0, .array _ | 0, .object _ => false
  | depth + 1, .array items => canHoldItems depth items
  | depth + 1, .object entries => canHoldEntries depth entries

/-- All items can be held. -/
def canHoldItems : Nat → List Json → Bool
  | _, [] => true
  | depth, x :: xs => canHold depth x && canHoldItems depth xs

/-- The values of all entries can be held. -/
def canHoldEntries : Nat → List (String × Json) → Bool
  | _, [] => true
  | depth, (_, x) :: es => canHold depth x && canHoldEntries depth es

end

/-- How many levels a document may nest. -/
def maxJsonDepth : Nat := 127

/-- A value of a JSON document as a setting. -/
def ofJson : Json → Setting
  | .null | .broken => .nil
  | .bool b => .boolean b
  | .integer n => (ofInteger? n).getD .nil
  | .real x => (ofDecimal? x).getD .nil
  | .string s => .text s
  | .array _ => .list
  | .object entries => .table entries.isEmpty

end Setting

/-- What a JSON document says; of several entries under one name the last one counts. -/
def Layer.ofJson? (content : String) : Option Layer :=
  match Json.parse? content with
  | some (.object es) =>
    if Setting.canHold Setting.maxJsonDepth (.object es) then
      some (Table.ofList (es.map fun e => (e.1, .ofJson e.2)))
    else none
  | _ => none

end TransactionalTest
