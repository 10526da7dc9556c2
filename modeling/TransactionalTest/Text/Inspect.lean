import TransactionalTest.Text.Category
import TransactionalTest.Text.Hex

/-!
# Inspection text

The one-line text of a value that diagnostics show: texts in quotes, lists in brackets, records
with their field names.

* `Inspect.quoted` — a text in double quotes;
* `Inspect.list`, `Inspect.option`, `Inspect.table`, `Inspect.pair` — composite values;
* `Inspect.record` — a record with named fields.
-/

namespace TransactionalTest

namespace Inspect

/-! ### Quoted text -/

/-- The characters that quoted text spells by their number: those that leave no mark of their
own. -/
def isHidden (c : Char) : Bool := Category.isHidden c || Category.isExtender c

/-- A character as it stands in quoted text. -/
def escape (c : Char) : List Char :=
  if c = '"' then ['\\', '"']
  else if c = '\\' then ['\\', '\\']
  else if c = '\n' then ['\\', 'n']
  else if c = '\t' then ['\\', 't']
  else if c = '\r' then ['\\', 'r']
  else if c.toNat = 0 then ['\\', '0']
  else if isHidden c then ['\\', 'u', '\x7b'] ++ Hex.shortest c.toNat ++ ['\x7d']
  else [c]

/-- The text in double quotes, on one line. -/
def quoted (s : String) : String :=
  String.ofList ('"' :: s.toList.flatMap escape ++ ['"'])

/-! ### Composite values -/

/-- The entries between brackets, parted by commas. -/
def list (xs : List String) : String := "[" ++ String.intercalate ", " xs ++ "]"

/-- A list of texts. -/
def texts (xs : List String) : String := list (xs.map quoted)

/-- A value that may be missing. -/
def option : Option String → String
  | none => "None"
  | some x => "Some(" ++ x ++ ")"

/-- Two values together. -/
def pair (a b : String) : String := "(" ++ a ++ ", " ++ b ++ ")"

/-- Keys with their values. -/
def table (xs : List (String × String)) : String :=
  "\x7b" ++ String.intercalate ", " (xs.map fun e => e.1 ++ ": " ++ e.2) ++ "\x7d"

/-- A record: its name and its fields in order. -/
def record (name : String) (fields : List (String × String)) : String :=
  name ++ " \x7b " ++ String.intercalate ", " (fields.map fun e => e.1 ++ ": " ++ e.2) ++ " \x7d"

/-- A truth value. -/
def flag (b : Bool) : String := if b then "true" else "false"

end Inspect

end TransactionalTest
