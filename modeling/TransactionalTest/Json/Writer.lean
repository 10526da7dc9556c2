import TransactionalTest.Json.Basic
import TransactionalTest.Text.Hex

/-!
# Writing JSON

A JSON value as one line of text.

* `Json.render` — the line.
-/

namespace TransactionalTest

namespace Json

namespace Writer

/-- A character as it stands in a string. -/
def escape (c : Char) : List Char :=
  if c = '"' then ['\\', '"']
  else if c = '\\' then ['\\', '\\']
  else if c = '\n' then ['\\', 'n']
  else if c = '\r' then ['\\', 'r']
  else if c = '\t' then ['\\', 't']
  else if c.toNat < 0x20 then ['\\', 'u'] ++ Hex.padded 4 c.toNat
  else [c]

/-- A text in quotes. -/
def quote (s : String) : String := String.ofList ('"' :: s.toList.flatMap escape ++ ['"'])

/-- A number with its power of ten. -/
def numeral (x : Numeral) : String :=
  (if x.negative then "-" else "") ++ toString x.mantissa ++ "e" ++ toString x.exponent

end Writer

mutual

/-- The value as one line of text. -/
def render : Json → String
  | null => "null"
  | bool b => if b then "true" else "false"
  | integer n => toString n
  | real x => Writer.numeral x.numeral
  | string s => Writer.quote s
  | broken => "\"\\ud800\""
  | array items => "[" ++ String.intercalate "," (renderItems items) ++ "]"
  | object entries => "\x7b" ++ String.intercalate "," (renderEntries entries) ++ "\x7d"

/-- The items of an array. -/
def renderItems : List Json → List String
  | [] => []
  | x :: xs => render x :: renderItems xs

/-- The entries of an object. -/
def renderEntries : List (String × Json) → List String
  | [] => []
  | (name, x) :: es => (Writer.quote name ++ ":" ++ render x) :: renderEntries es

end

end Json

end TransactionalTest
