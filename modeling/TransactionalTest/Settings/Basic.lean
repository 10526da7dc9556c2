import TransactionalTest.Decimal.Shortest
import TransactionalTest.ListenerConfig
import TransactionalTest.Table
import TransactionalTest.Text.Lower

/-!
# Settings in layers

Settings come from several sources, the later ones laid over the earlier.  Each source gives
values of any kind; only the value on top is converted to what its field needs.

* `Setting` — a value, with `Setting.toBool?` and `Setting.toText?`;
* `Layer.over` — a source laid over what lies below;
* `Settings.toConfig?` — the listener configuration that the values on top make.
-/

namespace TransactionalTest

/-- The value of a setting.  Of a table it only matters whether it is empty. -/
inductive Setting where
  | nil
  | boolean (b : Bool)
  | integer (n : Int)
  | real (x : Binary64)
  | text (s : String)
  | list
  | table (isEmpty : Bool)
  deriving DecidableEq, Repr

namespace Setting

/-- The texts that mean yes. -/
def yesWords : List String := ["1", "true", "on", "yes"]

/-- The texts that mean no. -/
def noWords : List String := ["0", "false", "off", "no"]

/-- The value as a truth value: a number is true unless it is zero, and some words in any case
are taken for yes and no. -/
def toBool? : Setting → Option Bool
  | boolean b => some b
  | integer n => some (n ≠ 0)
  | real x => some (!x.isZero)
  | text s =>
    let word := Lower.lower s
    if yesWords.contains word then some true
    else if noWords.contains word then some false
    else none
  | nil | list | table _ => none

/-- The value as a text: numbers as decimals without exponent, truth values as words. -/
def toText? : Setting → Option String
  | text s => some s
  | boolean b => some (Inspect.flag b)
  | integer n => some (toString n)
  | real x => some (Shortest.text x)
  | nil | list | table _ => none

end Setting

/-! ### Keys -/

/-- A character of a part of a key. -/
def isKeyChar (c : Char) : Bool := c.isAlphanum || c = ' ' || c = '_' || c = '-'

/-- A blank next to an index. -/
def isIndexBlank (c : Char) : Bool := c = ' ' || c = '\t' || c = '\n' || c = '\r'

/-- An index of 64 bits with its closing bracket, blanks on both sides; and the rest. -/
def afterIndex? (cs : List Char) : Option (List Char) :=
  let r := cs.dropWhile isIndexBlank
  let (negative, r) := match r with
    | '-' :: r => (true, r)
    | r => (false, r)
  let (ds, r) := Digits.span r
  let n : Int := Digits.value ds
  match r.dropWhile isIndexBlank with
  | ']' :: r => if ds.isEmpty || !Width.fits64 (if negative then -n else n) then none else some r
  | _ => none

/-- What follows the first part of a key that is a path: parts after a point and indices in
brackets, none of them empty; `fuel` bounds their number. -/
def isPathTail : Nat → List Char → Bool
  | _, [] => true
  | 0, _ => false
  | fuel + 1, '.' :: r =>
    let (part, r) := r.span isKeyChar
    !part.isEmpty && isPathTail fuel r
  | fuel + 1, '[' :: r =>
    match afterIndex? r with
    | some r => isPathTail fuel r
    | none => false
  | _, _ => false

/-- The field that a key is about, and whether the key leads on into the field's value.  A key
that is no path is the name of a field as it stands. -/
def splitPath (key : String) : String × Bool :=
  let (first, rest) := key.toList.span isKeyChar
  if !rest.isEmpty && !first.isEmpty && isPathTail rest.length rest then
    (Lower.lower (String.ofList first), true)
  else (Lower.lower key, false)

/-! ### Layers -/

/-- The values on top, by field. -/
abbrev Settings := Table String Setting

/-- What a source says, key by key. -/
abbrev Layer := List (String × Setting)

namespace Settings

/-- Lay one value over the field of its key.  An empty table leaves a value as it is, and a key
that leads into a value makes a table of it. -/
def assign (key : String) (x : Setting) (s : Settings) : Settings :=
  let (field, inside) := splitPath key
  if inside then s.insert field (.table false)
  else match x with
    | .table true => s.insert field ((s.find? field).getD (.table true))
    | x => s.insert field x

end Settings

/-- Lay a source over what lies below. -/
def Layer.over (l : Layer) (s : Settings) : Settings :=
  l.foldl (fun s e => s.assign e.1 e.2) s

namespace Settings

/-- The three fields at their defaults. -/
def defaults : Settings :=
  let c : ListenerConfig := {}
  [("strict_manager_resolution", .boolean c.strictManagerResolution),
    ("default_rollback", .boolean c.defaultRollback),
    ("default_transaction_manager", .text c.defaultTransactionManager)]

/-- The listener configuration that the values on top make, if they convert. -/
def toConfig? (s : Settings) : Option ListenerConfig := do
  return ⟨← (← s.find? "strict_manager_resolution").toBool?,
    ← (← s.find? "default_rollback").toBool?,
    ← (← s.find? "default_transaction_manager").toText?⟩

end Settings

end TransactionalTest
