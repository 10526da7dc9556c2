import TransactionalTest.Decimal.Binary64
import TransactionalTest.Table
import TransactionalTest.Yaml.Layout

/-!
# The nodes of a YAML document

* `Yaml.Node` — a value, its scalars resolved;
* `Node.ofPlain` — the value that a plain scalar writes;
* `Node.ofText?` — the document of a text.
-/

namespace TransactionalTest

namespace Yaml

/-- A value.  Where a tag does not fit its scalar, or a reference stands inside what it refers to,
the value is missing. -/
inductive Node where
  | missing
  | null
  | boolean (b : Bool)
  | integer (n : Int)
  | real (text : String)
  | text (s : String)
  | sequence (items : List Node)
  | mapping (entries : List (Node × Node))
  deriving Repr, Inhabited

namespace Node

/-! ### Scalars -/

/-- An integer in digits of a base, with a sign, perhaps, before them. -/
def based? (base : Nat) (cs : List Char) : Option Int :=
  let (negative, ds) := Numeral.sign cs
  if ds.isEmpty then none
  else (ds.mapM Hex.value?).bind fun ds =>
    let n := ds.foldl (fun n d => n * base + d) 0
    let n : Int := if negative then -n else n
    if ds.all (· < base) && Width.fits64 n then some n else none

/-- A decimal integer of 64 bits. -/
def integer? (cs : List Char) : Option Int := (Digits.integer? cs).filter Width.fits64

/-- The words for infinity and for no number, besides those that are numerals anyway. -/
def numberWords : List String :=
  [".inf", ".Inf", ".INF", "+.inf", "+.Inf", "+.INF", "-.inf", "-.Inf", "-.INF", ".nan", "NaN",
    ".NAN"]

/-- The text writes a real number. -/
def isReal (s : String) : Bool := numberWords.contains s || (Binary64.ofChars? s.toList).isSome

/-- The integer of a plain scalar: with a prefix for base 16 or 8, or in decimal after any one or
two signs of which the first is a plus. -/
def plainInteger? (cs : List Char) : Option Int :=
  match cs with
  | '0' :: 'x' :: r => based? 16 r
  | '0' :: 'o' :: r => based? 8 r
  | '+' :: r => integer? r
  | _ => none

/-- The value that a plain scalar writes. -/
def ofPlain (s : String) : Node :=
  match plainInteger? s.toList <|> integer? s.toList with
  | some n => integer n
  | none =>
    if s = "" ∨ s = "~" ∨ s = "null" then null
    else if s = "true" then boolean true
    else if s = "false" then boolean false
    else if isReal s then real s
    else text s

/-- What the names of the core tags stand for. -/
def coreUri : String := "tag:yaml.org,2002:"

/-- The value of a plain scalar under a core tag. -/
def ofCoreTag (suffix s : String) : Node :=
  if suffix = "bool" then
    if s = "true" then boolean true else if s = "false" then boolean false else missing
  else if suffix = "int" then (integer? s.toList).elim missing integer
  else if suffix = "float" then if isReal s then real s else missing
  else if suffix = "null" then if s = "~" ∨ s = "null" then null else missing
  else text s

/-- The value of a scalar: quotes make a text of it, else its tag decides. -/
def ofScalar (plain : Bool) (s : String) (tag : Option (String × String)) : Node :=
  if !plain then text s
  else match tag with
    | none => ofPlain s
    | some (uri, suffix) => if uri = coreUri then ofCoreTag suffix s else text s

/-! ### Mappings -/

/-- The entries of a mapping, keys and values by turns.  What is missing cannot be a key, and the
next value takes its place. -/
def pair : List Node → List (Node × Node)
  | [] => []
  | missing :: r => pair r
  | [_] => []
  | k :: v :: r => (k, v) :: pair r

/-! ### Documents -/

/-- The tokens still to be read, and the names known so far. -/
structure Feed where
  tokens : List Token
  /-- What the handles of tags stand for. -/
  handles : List (String × String) := []
  /-- The anchors, each with the number of the node that it has last been given to. -/
  anchors : Table String Nat := []
  /-- The nodes with anchors that have been read to their end. -/
  nodes : Table Nat Node := []
  /-- How many nodes have been given anchors. -/
  count : Nat := 0

namespace Feed

/-- The next token. -/
def peek (f : Feed) : Option Token := f.tokens.head?

/-- Without the next token. -/
def skip (f : Feed) : Feed := { f with tokens := f.tokens.drop 1 }

/-- The next token is one of these. -/
def sees (ts : List Token) (f : Feed) : Bool := f.peek.any ts.contains

/-- What a tag stands for. -/
def tag? (f : Feed) (handle suffix : String) : Option (String × String) :=
  if handle = "" ∧ suffix ≠ "!" then some (handle, suffix)
  else match f.handles.lookup handle with
    | some uri => some (uri, suffix)
    | none =>
      if handle = "!!" then some (coreUri, suffix)
      else if handle = "" ∨ handle = "!" then some (handle, suffix)
      else none

/-- Give the next node an anchor. -/
def name (anchor : String) (f : Feed) : Nat × Feed :=
  (f.count, { f with anchors := f.anchors.insert anchor f.count, count := f.count + 1 })

/-- The node with an anchor has been read. -/
def store (anchor : Option Nat) (x : Node) (f : Feed) : Feed :=
  match anchor with
  | some n => { f with nodes := f.nodes.insert n x }
  | none => f

/-- The anchor and the tag of a node, in either order. -/
def properties? (f : Feed) : Option (Option Nat × Option (String × String) × Feed) := do
  match f.peek with
  | some (.anchor name) =>
    let (n, f) := f.skip.name name
    match f.peek with
    | some (.tag h s) => return (some n, some (← f.tag? h s), f.skip)
    | _ => return (some n, none, f)
  | some (.tag h s) =>
    let tag ← f.tag? h s
    let f := f.skip
    match f.peek with
    | some (.anchor name) =>
      let (n, f) := f.skip.name name
      return (some n, some tag, f)
    | _ => return (none, some tag, f)
  | _ => return (none, none, f)

end Feed

mutual

/-- The next node.  Blocks only count where they may stand, and items without indentation only
where they may. -/
def read? (fuel : Nat) (block indentless : Bool) (f : Feed) : Option (Node × Feed) :=
  match fuel with
  | 0 => none
  | fuel + 1 => do
    match f.peek with
    | some (.reference name) =>
      let n ← f.anchors.find? name
      return ((f.nodes.find? n).getD missing, f.skip)
    | _ =>
      let (anchor, tag, f) ← f.properties?
      let finish (r : Node × Feed) : Node × Feed := (r.1, r.2.store anchor r.1)
      match f.peek with
      | some .blockEntry =>
        if indentless then return finish (← items? fuel [] f)
        else if anchor.isSome || tag.isSome then return finish (ofScalar true "" tag, f)
        else none
      | some (.scalar plain s) => return finish (ofScalar plain s tag, f.skip)
      | some .flowSequence => return finish (← flowItems? fuel true [] f.skip)
      | some .flowMapping => return finish (← flowKeys? fuel true [] f.skip)
      | some .blockSequence =>
        if block then return finish (← blockItems? fuel [] f.skip)
        else if anchor.isSome || tag.isSome then return finish (ofScalar true "" tag, f)
        else none
      | some .blockMapping =>
        if block then return finish (← blockKeys? fuel [] f.skip)
        else if anchor.isSome || tag.isSome then return finish (ofScalar true "" tag, f)
        else none
      | _ =>
        if anchor.isSome || tag.isSome then return finish (ofScalar true "" tag, f) else none

/-- The items of a sequence that is not indented; `acc` holds those read, last one first. -/
def items? (fuel : Nat) (acc : List Node) (f : Feed) : Option (Node × Feed) :=
  match fuel with
  | 0 => none
  | fuel + 1 =>
    if f.peek = some .blockEntry then
      let f := f.skip
      if f.sees [.blockEntry, .key, .value, .blockEnd] then items? fuel (null :: acc) f
      else
        match read? fuel true false f with
        | some (x, f) => items? fuel (x :: acc) f
        | none => none
    else some (sequence acc.reverse, f)

/-- The items of a block. -/
def blockItems? (fuel : Nat) (acc : List Node) (f : Feed) : Option (Node × Feed) :=
  match fuel with
  | 0 => none
  | fuel + 1 =>
    if f.peek = some .blockEnd then some (sequence acc.reverse, f.skip)
    else if f.peek = some .blockEntry then
      let f := f.skip
      if f.sees [.blockEntry, .blockEnd] then blockItems? fuel (null :: acc) f
      else
        match read? fuel true false f with
        | some (x, f) => blockItems? fuel (x :: acc) f
        | none => none
    else none

/-- The keys and values of a block, from a key on. -/
def blockKeys? (fuel : Nat) (acc : List Node) (f : Feed) : Option (Node × Feed) :=
  match fuel with
  | 0 => none
  | fuel + 1 =>
    if f.peek = some .blockEnd then some (mapping (pair acc.reverse), f.skip)
    else if f.peek = some .key then
      let f := f.skip
      if f.sees [.key, .value, .blockEnd] then blockValues? fuel (null :: acc) f
      else
        match read? fuel true true f with
        | some (x, f) => blockValues? fuel (x :: acc) f
        | none => none
    else if f.peek = some .value then blockValues? fuel (null :: acc) f
    else none

/-- The keys and values of a block, from a value on. -/
def blockValues? (fuel : Nat) (acc : List Node) (f : Feed) : Option (Node × Feed) :=
  match fuel with
  | 0 => none
  | fuel + 1 =>
    if f.peek = some .value then
      let f := f.skip
      if f.sees [.key, .value, .blockEnd] then blockKeys? fuel (null :: acc) f
      else
        match read? fuel true true f with
        | some (x, f) => blockKeys? fuel (x :: acc) f
        | none => none
    else blockKeys? fuel (null :: acc) f

/-- The items between square brackets, each but the first after a comma. -/
def flowItems? (fuel : Nat) (first : Bool) (acc : List Node) (f : Feed) : Option (Node × Feed) :=
  match fuel with
  | 0 => none
  | fuel + 1 =>
    if f.peek = some .flowSequenceEnd then some (sequence acc.reverse, f.skip)
    else if !first && f.peek ≠ some .flowEntry then none
    else
      let f := if first then f else f.skip
      if f.peek = some .flowSequenceEnd then some (sequence acc.reverse, f.skip)
      else
        let item := if f.peek = some .key then pair? fuel f.skip else read? fuel false false f
        match item with
        | some (x, f) => flowItems? fuel false (x :: acc) f
        | none => none

/-- A pair that is an item between square brackets, after the question mark or the place of one.
A sign that follows at once ends its empty key. -/
def pair? (fuel : Nat) (f : Feed) : Option (Node × Feed) :=
  match fuel with
  | 0 => none
  | fuel + 1 => do
    let (k, f) ←
      if f.sees [.value, .flowEntry, .flowSequenceEnd] then some (null, f.skip)
      else read? fuel false false f
    let (v, f) ←
      if f.peek = some .value then
        let f := f.skip
        if f.sees [.flowEntry, .flowSequenceEnd] then some (null, f) else read? fuel false false f
      else some (null, f)
    return (mapping (pair [k, v]), f)

/-- The keys and values between braces, from a key on. -/
def flowKeys? (fuel : Nat) (first : Bool) (acc : List Node) (f : Feed) : Option (Node × Feed) :=
  match fuel with
  | 0 => none
  | fuel + 1 =>
    if f.peek = some .flowMappingEnd then some (mapping (pair acc.reverse), f.skip)
    else if !first && f.peek ≠ some .flowEntry then none
    else
      let f := if first then f else f.skip
      if f.peek = some .key then
        let f := f.skip
        if f.sees [.value, .flowEntry, .flowMappingEnd] then flowValues? fuel (null :: acc) f
        else
          match read? fuel false false f with
          | some (x, f) => flowValues? fuel (x :: acc) f
          | none => none
      else if f.peek = some .value then flowValues? fuel (null :: acc) f
      else if f.peek = some .flowMappingEnd then some (mapping (pair acc.reverse), f.skip)
      else
        match read? fuel false false f with
        | some (x, f) => flowKeys? fuel false (null :: x :: acc) f
        | none => none

/-- The keys and values between braces, from a value on. -/
def flowValues? (fuel : Nat) (acc : List Node) (f : Feed) : Option (Node × Feed) :=
  match fuel with
  | 0 => none
  | fuel + 1 =>
    if f.peek = some .value then
      let f := f.skip
      if f.sees [.flowEntry, .flowMappingEnd] then flowKeys? fuel false (null :: acc) f
      else
        match read? fuel false false f with
        | some (x, f) => flowKeys? fuel false (x :: acc) f
        | none => none
    else flowKeys? fuel false (null :: acc) f

end

/-- The directives before a document; the last one alone says what handles stand for. -/
def directives? (handles : List (String × String)) (version : Bool) : List Token → Option Feed
  | .version :: r => if version then none else directives? [] true r
  | .handle name uri :: r => directives? [(name, uri)] version r
  | r => some { tokens := r, handles }

/-- The token cannot belong to the document that has begun before it. -/
def isOutside : Token → Bool
  | .version | .handle _ _ | .documentStart | .documentEnd => true
  | _ => false

/-- The value of the document, if there is one; there must not be more than one. -/
def ofTokens? (ts : List Token) : Option (Option Node) := do
  let ts := ts.dropWhile (· == .documentEnd)
  if ts.isEmpty then return none
  else
    let f ← directives? [] false ts
    let marked := f.peek = some .documentStart
    if !marked && f.tokens.length < ts.length then none
    else
      let f := if marked then f.skip else f
      let (x, f) ←
        if marked && f.peek.all isOutside then
          some (null, f)
        else read? (4 * ts.length + 8) true false f
      if (f.tokens.dropWhile (· == .documentEnd)).isEmpty then return some x else none

/-- The value of the document of a text, if there is one. -/
def ofText? (s : String) : Option (Option Node) := (Token.ofText? s).bind ofTokens?

end Node

end Yaml

end TransactionalTest
