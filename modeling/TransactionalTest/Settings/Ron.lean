import TransactionalTest.Ron.Number

/-!
# Settings in RON files

A notation of records `(name: value, …)`, maps `{key: value, …}`, lists, tuples and options, with
line comments and nested block comments.  A document may begin with lists of the extensions that
it uses.

* `Ron.extensions` — the lists at the front of a document;
* `Ron.value` — one value at the front of a text;
* `Layer.ofRon?` — the fields of the record, or the entries of the map, that a document is.
-/

namespace TransactionalTest

namespace Ron

/-! ### Extensions -/

/-- What a document may ask for. -/
inductive Extension where
  | unwrapNewtypes
  | unwrapVariantNewtypes
  /-- A value may follow `Some` without parentheses. -/
  | implicitSome
  deriving DecidableEq, Repr

/-- The extensions by name. -/
def Extension.byName : List (String × Extension) :=
  [("unwrap_newtypes", .unwrapNewtypes), ("implicit_some", .implicitSome),
    ("unwrap_variant_newtypes", .unwrapVariantNewtypes)]

/-- The text behind these signs, each with the blanks that follow it. -/
def skipSigns? : List String → List Char → Option (List Char)
  | [], cs => some cs
  | s :: ss, cs =>
    if s.toList.isPrefixOf cs then skipSigns? ss (skip (cs.drop s.length)) else none

/-- The text behind a comma, if there is one, and the blanks around it. -/
def skipComma (cs : List Char) : Bool × List Char :=
  match skip cs with
  | ',' :: r => (true, skip r)
  | r => (false, r)

/-- The names in a list of extensions; a comma may stand behind the last one. -/
def extensionNames : Nat → Scanner (List Extension)
  | 0, _ => none
  | fuel + 1, cs => do
    let (n, r) ← name cs
    let e ← Extension.byName.lookup n
    let (comma, r) := skipComma r
    if (r.head?.map isNameChar).getD false then
      if comma then
        let (es, r) ← extensionNames fuel r
        return (e :: es, r)
      else none
    else return ([e], r)

/-- The lists of extensions at the front of a document, and the text of its value. -/
def extensions : Nat → Scanner (List Extension)
  | 0, _ => none
  | fuel + 1, cs =>
    match skip cs with
    | '#' :: r => do
      let r ← skipSigns? ["#", "!", "[", "enable", "("] ('#' :: r)
      let (es, r) ← extensionNames fuel r
      let r ← skipSigns? [")", "]"] r
      let (fs, r) ← extensions fuel r
      return (es ++ fs, r)
    | r => some ([], r)

/-! ### Values -/

/-- What a value is: a record or a map whose entries are known, a value that is there after all, or
anything else. -/
inductive Value where
  | plain (x : Setting)
  | entries (l : Layer)
  | present (x : Value)

/-- The value as a setting. -/
def Value.setting : Value → Setting
  | plain x => x
  | entries l => .table l.isEmpty
  | present x => x.setting

/-- The entries of a record or a map. -/
def Value.entries? : Value → Option Layer
  | plain _ => none
  | entries l => some l
  | present x => x.entries?

/-- A text, which a key of a map must be. -/
def Value.key? : Value → Option String
  | plain (.text s) => some s
  | _ => none

/-- The deepest nesting; a list, a record or a map counts for one, and an item of it for one
more. -/
def depthLimit : Nat := 128

mutual

/-- A value at the front of a text.  `fuel` bounds the number of values on the way, `depth` how
deep they may nest. -/
def value (es : List Extension) : Nat → Nat → Scanner Value
  | 0, _, _ => none
  | fuel + 1, depth, cs =>
    let (w, r) := cs.span isNameChar
    if w = "true".toList then some (.plain (.boolean true), r)
    else if w = "false".toList then some (.plain (.boolean false), r)
    else if w = "None".toList then some (.plain .nil, r)
    else if w = "Some".toList then
      (optional es fuel depth (skip r)).map fun x => (.present x.1, x.2)
    else if w = "inf".toList || w = "NaN".toList then (real cs).map fun x => (.plain x.1, x.2)
    else match name cs with
      | some (_, r) =>
        match skip r with
        | '(' :: r => group es fuel depth r
        | r => some (.plain .nil, r)
      | none =>
        match cs with
        | '(' :: ')' :: r => some (.plain .nil, r)
        | '(' :: r => group es fuel depth r
        | '[' :: r =>
          if depth = 0 then none
          else (items es fuel (depth - 1) ']' r).map fun r => (.plain .list, r)
        | '\x7b' :: r =>
          if depth = 0 then none
          else (members es fuel (depth - 1) r).map fun x => (.entries x.1, x.2)
        | '"' :: r => (text [] (r.length + 1) r).map fun x => (.plain (.text x.1), x.2)
        | 'r' :: r =>
          let (signs, r) := r.span (· = '#')
          match r with
          | '"' :: r =>
            (rawText signs.length r).map fun x => (.plain (.text (String.ofList x.1)), x.2)
          | _ => none
        | '\'' :: r => (quotedChar r).map fun x => (.plain (.text (String.singleton x.1)), x.2)
        | cs => (number cs).map fun x => (.plain x.1, x.2)

/-- The value that is there, in parentheses unless an extension lets them be left out. -/
def optional (es : List Extension) : Nat → Nat → Scanner Value
  | 0, _, _ => none
  | fuel + 1, depth, cs =>
    if depth = 0 then none
    else match cs with
      | '(' :: r =>
        match value es fuel (depth - 1) (skip r) with
        | none => none
        | some (x, r) =>
          match (skipComma r).2 with
          | ')' :: r => some (x, r)
          | _ => none
      | r => if es.contains .implicitSome then value es fuel (depth - 1) r else none

/-- A record or a tuple after its opening parenthesis. -/
def group (es : List Extension) : Nat → Nat → Scanner Value
  | 0, _, _ => none
  | fuel + 1, depth, cs =>
    if depth = 0 then none
    else
      let r := skip cs
      match (name r).map fun x => skip x.2 with
      | some (':' :: _) => (fields es fuel (depth - 1) r).map fun x => (.entries x.1, x.2)
      | _ => (items es fuel (depth - 1) ')' r).map fun r => (.plain .list, r)

/-- What follows the items of a list or a tuple and its closing sign. -/
def items (es : List Extension) : Nat → Nat → Char → List Char → Option (List Char)
  | 0, _, _, _ => none
  | fuel + 1, depth, close, cs =>
    match skip cs with
    | [] => none
    | c :: r =>
      if c = close then some r
      else if depth = 0 then none
      else match value es fuel (depth - 1) (c :: r) with
        | none => none
        | some (_, r) =>
          match skip r with
          | [] => none
          | d :: r =>
            if d = close then some r
            else if d = ',' then items es fuel depth close r
            else none

/-- The fields of a record up to its closing parenthesis. -/
def fields (es : List Extension) : Nat → Nat → Scanner Layer
  | 0, _, _ => none
  | fuel + 1, depth, cs =>
    match skip cs with
    | ')' :: r => some ([], r)
    | r =>
      match name r with
      | none => none
      | some (n, r) =>
        match skip r with
        | ':' :: r =>
          if depth = 0 then none
          else match value es fuel (depth - 1) (skip r) with
            | none => none
            | some (x, r) =>
              match skip r with
              | ',' :: r => (fields es fuel depth r).map fun y => ((n, x.setting) :: y.1, y.2)
              | ')' :: r => some ([(n, x.setting)], r)
              | _ => none
        | _ => none

/-- The entries of a map up to its closing brace; their keys must be texts. -/
def members (es : List Extension) : Nat → Nat → Scanner Layer
  | 0, _, _ => none
  | fuel + 1, depth, cs =>
    match skip cs with
    | '\x7d' :: r => some ([], r)
    | r =>
      if depth = 0 then none
      else match value es fuel (depth - 1) r with
        | none => none
        | some (k, r) =>
          match k.key?, skip r with
          | some n, ':' :: r =>
            match value es fuel (depth - 1) (skip r) with
            | none => none
            | some (x, r) =>
              match skip r with
              | ',' :: r => (members es fuel depth r).map fun y => ((n, x.setting) :: y.1, y.2)
              | '\x7d' :: r => some ([(n, x.setting)], r)
              | _ => none
          | _, _ => none

end

end Ron

/-- What a RON document says; of several entries under one name the last one counts. -/
def Layer.ofRon? (content : String) : Option Layer := do
  let (es, r) ← Ron.extensions (content.length + 1) content.toList
  let (x, r) ← Ron.value es (4 * content.length + 4) Ron.depthLimit r
  let l ← x.entries?
  if (Ron.skip r).isEmpty then return Table.ofList l else none

end TransactionalTest
