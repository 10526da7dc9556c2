import TransactionalTest.Text.Hex

/-!
# Patterns in log filters

A directive may ask for a field whose value fits a regular expression.  No report is ever held
against one, but a directive with an ill-formed expression cannot be read.

* `Pattern.isWellFormed` — the text is a regular expression.

The text of a value stops at the first closing brace or comma, so whatever needs one of them, such
as a counted repetition, is ill-formed here.
-/

namespace TransactionalTest

namespace Pattern

/-- What follows so many hexadecimal digits. -/
def afterDigits? (n : Nat) (cs : List Char) : Option (List Char) :=
  let ds := cs.take n
  if ds.length = n && ds.all (fun c => (Hex.value? c).isSome) then some (cs.drop n) else none

/-- What follows an escape, after its backslash: a character by its number, a class of characters by
its letter, an end of the text, or a sign that stands for itself. -/
def afterEscape? : List Char → Option (List Char)
  | [] => none
  | 'x' :: r => afterDigits? 2 r
  | 'u' :: r => afterDigits? 4 r
  | 'U' :: r => afterDigits? 8 r
  | 'p' :: c :: r | 'P' :: c :: r => if "CLMNPSZ".toList.contains c then some r else none
  | c :: r =>
    if c.isAlphanum then if "dDsSwWaftnrvAz".toList.contains c then some r else none
    else if c = '<' || c = '>' || 0x80 ≤ c.toNat then none
    else some r

/-- The flags that a group may set. -/
def isFlag (c : Char) : Bool := "imsUuxR".toList.contains c

/-- What follows flags and their end; the flags behind a minus sign are cleared. -/
def afterFlags? (cs : List Char) : Option (Bool × List Char) :=
  let (set, r) := cs.span isFlag
  let (clear, cleared, r) := match r with
    | '-' :: r =>
      let (fs, r) := r.span isFlag
      (true, fs, r)
    | r => (false, [], r)
  if !(set ++ cleared).Nodup || (clear && cleared.isEmpty) then none
  else match r with
    | ':' :: r => some (true, r)
    | ')' :: r => if set.isEmpty && cleared.isEmpty then none else some (false, r)
    | _ => none

/-- What follows the name of a group and its end. -/
def afterName? (cs : List Char) : Option (List Char) :=
  let (name, r) := cs.span fun c => c.isAlphanum || c = '_'
  match name, r with
  | c :: _, '>' :: r => if c.isDigit then none else some r
  | _, _ => none

/-- What follows an opening parenthesis and the words about the group; and whether a group is open
then, which is not so for flags alone. -/
def afterOpening? : List Char → Option (Bool × List Char)
  | '?' :: 'P' :: '<' :: r => (afterName? r).map fun r => (true, r)
  | '?' :: '<' :: r => (afterName? r).map fun r => (true, r)
  | '?' :: r => afterFlags? r
  | r => some (true, r)

/-- What follows the closing bracket of a class of characters; `depth` more are open around it. -/
def afterClass? : Nat → Nat → List Char → Option (List Char)
  | 0, _, _ | _, _, [] => none
  | fuel + 1, depth, c :: r =>
    if c = '\\' then (afterEscape? r).bind (afterClass? fuel depth)
    else if c = '[' then afterClass? fuel (depth + 1) r
    else if c = ']' then
      match depth with
      | 0 => some r
      | depth + 1 => afterClass? fuel depth r
    else afterClass? fuel depth r

/-- The class after its opening bracket: a bracket in front closes nothing. -/
def afterBracket? (cs : List Char) : Option (List Char) :=
  let r := match cs with
    | '^' :: r => r
    | r => r
  match r.dropWhile (· = '-') with
  | ']' :: r => afterClass? (r.length + 1) 0 r
  | r => afterClass? (r.length + 1) 0 r

/-- The rest of an expression.  `depth` groups are open; `repeatable` says that something stands in
front that a sign for repetition can be about. -/
def isRest : Nat → Nat → Bool → List Char → Bool
  | _, depth, _, [] => depth = 0
  | 0, _, _, _ => false
  | fuel + 1, depth, repeatable, c :: r =>
    if c = '*' || c = '+' || c = '?' then repeatable && isRest fuel depth true r
    else if c = '|' then isRest fuel depth false r
    else if c = '(' then
      match afterOpening? r with
      | some (opened, r) => isRest fuel (if opened then depth + 1 else depth) false r
      | none => false
    else if c = ')' then
      match depth with
      | 0 => false
      | depth + 1 => isRest fuel depth true r
    else if c = '[' then
      match afterBracket? r with
      | some r => isRest fuel depth true r
      | none => false
    else if c = '\\' then
      match afterEscape? r with
      | some r => isRest fuel depth true r
      | none => false
    else c != '\x7b' && isRest fuel depth true r

/-- The text is a regular expression. -/
def isWellFormed (s : String) : Bool := isRest (s.length + 1) 0 false s.toList

end Pattern

end TransactionalTest
