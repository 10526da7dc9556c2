import TransactionalTest.Toml.Basic
import TransactionalTest.Toml.Text

/-!
# TOML numbers and moments

* `Toml.integer`, `Toml.real` — numbers, with underscores between digits;
* `Toml.moment` — a date, a time or both, given back in normal form.
-/

namespace TransactionalTest

namespace Toml

/-! ### Digits -/

/-- Digits of a class with single underscores between them, at least one, and the rest; the
underscores are dropped. -/
def digitRun (isDigit : Char → Bool) : List Char → Option (List Char × List Char)
  | [] => none
  | [c] => if isDigit c then some ([c], []) else none
  | c :: d :: r =>
    if !isDigit c then none
    else if d = '_' then (digitRun isDigit r).map fun x => (c :: x.1, x.2)
    else if isDigit d then (digitRun isDigit (d :: r)).map fun x => (c :: x.1, x.2)
    else some ([c], d :: r)

/-- A decimal integer without leading zeros: its sign and its digits. -/
def decimal (cs : List Char) : Option ((Bool × List Char) × List Char) :=
  let (negative, r) := Numeral.sign cs
  match r with
  | '0' :: r => some ((negative, ['0']), r)
  | r => (digitRun Char.isDigit r).map fun x => ((negative, x.1), x.2)

/-- The number that digits of a base write. -/
def ofBase (base : Nat) (cs : List Char) : Nat :=
  cs.foldl (fun n c => n * base + (Hex.value? c).getD 0) 0

/-- An integer of 64 bits: decimal, or after a base in lower case. -/
def integer (cs : List Char) : Option (Item × List Char) :=
  let based (base : Nat) (isDigit : Char → Bool) (r : List Char) :=
    match digitRun isDigit r with
    | some (ds, r) =>
      let n : Int := ofBase base ds
      if Width.fits64 n then some (Item.integer n, r) else none
    | none => none
  match cs with
  | '0' :: 'x' :: r => based 16 (fun c => (Hex.value? c).isSome) r
  | '0' :: 'o' :: r => based 8 (fun c => '0' ≤ c && c ≤ '7') r
  | '0' :: 'b' :: r => based 2 (fun c => c = '0' || c = '1') r
  | cs =>
    match decimal cs with
    | some ((negative, ds), r) =>
      let n : Int := if negative then -(Digits.value ds : Int) else Digits.value ds
      if Width.fits64 n then some (.integer n, r) else none
    | none => none

/-- The power of ten after a number, and the rest. -/
def power : List Char → Option (Option Int × List Char)
  | c :: r =>
    if c = 'e' || c = 'E' then
      let (negative, r) := Numeral.sign r
      (digitRun Char.isDigit r).map fun x =>
        (some (if negative then -(Digits.value x.1 : Int) else Digits.value x.1), x.2)
    else some (none, c :: r)
  | [] => some (none, [])

/-- One of the words for infinity and for no number, with a sign in front or not. -/
def specialReal (cs : List Char) : Option (Item × List Char) :=
  let (negative, r) := Numeral.sign cs
  match r with
  | 'i' :: 'n' :: 'f' :: r => some (.real (.infinite negative), r)
  | 'n' :: 'a' :: 'n' :: r => some (.real .nan, r)
  | _ => none

/-- A number with a fraction or a power of ten; one too large for 64 bits is refused. -/
def real (cs : List Char) : Option (Item × List Char) :=
  let plain : Option (Item × List Char) := do
    let ((negative, whole), r) ← decimal cs
    let (fraction, r) ← match r with
      | '.' :: r => (digitRun Char.isDigit r).map fun x => (some x.1, x.2)
      | r => some (none, r)
    let (exponent, r) ← power r
    if fraction.isNone && exponent.isNone then none
    else
      let x := Binary64.ofNumeral
        (Numeral.ofParts negative whole (fraction.getD []) (exponent.getD 0))
      if x = .infinite false then none else some (.real x, r)
  plain.or (specialReal cs)

/-! ### Moments -/

/-- A number of exactly two digits between two bounds. -/
def two (lo hi : Nat) : Scanner Nat
  | a :: b :: r =>
    if a.isDigit && b.isDigit then
      let n := Digits.value [a, b]
      if lo ≤ n ∧ n ≤ hi then some (n, r) else none
    else none
  | _ => none

/-- The years with a 29th of February. -/
def isLeap (y : Nat) : Bool := y % 4 == 0 && (y % 100 != 0 || y % 400 == 0)

/-- How many days a month has. -/
def daysIn (y m : Nat) : Nat :=
  if m = 2 then (if isLeap y then 29 else 28)
  else if m = 4 ∨ m = 6 ∨ m = 9 ∨ m = 11 then 30
  else 31

/-- A number with at least so many digits. -/
def pad (width n : Nat) : List Char :=
  let ds := Digits.text n
  List.replicate (width - ds.length) '0' ++ ds

/-- A date. -/
def date : Scanner (List Char)
  | a :: b :: c :: d :: '-' :: r => do
    if !([a, b, c, d].all Char.isDigit) then none
    let y := Digits.value [a, b, c, d]
    let (m, r) ← two 1 12 r
    match r with
    | '-' :: r =>
      let (day, r) ← two 1 31 r
      if day ≤ daysIn y m then
        return (pad 4 y ++ '-' :: pad 2 m ++ '-' :: pad 2 day, r)
      else none
    | _ => none
  | _ => none

/-- The digits of a second's fraction up to the nanosecond, without the zeros at their end. -/
def nanos (ds : List Char) : List Char :=
  let shown := ((ds.take 9).reverse.dropWhile (· = '0')).reverse
  if shown.isEmpty then [] else '.' :: shown

/-- A time of day, its hour up to a bound. -/
def timeUpTo (lastHour : Nat) (cs : List Char) : Option (List Char × List Char) := do
  let (h, r) ← two 0 lastHour cs
  match r with
  | ':' :: r =>
    let (m, r) ← two 0 59 r
    match r with
    | ':' :: r =>
      let (s, r) ← two 0 60 r
      let (fraction, r) := match r with
        | '.' :: r' =>
          let (ds, rest) := Digits.span r'
          if ds.isEmpty then ([], r) else (nanos ds, rest)
        | r => ([], r)
      return (pad 2 h ++ ':' :: pad 2 m ++ ':' :: pad 2 s ++ fraction, r)
    | _ => none
  | _ => none

/-- A time of day. -/
def time (cs : List Char) : Option (List Char × List Char) := timeUpTo 23 cs

/-- An offset from universal time, if there is one; an offset of zero has a plus. -/
def offset : List Char → Option (List Char × List Char)
  | c :: r =>
    if c = 'Z' || c = 'z' then some (['Z'], r)
    else if c = '+' || c = '-' then do
      let (h, r) ← two 0 23 r
      match r with
      | ':' :: r =>
        let (m, r) ← two 0 59 r
        let sign := if c = '-' && (h, m) != (0, 0) then '-' else '+'
        return (sign :: pad 2 h ++ ':' :: pad 2 m, r)
      | _ => none
    else some ([], c :: r)
  | [] => some ([], [])

/-- A date, a time or both.  Between the two stands a `T` of either case or a space. -/
def moment (cs : List Char) : Option (Item × List Char) :=
  match date cs with
  | some (d, r) =>
    let withTime : Option (Item × List Char) :=
      match r with
      | c :: r =>
        if c = 'T' || c = 't' || c = ' ' then do
          let (t, r) ← time r
          let (o, r) ← offset r
          return (.moment (String.ofList (d ++ 'T' :: t ++ o)), r)
        else none
      | [] => none
    withTime.or (some (.moment (String.ofList d), r))
  | none => (time cs).map fun x => (.moment (String.ofList x.1), x.2)

/-! ### Moments in texts -/

/-- The minutes of a day. -/
def dayMinutes : Nat := 1440

/-- An offset that fills a text: hours and minutes of two digits each, at most a day together, or
none at all. -/
def freeOffset? : List Char → Option (List Char)
  | [] => some []
  | c :: r =>
    if c = 'Z' || c = 'z' then (if r.isEmpty then some ['Z'] else none)
    else if c = '+' || c = '-' then do
      let (h, r) ← two 0 99 r
      match r with
      | ':' :: r =>
        let (m, r) ← two 0 99 r
        let minutes := h * 60 + m
        if r.isEmpty && minutes ≤ dayMinutes then
          let sign := if c = '-' && minutes != 0 then '-' else '+'
          return sign :: pad 2 (minutes / 60) ++ ':' :: pad 2 (minutes % 60)
        else none
      | _ => none
    else none

/-- The normal form of a moment that a text writes.  The text is read with less care than a moment
of the document: an hour may be the 24th and an offset a whole day. -/
def momentOfText? (s : String) : Option String :=
  match s.toList with
  | a :: b :: ':' :: r =>
    match timeUpTo 24 (a :: b :: ':' :: r) with
    | some (t, []) => some (String.ofList t)
    | _ => none
  | cs => do
    let (d, r) ← date cs
    match r with
    | [] => return String.ofList d
    | c :: r =>
      if c = 'T' || c = 't' || c = ' ' then
        let (t, r) ← timeUpTo 24 r
        return String.ofList (d ++ 'T' :: t ++ (← freeOffset? r))
      else none

end Toml

end TransactionalTest
