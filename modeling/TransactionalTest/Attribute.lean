import TransactionalTest.Decimal.Width
import TransactionalTest.Text.Blank

/-!
# Transaction attributes

The transactional intent that a test method or a test class declares.

* `Propagation`, `Isolation`, `Timeout` — the parts;
* `Attribute` — the whole, with `Attribute.qualifierText` and `Attribute.forTest`;
* `Attribute.display` — its text in diagnostics.
-/

namespace TransactionalTest

/-! ### Propagation -/

/-- How a requested transaction relates to one that is already active. -/
inductive Propagation where
  | required
  | supports
  | mandatory
  | requiresNew
  | notSupported
  | never
  | nested
  deriving DecidableEq, Repr, Inhabited

namespace Propagation

/-- Every mode. -/
def all : List Propagation :=
  [required, supports, mandatory, requiresNew, notSupported, never, nested]

/-- The name of the mode. -/
def text : Propagation → String
  | required => "required"
  | supports => "supports"
  | mandatory => "mandatory"
  | requiresNew => "requires_new"
  | notSupported => "not_supported"
  | never => "never"
  | nested => "nested"

/-- The mode of this name. -/
def ofText? (s : String) : Option Propagation := all.find? fun p => p.text == s

@[simp] theorem ofText?_text (p : Propagation) : ofText? p.text = some p := by
  cases p <;> decide

/-- The text for a name that no mode has. -/
def unknownMessage (s : String) : String := "Invalid propagation mode: " ++ s

/-- The test must never run inside a transaction. -/
def optsOut (p : Propagation) : Bool := p == notSupported

end Propagation

/-! ### Isolation -/

/-- The isolation level handed to the transaction manager. -/
inductive Isolation where
  /-- Whatever the underlying resource uses. -/
  | default
  | readUncommitted
  | readCommitted
  | repeatableRead
  | serializable
  deriving DecidableEq, Repr, Inhabited

namespace Isolation

/-- Every level. -/
def all : List Isolation :=
  [default, readUncommitted, readCommitted, repeatableRead, serializable]

/-- The name of the level. -/
def text : Isolation → String
  | default => "default"
  | readUncommitted => "read_uncommitted"
  | readCommitted => "read_committed"
  | repeatableRead => "repeatable_read"
  | serializable => "serializable"

/-- The level of this name. -/
def ofText? (s : String) : Option Isolation := all.find? fun i => i.text == s

@[simp] theorem ofText?_text (i : Isolation) : ofText? i.text = some i := by
  cases i <;> decide

end Isolation

/-! ### Timeout -/

/-- A length of time: whole seconds and the nanoseconds beyond them. -/
structure Timeout where
  secs : Nat
  nanos : Nat
  secs_lt : secs < Width.bits64
  nanos_lt : nanos < 1000000000
  deriving DecidableEq, Repr

namespace Timeout

/-- The length of `secs` seconds and `nanos` nanoseconds, a billion of which carry into a second;
none when the seconds run past 64 bits. -/
def ofParts? (secs nanos : Nat) : Option Timeout :=
  if h : secs + nanos / 1000000000 < Width.bits64 then
    some ⟨secs + nanos / 1000000000, nanos % 1000000000, h, Nat.mod_lt _ (by decide)⟩
  else none

/-- The length of so many milliseconds. -/
def ofMillis? (ms : Nat) : Option Timeout := ofParts? (ms / 1000) (ms % 1000 * 1000000)

@[simp] theorem ofParts?_parts (t : Timeout) : ofParts? t.secs t.nanos = some t := by
  obtain ⟨s, n, hs, hn⟩ := t
  have h0 : n / 1000000000 = 0 := Nat.div_eq_of_lt hn
  have h1 : n % 1000000000 = n := Nat.mod_eq_of_lt hn
  simp only [ofParts?, h0, h1, Nat.add_zero, hs, dif_pos]

end Timeout

/-! ### The attribute -/

/-- The transactional intent of one test. -/
structure Attribute where
  propagation : Propagation := .required
  isolation : Isolation := .default
  readOnly : Bool := false
  timeout : Option Timeout := none
  /-- Picks a transaction manager; a blank one counts as none. -/
  qualifier : Option String := none
  /-- The name that the manager shows for the transaction. -/
  name : Option String := none
  deriving DecidableEq, Repr, Inhabited

namespace Attribute

/-- The qualifier, if one with text was declared; it is not trimmed. -/
def qualifierText (a : Attribute) : Option String :=
  a.qualifier.filter fun q => !Blank.isBlankText q

/-- Name the transaction after the test unless the declaration named it. -/
def forTest (a : Attribute) (test : String) : Attribute :=
  { a with name := some (a.name.getD test) }

/-- The attribute in diagnostics: the propagation, then whatever else is set. -/
def display (a : Attribute) : String :=
  a.propagation.text ++ (if a.readOnly then ",read_only" else "") ++
    (match a.qualifierText with | some q => ",qualifier=" ++ q | none => "") ++
    (match a.name with | some n => ",name=" ++ n | none => "")

theorem forTest_of_name {a : Attribute} {n : String} (h : a.name = some n) (test : String) :
    a.forTest test = a := by
  cases a; simp_all [forTest]

@[simp] theorem forTest_forTest (a : Attribute) (s t : String) :
    (a.forTest s).forTest t = a.forTest s := rfl

end Attribute

end TransactionalTest
