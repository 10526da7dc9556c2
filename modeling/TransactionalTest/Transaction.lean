import TransactionalTest.Attribute
import TransactionalTest.Text.Inspect

/-!
# Transactions and their managers

* `TransactionId` — which transaction;
* `Status` — the handle that a begin returns;
* `Manager` — the handle of a transaction manager;
* `TransactionError` — what a manager may answer.

What a manager remembers is a `Store`; a `Manager` is only its name and identity.
-/

namespace TransactionalTest

/-! ### Identity -/

/-- Which transaction: the n-th to begin, or one known by a 128-bit identifier. -/
inductive TransactionId where
  | serial (n : Nat)
  | uuid (bits : Nat)
  deriving DecidableEq, Repr, Inhabited

namespace TransactionId

/-- Thirty-two digits in groups of eight, four, four, four and twelve. -/
def uuidText (bits : Nat) : String :=
  let ds := Hex.padded 32 bits
  let group (i n : Nat) := String.ofList ((ds.drop i).take n)
  String.intercalate "-" [group 0 8, group 8 4, group 12 4, group 16 4, group 20 12]

/-- The identifier in texts. -/
def text : TransactionId → String
  | serial n => "<tx:" ++ toString n ++ ">"
  | uuid bits => uuidText bits

/-- The thirty-two digits of an identifier in groups with hyphens between them. -/
def groupedDigits? (cs : List Char) : Option (List Char) :=
  if cs.length = 36 ∧ [8, 13, 18, 23].all (fun i => cs[i]? = some '-') then
    some (cs.take 8 ++ (cs.drop 9).take 4 ++ (cs.drop 14).take 4 ++ (cs.drop 19).take 4 ++
      cs.drop 24)
  else none

/-- The groups of an identifier by the length of its text: alone, in braces, or as a name of the
`uuid` namespace. -/
def groups? (cs : List Char) : Option (List Char) :=
  match cs.length with
  | 36 => some cs
  | 38 => if cs.head? = some '\x7b' ∧ cs.getLast? = some '\x7d' then some cs.tail.dropLast else none
  | 45 => if cs.take 9 = "urn:uuid:".toList then some (cs.drop 9) else none
  | _ => none

/-- Read an identifier: thirty-two hexadecimal digits, or the groups that `uuidText` writes, these
also in braces or after `urn:uuid:`. -/
def ofUuidText? (s : String) : Option TransactionId :=
  let cs := s.toList
  let digits := if cs.length = 32 then some cs else (groups? cs).bind groupedDigits?
  (digits.bind Hex.ofDigits?).map uuid

end TransactionId

/-! ### Handles -/

/-- The handle of one transaction. -/
structure Status where
  id : TransactionId
  name : Option String
  readOnly : Bool
  deriving DecidableEq, Repr, Inhabited

namespace Status

/-- The handle of a transaction begun with this attribute. -/
def ofAttribute (id : TransactionId) (a : Attribute) : Status := ⟨id, a.name, a.readOnly⟩

/-- The handle in texts: the name, if there is one, and the identifier. -/
def display (s : Status) : String :=
  match s.name with
  | some n => n ++ " (" ++ s.id.text ++ ")"
  | none => s.id.text

end Status

/-- A transaction manager: who it is and the name it goes by.  Two managers may share a name. -/
structure Manager where
  id : Nat
  name : String
  deriving DecidableEq, Repr, Inhabited

/-! ### Errors -/

/-- What a transaction manager may answer instead of doing what it is asked. -/
inductive TransactionError where
  | alreadyCompleted (id : TransactionId)
  | unknownTransaction (id : TransactionId)
  | begin (reason : String)
  | commit (id : TransactionId) (reason : String)
  | rollback (id : TransactionId) (reason : String)
  deriving DecidableEq, Repr

/-- The text of the error. -/
def TransactionError.message : TransactionError → String
  | alreadyCompleted id => "Transaction " ++ id.text ++ " is already completed"
  | unknownTransaction id => "Transaction " ++ id.text ++ " is not known to this manager"
  | begin reason => "Could not begin transaction: " ++ reason
  | commit id reason => "Commit of transaction " ++ id.text ++ " failed: " ++ reason
  | rollback id reason => "Rollback of transaction " ++ id.text ++ " failed: " ++ reason

end TransactionalTest
