import TransactionalTest.Settings.Basic

/-!
# Settings from environment variables

* `Environment.typed` — the kind of value that a text looks like;
* `Environment.layer` — what the variables say about settings.
-/

namespace TransactionalTest

namespace Environment

/-- The start of the names of variables that hold settings, in lower case. -/
def leader : String := "txtest_"

/-- The value that a text looks like: a truth value in any case, an integer of 64 bits, a number,
else the text itself. -/
def typed (s : String) : Setting :=
  let word := Lower.lower s
  if word = "true" then .boolean true
  else if word = "false" then .boolean false
  else match Digits.integer? s.toList with
    | some n =>
      if Width.fits64 n then .integer n
      else match Binary64.ofChars? s.toList with
        | some x => .real x
        | none => .text s
    | none => match Binary64.ofChars? s.toList with
      | some x => .real x
      | none => .text s

/-- The key that a variable sets, if it sets one. -/
def keyOf? (name : String) : Option String :=
  let cs := (Lower.lower name).toList
  if leader.toList.isPrefixOf cs then some (String.ofList (cs.drop leader.length)) else none

/-- What the variables say about settings. -/
def layer (vars : List (String × String)) : Layer :=
  vars.filterMap fun v => (keyOf? v.1).map fun key => (key, typed v.2)

end Environment

end TransactionalTest
