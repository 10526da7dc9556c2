import TransactionalTest.Settings.Basic
import TransactionalTest.Text.Scan

/-!
# Settings in INI files

Lines of `key = value` or `key: value`, some of them under a `[section]`.  All values are texts.
Settings stand before the first section; a section is a table.

* `Ini.parse?` — the entries of a document, section by section;
* `Layer.ofIni?` — the settings among them.
-/

namespace TransactionalTest

namespace Ini

/-! ### Texts -/

/-- The character that a backslash and this one write. -/
def escape (c : Char) : Char :=
  match c with
  | '0' => '\x00'
  | 'a' => '\x07'
  | 'b' => '\x08'
  | 't' => '\t'
  | 'r' => '\r'
  | 'n' => '\n'
  | c => c

/-- The character with this number in hexadecimal digits; a plus sign may stand before them. -/
def numbered? (ds : List Char) : Option Char :=
  let ds := match ds with
    | '+' :: r => r
    | ds => ds
  (Hex.ofDigits? ds).bind fun n => if (Char.ofNat n).toNat = n then some (Char.ofNat n) else none

/-- The text up to an end, which is left in place.  A backslash joins a line to the next one or
begins an escape, and so cannot be the last character of the document. -/
def textUntil (isEnd : Char → Bool) : Scanner (List Char)
  | [] => some ([], [])
  | '\\' :: '\n' :: r => textUntil isEnd r
  | '\\' :: 'x' :: a :: b :: c :: d :: r => do
    let char ← numbered? [a, b, c, d]
    let (t, r) ← textUntil isEnd r
    return (char :: t, r)
  | '\\' :: c :: r =>
    if c = 'x' then none
    else (textUntil isEnd r).map fun x => (escape c :: x.1, x.2)
  | c :: r =>
    if isEnd c then some ([], c :: r)
    else if c = '\\' then none
    else (textUntil isEnd r).map fun x => (c :: x.1, x.2)

/-- The end of a line. -/
def isLineEnd (c : Char) : Bool := c = '\n' || c = '\r'

/-- The text without the blanks at its front that do not end the line. -/
def skipInLine (cs : List Char) : List Char :=
  cs.dropWhile fun c => Blank.isBlank c && !isLineEnd c

/-- The text between quotes, which may go over several lines, and the text behind it. -/
def quoted? (quote : Char) (cs : List Char) : Option (List Char × List Char) :=
  match textUntil (· = quote) cs with
  | some (t, _ :: r) => (textUntil isLineEnd r).map fun x => (t ++ x.1, x.2)
  | _ => none

/-- A value up to the end of its line.  Quotes have a meaning at its front only. -/
def value? : Scanner (List Char)
  | [] => some ([], [])
  | c :: r => if c = '"' || c = '\'' then quoted? c r else textUntil isLineEnd (c :: r)

/-! ### Documents -/

/-- The entries of a section, in order; those before the first section have no name. -/
abbrev Section := Option String × List (String × String)

/-- The sections with another entry in the last one. -/
def addEntry (key value : String) (sections : List Section) : List Section :=
  match sections.getLast? with
  | some (name, es) => sections.dropLast ++ [(name, es ++ [(key, value)])]
  | none => [(none, [(key, value)])]

/-- A name or a value without blanks at its ends, however they were written. -/
def label (cs : List Char) : String := String.ofList (Blank.trimChars cs)

/-- The lines of a document; a comment fills its line.  `fuel` bounds the number of lines. -/
def lines : Nat → Bool → List Section → List Char → Option (List Section)
  | 0, _, _, _ => none
  | fuel + 1, atLineStart, sections, cs =>
    let (blanks, r) := cs.span Blank.isBlank
    match r with
    | [] => some sections
    | '[' :: r =>
      match textUntil (· = ']') r with
      | some (name, _ :: r) => lines fuel false (sections ++ [(some (label name), [])]) r
      | _ => none
    | c :: r =>
      if c = ';' || c = '#' then
        if (blanks.getLast?.map (· == '\n')).getD atLineStart then
          lines fuel false sections (r.dropWhile (· ≠ '\n'))
        else none
      else if c = '=' || c = ':' then none
      else match textUntil (fun c => c = '=' || c = ':') (c :: r) with
        | some (key, _ :: r) =>
          if label key = "" then none
          else match value? (skipInLine r) with
            | some (v, r) => lines fuel false (addEntry (label key) (label v) sections) r
            | none => none
        | _ => none

/-- The sections of a document. -/
def parse? (s : String) : Option (List Section) := lines (s.length + 1) true [] s.toList

end Ini

/-- What an INI document says; of several settings or sections of one name the last one counts. -/
def Layer.ofIni? (content : String) : Option Layer :=
  (Ini.parse? content).map fun sections =>
    Table.ofList (sections.flatMap fun s =>
      match s.1 with
      | none => s.2.map fun e => (e.1, Setting.text e.2)
      | some name => [(name, .table s.2.isEmpty)])

end TransactionalTest
