/-!
# The working directory

* `Workspace` — the files below the working directory;
* `Workspace.walk?` — where a path leads;
* `Workspace.read?`, `Workspace.has` — what stands there.
-/

namespace TransactionalTest

/-- The files below the working directory: path and content. -/
abbrev Workspace := List (String × String)

namespace Workspace

/-- A place in the tree of files: somewhere from the working directory down, or one of the
directories above it, of which nothing else is known. -/
inductive Place where
  | below (steps : List String)
  | above
  deriving DecidableEq, Repr

/-- The pieces of a text between the signs. -/
def pieces (sign : Char) (s : String) : List String := (s.toList.splitOn sign).map String.ofList

/-- The parts of a path between its slashes. -/
def parts (path : String) : List String := pieces '/' path

/-- A part that stays in place. -/
def isIdle (part : String) : Bool := part = "" || part = "."

/-- The steps of the path of a file. -/
def steps (path : String) : List String := (parts path).filter fun s => !isIdle s

/-- A directory stands below the working directory, or is it. -/
def isDirectory (w : Workspace) (spot : List String) : Bool :=
  spot.isEmpty || w.any fun f => spot.isPrefixOf (steps f.1) && spot.length < (steps f.1).length

/-- Where the parts of a path lead, one after another.  Each of them, also one that stays in
place, needs a directory to start from. -/
def walk? (w : Workspace) : Place → List String → Option Place
  | p, [] => some p
  | .above, s :: r => if isIdle s || s = ".." then walk? w .above r else none
  | .below spot, s :: r =>
    if !w.isDirectory spot then none
    else if isIdle s then walk? w (.below spot) r
    else if s = ".." then
      walk? w (if spot.isEmpty then .above else .below spot.dropLast) r
    else walk? w (.below (spot ++ [s])) r

/-- Where a path leads. -/
def place? (w : Workspace) (path : String) : Option Place :=
  match parts path with
  | [""] => none
  | "" :: r => w.walk? .above r
  | r => w.walk? (.below []) r

/-- The content of the file at a path. -/
def read? (w : Workspace) (path : String) : Option String :=
  match w.place? path with
  | some (.below spot) => (w.find? fun f => steps f.1 == spot).map Prod.snd
  | _ => none

/-- A file or a directory stands at the path. -/
def has (w : Workspace) (path : String) : Bool :=
  match w.place? path with
  | some (.below spot) => (w.read? path).isSome || w.isDirectory spot
  | some .above => true
  | none => false

/-- The path without the parts at its end that stay in place, so that it ends in a name, to which
an extension can be put.  A step up has no name. -/
def named? (path : String) : Option String :=
  match (parts path).reverse.dropWhile isIdle with
  | [] => none
  | s :: r => if s = ".." then none else some (String.intercalate "/" (s :: r).reverse)

/-- The extension of a file's name: what follows the last point, unless that is its first
character. -/
def extension (path : String) : String :=
  let name := (steps path).getLast?.getD ""
  match pieces '.' name with
  | [_] => ""
  | ["", _] => ""
  | parts => parts.getLast?.getD ""

end Workspace

end TransactionalTest
