import TurtleGraphics.Text.Quoted

/-! # Paths

A path is the list of the names that lead to a file. Names that say nothing, such as a single
period, are left out; the path without names is the working directory. A path that starts at the
root of the file system has the root as its first name.
-/

namespace TurtleGraphics

/-- The names that lead from the working directory to a file. -/
structure Path where
  /-- The names. -/
  parts : List String
  deriving Repr, DecidableEq

/-- Why a path cannot be given another name. -/
inductive PathFault where
  | invalidSuffix (suffix : String)
  | noName (path : Path)
  deriving Repr, DecidableEq

namespace Path

def root : String := "/"

def here : Path := ⟨[]⟩

def ofString (text : String) : Path :=
  let names := (text.splitOn "/").filter fun name => name ≠ "" ∧ name ≠ "."
  ⟨if text.startsWith "/" then root :: names else names⟩

def toString (path : Path) : String :=
  match path.parts with
  | [] => "."
  | first :: rest =>
    if first = root then root ++ "/".intercalate rest else "/".intercalate (first :: rest)

def quoted (path : Path) : String :=
  Text.quoted path.toString

/-- The last name; the working directory and the root have none. -/
def name (path : Path) : String :=
  match path.parts.getLast? with
  | none => ""
  | some name => if name = root then "" else name

def parent (path : Path) : Path :=
  if path.parts = [root] then path else ⟨path.parts.dropLast⟩

def upward : String := ".."

/-- Names without those that lead up again, from the last one up. Those at the start are kept, but
    there is nothing above the root. -/
def climb : List String → String → List String
  | [], name => [name]
  | last :: above, name =>
    if name ≠ upward ∨ last = upward then name :: last :: above
    else if last = root then [root]
    else above

/-- The path without names that lead up again. It spells the same place unless a name on the way is
    no directory. -/
def direct (path : Path) : Path :=
  ⟨(path.parts.foldl climb []).reverse⟩

def rename (path : Path) (name : String) : Path :=
  ⟨path.parts.dropLast ++ [name]⟩

/-- A name up to its last period, and the rest. A period at either end of the name does not
    count. -/
def splitSuffix (name : String) : String × String :=
  let cs := name.toList
  let tail := (cs.reverse.takeWhile (· ≠ '.')).reverse
  let stem := cs.take (cs.length - tail.length - 1)
  if cs.length = tail.length ∨ stem = [] ∨ tail = [] then (name, "")
  else (String.ofList stem, String.ofList ('.' :: tail))

def stem (path : Path) : String :=
  (splitSuffix path.name).1

/-- The suffix of the last name: its last period and what follows. -/
def suffix (path : Path) : String :=
  (splitSuffix path.name).2

def withName (path : Path) (name : String) : Except PathFault Path :=
  if path.name = "" then .error (.noName path) else .ok (path.rename name)

/-- The path with another suffix. A suffix starts with a period that does not stand alone, or is
    empty, and names no directory. -/
def withSuffix (path : Path) (suffix : String) : Except PathFault Path :=
  let cs := suffix.toList
  if cs.contains '/' ∨ (cs ≠ [] ∧ cs.head? ≠ some '.') ∨ cs = ['.'] then
    .error (.invalidSuffix suffix)
  else path.withName (path.stem ++ suffix)

end Path

namespace PathFault

def message : PathFault → String
  | .invalidSuffix suffix => "Invalid suffix " ++ Text.quoted suffix
  | .noName path => "PosixPath(" ++ path.quoted ++ ") has an empty name"

end PathFault

end TurtleGraphics
