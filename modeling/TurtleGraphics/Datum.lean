import TurtleGraphics.Text.Phrase

/-! # Structured data

The values of settings files, of logging context and of message arguments. A mapping keeps its
entries in the order in which their names first came up.
-/

namespace TurtleGraphics

/-- A value made of numbers, text, lists and mappings. -/
inductive Datum where
  | null
  | bool (value : Bool)
  | int (value : Int)
  | float (value : Float)
  | text (value : Phrase)
  | list (items : List Datum)
  | mapping (entries : List (Phrase × Datum))
  deriving Inhabited

/-- An integer in decimal digits, in a file or in print, has no more of them than this. -/
@[irreducible]
def mostDigits : Nat := 4300

/-- Named values in order, no name twice. -/
abbrev Entries := List (Phrase × Datum)

namespace Entries

def value? (entries : Entries) (name : Phrase) : Option Datum :=
  List.lookup name entries

/-- Give a name a value: in place if the name is there, else at the end. -/
def put : Entries → Phrase → Datum → Entries
  | [], name, value => [(name, value)]
  | (key, old) :: rest, name, value =>
    if key = name then (key, value) :: rest else (key, old) :: put rest name value

/-- Give several names their values, one after the other. -/
def putAll (entries news : Entries) : Entries :=
  news.foldl (fun acc (name, value) => acc.put name value) entries

def remove (entries : Entries) (name : Phrase) : Entries :=
  entries.filter fun (key, _) => key ≠ name

end Entries

namespace Datum

/-- The kind of a value, as messages name it. -/
def kindName : Datum → String
  | .null => "NoneType"
  | .bool _ => "bool"
  | .int _ => "int"
  | .float _ => "float"
  | .text _ => "str"
  | .list _ => "list"
  | .mapping _ => "dict"

/-- Whether the value counts as nothing: no value, false, zero or empty. -/
def isEmpty : Datum → Bool
  | .null => true
  | .bool value => !value
  | .int value => value = 0
  | .float value => value == 0
  | .text value => value.isEmpty
  | .list items => items.isEmpty
  | .mapping entries => entries.isEmpty

def parts : Datum → List Datum
  | .list items => items
  | .mapping entries => entries.map Prod.snd
  | _ => []

end Datum

end TurtleGraphics
