import TurtleGraphics.Datum
import TurtleGraphics.Number.Shortest
import TurtleGraphics.Text.Quoted

/-! # Printed forms of structured data

Values are printed in two ways: as messages show them, and as JSON in ASCII.
-/

namespace TurtleGraphics.Datum

/-- Messages write doubles with a point between `0.0001` and `10 ^ 16`, and with an exponent of two
    digits or more outside. -/
def shownFloats : DecimalLayout := ⟨-3, 16, 2, "inf", "nan"⟩

/-- JSON writes doubles in the same way, save the two that are no numbers. -/
def jsonFloats : DecimalLayout := ⟨-3, 16, 2, "Infinity", "NaN"⟩

mutual

/-- A value as messages show it, with text between quotes. -/
def quoted : Datum → String
  | .null => "None"
  | .bool true => "True"
  | .bool false => "False"
  | .int value => toString value
  | .float value => shownFloats.writeFloat value
  | .text value => value.quoted
  | .list items => "[" ++ ", ".intercalate (quotedItems items) ++ "]"
  | .mapping entries => "\x7b" ++ ", ".intercalate (quotedEntries entries) ++ "\x7d"

def quotedItems : List Datum → List String
  | [] => []
  | item :: rest => item.quoted :: quotedItems rest

def quotedEntries : List (Phrase × Datum) → List String
  | [] => []
  | (name, value) :: rest => (name.quoted ++ ": " ++ value.quoted) :: quotedEntries rest

end

/-- A value as running text: text stands for itself. -/
def shown : Datum → Phrase
  | .text value => value
  | value => value.quoted

/-- One unit of sixteen bits as a JSON escape. -/
def jsonUnit (unit : Nat) : List Char :=
  '\\' :: 'u' :: (Text.hexadecimal 4 unit).toList

/-- One character inside JSON text: what is not plain ASCII is escaped, beyond sixteen bits as two
    surrogate units. -/
def jsonChar (c : Char) : List Char :=
  if c = '"' then ['\\', '"']
  else if c = '\\' then ['\\', '\\']
  else if c = '\n' then ['\\', 'n']
  else if c = '\r' then ['\\', 'r']
  else if c = '\t' then ['\\', 't']
  else if c = '\x08' then ['\\', 'b']
  else if c = '\x0c' then ['\\', 'f']
  else if 0x20 ≤ c.toNat ∧ c.toNat ≤ 0x7e then [c]
  else if c.toNat ≤ 0xffff then jsonUnit c.toNat
  else
    let rest := c.toNat - 0x10000
    jsonUnit (0xd800 + rest / 0x400) ++ jsonUnit (0xdc00 + rest % 0x400)

/-- One code point inside JSON text. Half of a surrogate pair is a unit of its own. -/
def jsonPoint (p : CodePoint) : List Char :=
  match p.char? with
  | none => jsonUnit p.number
  | some c => jsonChar c

def jsonText (text : Phrase) : List Char :=
  '"' :: text.flatMap jsonPoint ++ ['"']

mutual

def jsonChars : Datum → List Char
  | .null => "null".toList
  | .bool true => "true".toList
  | .bool false => "false".toList
  | .int value => (toString value).toList
  | .float value => (jsonFloats.writeFloat value).toList
  | .text value => jsonText value
  | .list items => '[' :: jsonItems items ++ [']']
  | .mapping entries => '\x7b' :: jsonEntries entries ++ ['\x7d']

def jsonItems : List Datum → List Char
  | [] => []
  | [item] => item.jsonChars
  | item :: rest => item.jsonChars ++ ',' :: ' ' :: jsonItems rest

def jsonEntries : List (Phrase × Datum) → List Char
  | [] => []
  | [(name, value)] => jsonText name ++ ':' :: ' ' :: value.jsonChars
  | (name, value) :: rest =>
    jsonText name ++ ':' :: ' ' :: (value.jsonChars ++ ',' :: ' ' :: jsonEntries rest)

end

def json (value : Datum) : String :=
  String.ofList value.jsonChars

end TurtleGraphics.Datum
