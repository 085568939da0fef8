import TurtleGraphics.Text.Hexadecimal
import TurtleGraphics.Text.Phrase
import TurtleGraphics.Text.Printable

/-! # Quoted text

Messages show text between quotes, with everything that would not print written as an escape.
Single quotes are used unless the text holds a single quote and no double quote.
-/

namespace TurtleGraphics

/-- A code point as a backslash, a letter, and its number in two, four or eight digits. -/
def CodePoint.escape (p : CodePoint) : List Char :=
  if p.number ≤ 0xff then '\\' :: 'x' :: (Text.hexadecimal 2 p.number).toList
  else if p.number ≤ 0xffff then '\\' :: 'u' :: (Text.hexadecimal 4 p.number).toList
  else '\\' :: 'U' :: (Text.hexadecimal 8 p.number).toList

/-- A code point between quotes `quote`. -/
def CodePoint.escapeWithin (quote : Char) (p : CodePoint) : List Char :=
  match p.char? with
  | none => p.escape
  | some c =>
    if c = '\\' ∨ c = quote then ['\\', c]
    else if c = '\n' then ['\\', 'n']
    else if c = '\r' then ['\\', 'r']
    else if c = '\t' then ['\\', 't']
    else if Text.isPrintable c then [c]
    else p.escape

namespace Phrase

def quote (phrase : Phrase) : Char :=
  if .ofChar '\'' ∈ phrase ∧ .ofChar '"' ∉ phrase then '"' else '\''

/-- The phrase between quotes, as messages show it. -/
def quoted (phrase : Phrase) : String :=
  String.ofList (phrase.quote :: phrase.flatMap (CodePoint.escapeWithin phrase.quote) ++
    [phrase.quote])

end Phrase

namespace Text

/-- Text between quotes, as messages show it. -/
def quoted (text : String) : String :=
  Phrase.quoted text

/-- Text with everything beyond ASCII written as an escape. -/
def inAscii (text : String) : String :=
  String.ofList (text.toList.flatMap fun c =>
    if c.toNat < 0x80 then [c] else (CodePoint.ofChar c).escape)

end Text

end TurtleGraphics
