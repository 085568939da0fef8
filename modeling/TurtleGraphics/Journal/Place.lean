import TurtleGraphics.Datum.Printer
import TurtleGraphics.Number.Rounded

/-! # Places of templates

A place says how an argument is written: its sign, its least width, its precision, and by a letter
whether it is shown as text, as an integer in some base, with decimals, or as one character.
-/

namespace TurtleGraphics

/-- How the argument of a place is written. -/
structure Place where
  /-- Whether to fill up on the right instead of the left. -/
  left : Bool := false
  /-- Whether to fill up numbers with zeros. -/
  zeros : Bool := false
  /-- Whether a number that is not negative gets a plus sign. -/
  plus : Bool := false
  /-- Whether a number that is not negative gets a blank where a sign would stand. -/
  blank : Bool := false
  /-- Whether numbers in another base say which, and numbers with decimals keep point and zeros. -/
  marked : Bool := false
  /-- The least number of characters. -/
  width : Nat := 0
  /-- The least number of digits, the number of decimals, or the largest number of characters. -/
  precision : Option Nat := none
  deriving Repr, DecidableEq

/-- A number that a place gives for itself. -/
inductive Measure where
  | width
  | precision
  deriving Repr, DecidableEq

namespace Measure

def name : Measure → String
  | .width => "width"
  | .precision => "precision"

/-- The kind of number that holds the measure. -/
def holder : Measure → String
  | .width => "C ssize_t"
  | .precision => "C int"

/-- The measure lies below this, and not below its negative. -/
def limit : Measure → Nat
  | .width => Nat.pow 2 63
  | .precision => Nat.pow 2 31

end Measure

/-- Why a template and its arguments give no message. -/
inductive TemplateFault where
  /-- The template ends inside a place. -/
  | incomplete
  /-- The template ends inside the name of an argument. -/
  | incompleteName
  /-- A place ends with a letter that has no meaning. -/
  | unsupported (letter : Char) (index : Nat)
  /-- There are more places than arguments. -/
  | tooFew
  /-- There are more arguments than places. -/
  | tooMany
  /-- A place names its argument, but the arguments have no names. -/
  | unnamed
  /-- No argument has the name. -/
  | unknownName (name : String)
  /-- The argument that gives a measure is no integer. -/
  | measureNotInteger
  /-- The argument that gives a measure is beyond its limit. -/
  | measureBeyond (measure : Measure)
  /-- The digits of a measure go beyond its limit. -/
  | measureTooBig (measure : Measure)
  /-- An integer cannot have that many digits. -/
  | precisionTooLarge
  /-- Nothing can be that wide. -/
  | tooWide
  /-- An argument is no number. -/
  | notReal (letter : Char) (got : Datum)
  /-- An argument is no integer. -/
  | notInteger (letter : Char) (got : Datum)
  /-- An argument is no number that has decimals. -/
  | noDecimals (got : Datum)
  /-- An argument is neither one character nor an integer. -/
  | notCharacter
  /-- An integer is no code point. -/
  | noCodePoint
  /-- A number is too large, or stands for no integer. -/
  | number (fault : NumberFault)

namespace TemplateFault

def message : TemplateFault → String
  | .incomplete => "incomplete format"
  | .incompleteName => "incomplete format key"
  | .unsupported letter index =>
    let known := 0x1f ≤ letter.toNat ∧ letter.toNat ≤ 0x7e
    "unsupported format character '" ++ String.singleton (if known then letter else '?') ++
      "' (0x" ++ Text.hexadecimal 1 letter.toNat ++ ") at index " ++ toString index
  | .tooFew => "not enough arguments for format string"
  | .tooMany => "not all arguments converted during string formatting"
  | .unnamed => "format requires a mapping"
  | .unknownName name => Text.quoted name
  | .measureNotInteger => "* wants int"
  | .measureBeyond measure => "Python int too large to convert to " ++ measure.holder
  | .measureTooBig measure => measure.name ++ " too big"
  | .precisionTooLarge => "precision too large"
  | .tooWide => ""
  | .notReal letter got =>
    "%" ++ String.singleton letter ++ " format: a real number is required, not " ++ got.kindName
  | .notInteger letter got =>
    "%" ++ String.singleton letter ++ " format: an integer is required, not " ++ got.kindName
  | .noDecimals got => "must be real number, not " ++ got.kindName
  | .notCharacter => "%c requires int or char"
  | .noCodePoint => "%c arg not in range(0x110000)"
  | .number fault => fault.message

end TemplateFault

namespace Place

/-- Fill up on the side that the place asks for. -/
def pad {α : Type} (place : Place) (blank : α) (written : List α) : List α :=
  let filling := List.replicate (place.width - written.length) blank
  if place.left then written ++ filling else filling ++ written

/-- Write a number from its sign, the mark of its base, and its digits. Zeros are filled in between
    sign and digits. -/
def number (place : Place) (negative : Bool) (mark digits : List Char) : List Char :=
  let sign :=
    if negative then ['-'] else if place.plus then ['+'] else if place.blank then [' '] else []
  let start := sign ++ mark
  if place.zeros ∧ !place.left then start ++ Text.padLeft '0' (place.width - start.length) digits
  else place.pad ' ' (start ++ digits)

/-- Write text, cut to the precision. -/
def text (place : Place) (written : Phrase) : Phrase :=
  place.pad (.ofChar ' ') (match place.precision with
    | none => written
    | some n => written.take n)

/-- The largest precision of an integer. -/
def mostDigits : Nat := Nat.pow 2 31 - 4

def inBase (place : Place) (base : Nat) (mark : List Char) (n : Int) :
    Except TemplateFault (List Char) :=
  if mostDigits < place.precision.getD 0 then .error .precisionTooLarge
  else
    let digits := Text.padLeft '0' (place.precision.getD 0) (Nat.toDigits base n.natAbs)
    .ok (place.number (n < 0) (if place.marked then mark else []) digits)

/-- The digits before the point and after it. The point is left out where no digit follows, unless
    the place keeps it. -/
def pointed (place : Place) (parts : List Char × List Char) : List Char :=
  if parts.2 = [] ∧ !place.marked then parts.1 else parts.1 ++ '.' :: parts.2

/-- The same without zeros at the end, unless the place keeps them. -/
def trimmed (place : Place) (parts : List Char × List Char) : List Char :=
  place.pointed (if place.marked then parts else (parts.1, Decimal.dropZeros parts.2))

/-- A power of ten: the sign and two digits or more. -/
def power (n : Int) : List Char :=
  'e' :: (if n < 0 then '-' else '+') :: Text.padLeft '0' 2 (Nat.toDigits 10 n.natAbs)

/-- The digits of a double with decimals (`f`), with a power of ten (`e`), or in whichever of the
    two forms is shorter (`g`). The precision is six unless the place has one. -/
def realDigits (place : Place) (letter : Char) (significand : Nat) (exponent : Int) : List Char :=
  let precision := place.precision.getD 6
  if letter = 'f' then place.pointed (Decimal.withDecimals precision significand exponent)
  else if letter = 'e' then
    let found := Decimal.rounded (precision + 1) significand exponent
    place.pointed (found.digits.splitAt 1) ++ power (found.point - 1)
  else
    let asked := max 1 precision
    let count := if place.marked then asked else min asked Decimal.significantDigits
    let found := Decimal.rounded count significand exponent
    if found.point < -3 ∨ asked < found.point then
      place.trimmed (found.digits.splitAt 1) ++ power (found.point - 1)
    else place.trimmed found.split

def real (place : Place) (letter : Char) (x : Float) : List Char :=
  let negative := Double.isNegative x
  match Binary.ofFloat x with
  | .error .notANumber => place.number false [] "nan".toList
  | .error _ => place.number negative [] "inf".toList
  | .ok value =>
    place.number negative [] (place.realDigits letter value.significand.natAbs value.exponent)

/-- The integer that a place in decimal digits shows. -/
def integerOf (letter : Char) : Datum → Except TemplateFault Int
  | .int n => .ok n
  | .bool value => .ok (if value then 1 else 0)
  | .float x => (Double.truncate x).mapError .number
  | got => .error (.notReal letter got)

/-- The integer that a place in another base shows. -/
def wholeOf (letter : Char) : Datum → Except TemplateFault Int
  | .int n => .ok n
  | .bool value => .ok (if value then 1 else 0)
  | got => .error (.notInteger letter got)

def realOf : Datum → Except TemplateFault Float
  | .int n => (Double.ofInt n).mapError .number
  | .bool value => .ok (if value then 1.0 else 0.0)
  | .float x => .ok x
  | got => .error (.noDecimals got)

def pointAt (n : Int) : Except TemplateFault CodePoint :=
  match if 0 ≤ n then CodePoint.ofNat? n.toNat else none with
  | some point => .ok point
  | none => .error .noCodePoint

def pointOf : Datum → Except TemplateFault CodePoint
  | .text [point] => .ok point
  | .int n => pointAt n
  | .bool value => pointAt (if value then 1 else 0)
  | _ => .error .notCharacter

/-- A number as the letter at the end of a place asks for it, if it asks for one. -/
def convertNumber (place : Place) (letter : Char) (index : Nat) (argument : Datum) :
    Except TemplateFault (List Char) := do
  match letter with
  | 'd' => place.inBase 10 [] (← integerOf letter argument)
  | 'i' => place.inBase 10 [] (← integerOf letter argument)
  | 'u' => place.inBase 10 [] (← integerOf letter argument)
  | 'o' => place.inBase 8 ['0', 'o'] (← wholeOf letter argument)
  | 'x' => place.inBase 16 ['0', 'x'] (← wholeOf letter argument)
  | 'X' => return (← place.inBase 16 ['0', 'x'] (← wholeOf letter argument)).map Char.toUpper
  | 'e' => return place.real 'e' (← realOf argument)
  | 'f' => return place.real 'f' (← realOf argument)
  | 'g' => return place.real 'g' (← realOf argument)
  | 'E' => return (place.real 'e' (← realOf argument)).map Char.toUpper
  | 'F' => return (place.real 'f' (← realOf argument)).map Char.toUpper
  | 'G' => return (place.real 'g' (← realOf argument)).map Char.toUpper
  | _ => throw (.unsupported letter index)

/-- An argument as the letter at the end of a place asks for it, of whatever width. The index is the
    letter's. -/
def convert (place : Place) (letter : Char) (index : Nat) (argument : Datum) :
    Except TemplateFault Phrase := do
  match letter with
  | 's' => return place.text argument.shown
  | 'r' => return place.text argument.quoted
  | 'a' => return place.text (Text.inAscii argument.quoted)
  | 'c' => return place.pad (.ofChar ' ') [← pointOf argument]
  | _ => return (← place.convertNumber letter index argument).map .ofChar

/-- Nothing wider than this is written. -/
def widest : Nat := Nat.pow 2 36

/-- An argument as the letter at the end of a place asks for it. A place that is too wide matters
    only once everything else is in order. -/
def write (place : Place) (letter : Char) (index : Nat) (argument : Datum) :
    Except TemplateFault Phrase :=
  if place.width ≤ widest then place.convert letter index argument
  else do
    let _ ← ({ place with width := 0 } : Place).convert letter index argument
    throw .tooWide

end Place

end TurtleGraphics
