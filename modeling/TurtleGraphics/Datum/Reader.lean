import TurtleGraphics.Datum
import TurtleGraphics.Number.Literal
import TurtleGraphics.Text.Hexadecimal

/-! # Reading JSON

A reader takes characters off the front of its input and gives back the rest. Nesting and length
are bounded by the input itself, so the number of its characters is fuel enough.

Text between quotes is written in two ways. In data files it may go on over several lines, which are
then joined, each half of a surrogate pair stands alone, and there are more escapes.
-/

namespace TurtleGraphics

/-- How text between quotes is read. -/
structure Dialect where
  /-- Whether text goes on over the ends of lines, and has escapes for blanks and control
      characters. -/
  folds : Bool
  /-- Whether the two halves of a surrogate pair are one character. -/
  pairs : Bool

namespace Dialect

/-- JSON as programs exchange it. -/
def exchanged : Dialect := ⟨false, true⟩

/-- Data files. -/
def filed : Dialect := ⟨true, false⟩

def isBreak (c : Char) : Bool :=
  c.toNat ∈ [0xa, 0xd, 0x85, 0x2028, 0x2029]

/-- Whether a character ends a line within text. -/
def breaksText (dialect : Dialect) (c : Char) : Bool :=
  dialect.folds && isBreak c

end Dialect

namespace Datum

def skipBlanks (cs : List Char) : List Char :=
  cs.dropWhile fun c => c = ' ' || c = '\n' || c = '\r' || c = '\t'

/-- The number that four hexadecimal digits write. -/
def unit? (a b c d : Char) : Option Nat := do
  let high := 16 * (← Text.hexDigit? a) + (← Text.hexDigit? b)
  let low := 16 * (← Text.hexDigit? c) + (← Text.hexDigit? d)
  return 256 * high + low

def ofSurrogates? (high low : Nat) : Option CodePoint :=
  if 0xd800 ≤ high ∧ high < 0xdc00 ∧ 0xdc00 ≤ low ∧ low < 0xe000 then
    CodePoint.ofNat? (0x10000 + 0x400 * (high - 0xd800) + (low - 0xdc00))
  else none

/-- A phrase in reverse with one unit more at its end, which may join a high surrogate before it. -/
def pushUnit (dialect : Dialect) (unit : Nat) (acc : Phrase) : Phrase :=
  match acc with
  | [] => (CodePoint.ofNat? unit).toList
  | last :: before =>
    match if dialect.pairs then ofSurrogates? last.number unit else none with
    | some pair => pair :: before
    | none => (CodePoint.ofNat? unit).toList ++ acc

def escaped? : Char → Option Char
  | 'n' => some '\n'
  | 't' => some '\t'
  | 'r' => some '\r'
  | 'b' => some '\x08'
  | 'f' => some '\x0c'
  | '"' => some '"'
  | '\\' => some '\\'
  | '/' => some '/'
  | _ => none

/-- The character that a one-letter escape writes in data files only. -/
def escapedInFile? : Char → Option Char
  | '0' => some '\x00'
  | 'a' => some '\x07'
  | 'v' => some '\x0b'
  | 'e' => some '\x1b'
  | ' ' => some ' '
  | '\t' => some '\t'
  | 'N' => some '\u0085'
  | '_' => some '\u00a0'
  | 'L' => some '\u2028'
  | 'P' => some '\u2029'
  | _ => none

/-- The character that a one-letter escape writes in a dialect. -/
def escapedIn? (dialect : Dialect) (c : Char) : Option Char :=
  match escaped? c with
  | some plain => some plain
  | none => if dialect.folds then escapedInFile? c else none

/-- Blanks and ends of lines between the visible parts of text. -/
structure Gap where
  /-- The blanks on the last line, the last one first. -/
  blanks : List Char := []
  /-- The ends of lines, the last one first. -/
  breaks : List Char := []
  /-- Whether the first end of a line is escaped and thus stands for nothing. -/
  glued : Bool := false
  deriving Repr, DecidableEq

namespace Gap

def spaced (gap : Gap) (c : Char) : Gap :=
  { gap with blanks := c :: gap.blanks }

def broken (gap : Gap) (c : Char) : Gap :=
  let line := if c.toNat = 0x2028 ∨ c.toNat = 0x2029 then c else '\n'
  { gap with blanks := [], breaks := line :: gap.breaks }

/-- What the gap stands for. Blanks around the ends of lines do not count, and a newline alone is a
    space; before further ends of lines it is nothing. -/
def meaning (gap : Gap) : List Char :=
  match gap.glued, gap.breaks.reverse with
  | _, [] => gap.blanks.reverse
  | true, _ :: others => others
  | false, ['\n'] => [' ']
  | false, '\n' :: others => others
  | false, all => all

/-- A phrase in reverse with the gap at its end. -/
def after (gap : Gap) (acc : Phrase) : Phrase :=
  gap.meaning.reverse.map CodePoint.ofChar ++ acc

end Gap

/-- Whether a line starts with the mark of the start or the end of a document. -/
def startsDocument (cs : List Char) : Bool :=
  ("---".toList.isPrefixOf cs || "...".toList.isPrefixOf cs) &&
    (cs.drop 3).head?.all fun c => c = ' ' || c = '\t' || Dialect.isBreak c

/-- The text up to the closing quote, after the code points of `acc` in reverse and a gap. -/
def readText (dialect : Dialect) (acc : Phrase) (gap : Gap) :
    List Char → Option (Phrase × List Char)
  | [] => none
  | '"' :: rest => some ((gap.after acc).reverse, rest)
  | '\\' :: 'u' :: a :: b :: c :: d :: rest =>
    match unit? a b c d with
    | none => none
    | some unit => readText dialect (pushUnit dialect unit (gap.after acc)) {} rest
  | '\\' :: 'x' :: a :: b :: rest =>
    match unit? '0' '0' a b with
    | none => none
    | some unit =>
      if dialect.folds then readText dialect (pushUnit dialect unit (gap.after acc)) {} rest
        else none
  | '\\' :: c :: rest =>
    if dialect.breaksText c then
      if startsDocument rest then none
      else readText dialect (gap.after acc) (({ glued := true } : Gap).broken c) rest
    else
      match escapedIn? dialect c with
      | none => none
      | some plain => readText dialect (.ofChar plain :: gap.after acc) {} rest
  | c :: rest =>
    if dialect.breaksText c then
      if startsDocument rest then none else readText dialect acc (gap.broken c) rest
    else if c = ' ' ∨ c = '\t' then readText dialect acc (gap.spaced c) rest
    else readText dialect (.ofChar c :: gap.after acc) {} rest

def spanDigits (cs : List Char) : List Char × List Char :=
  cs.span Char.isDigit

/-- The fraction after a point, or no digits. -/
def readFraction : List Char → Option (List Char × List Char)
  | '.' :: rest =>
    match spanDigits rest with
    | ([], _) => none
    | found => some found
  | rest => some ([], rest)

/-- The exponent after an `e`, if there is one. -/
def readExponent (cs : List Char) : Option (Option Int × List Char) :=
  let signed (rest : List Char) : Option (Option Int × List Char) :=
    let (negative, digits) :=
      match rest with
      | '-' :: more => (true, more)
      | '+' :: more => (false, more)
      | more => (false, more)
    match spanDigits digits with
    | ([], _) => none
    | (found, rest') =>
      let power : Int := Double.naturalOf found
      some (some (if negative then -power else power), rest')
  match cs with
  | 'e' :: rest => signed rest
  | 'E' :: rest => signed rest
  | rest => some (none, rest)

/-- The double that a whole part, a fraction and a power of ten write. -/
def floatOf (negative : Bool) (whole fraction : List Char) (power : Int) : Float :=
  let magnitude := Double.ofDigits (whole ++ fraction) (power - fraction.length)
  if negative then -magnitude else magnitude

/-- A number that is written by name. -/
def readNamed : List Char → Option (Datum × List Char)
  | 'N' :: 'a' :: 'N' :: rest => some (.float (0.0 / 0.0), rest)
  | '-' :: rest => (readNamed rest).bind fun
    | (.float x, after) => if x.isNaN then none else some (.float (-x), after)
    | _ => none
  | 'I' :: 'n' :: 'f' :: 'i' :: 'n' :: 'i' :: 't' :: 'y' :: rest => some (.float (1.0 / 0.0), rest)
  | _ => none

/-- A number in digits: an integer where it has neither fraction nor exponent. -/
def readNumber (cs : List Char) : Option (Datum × List Char) := do
  let (negative, unsigned) :=
    match cs with
    | '-' :: rest => (true, rest)
    | rest => (false, rest)
  let (whole, tail) := spanDigits unsigned
  if whole.isEmpty then none
  let (fraction, rest) ← readFraction tail
  let (power?, rest) ← readExponent rest
  match fraction, power? with
  | [], none =>
    let magnitude : Int := Double.naturalOf whole
    return (.int (if negative then -magnitude else magnitude), rest)
  | _, _ => return (.float (floatOf negative whole fraction (power?.getD 0)), rest)

mutual

/-- A value, after blanks. -/
def readValue : Nat → List Char → Option (Datum × List Char)
  | 0, _ => none
  | fuel + 1, cs =>
    match skipBlanks cs with
    | 'n' :: 'u' :: 'l' :: 'l' :: rest => some (.null, rest)
    | 't' :: 'r' :: 'u' :: 'e' :: rest => some (.bool true, rest)
    | 'f' :: 'a' :: 'l' :: 's' :: 'e' :: rest => some (.bool false, rest)
    | '"' :: rest => (readText .exchanged [] {} rest).map fun (found, rest') => (.text found, rest')
    | '[' :: rest =>
      match skipBlanks rest with
      | ']' :: rest' => some (.list [], rest')
      | _ => (readItems fuel rest).map fun (items, rest') => (.list items, rest')
    | '\x7b' :: rest =>
      match skipBlanks rest with
      | '\x7d' :: rest' => some (.mapping [], rest')
      | _ =>
        (readEntries fuel [] rest).map fun (entries, rest') => (.mapping entries, rest')
    | rest =>
      match readNamed rest with
      | some found => some found
      | none => readNumber rest

/-- One item or more, up to the closing bracket. -/
def readItems : Nat → List Char → Option (List Datum × List Char)
  | 0, _ => none
  | fuel + 1, cs => do
    let (item, rest) ← readValue fuel cs
    match skipBlanks rest with
    | ',' :: rest' =>
      let (items, rest'') ← readItems fuel rest'
      return (item :: items, rest'')
    | ']' :: rest' => return ([item], rest')
    | _ => none

/-- One entry or more, up to the closing brace. A name that comes up again gives its entry a new
    value. -/
def readEntries : Nat → Entries → List Char → Option (Entries × List Char)
  | 0, _, _ => none
  | fuel + 1, acc, cs =>
    match skipBlanks cs with
    | '"' :: start => do
      let (name, rest) ← readText .exchanged [] {} start
      match skipBlanks rest with
      | ':' :: rest =>
        let (value, rest) ← readValue fuel rest
        let entries := acc.put name value
        match skipBlanks rest with
        | ',' :: rest' => readEntries fuel entries rest'
        | '\x7d' :: rest' => return (entries, rest')
        | _ => none
      | _ => none
    | _ => none

end

/-- The value of a whole text; a blank text holds no value. -/
def read (cs : List Char) : Option Datum :=
  if (skipBlanks cs).isEmpty then some .null
  else
    match readValue (cs.length + 1) cs with
    | some (value, rest) => if (skipBlanks rest).isEmpty then some value else none
    | none => none

def ofJson? (text : String) : Option Datum :=
  read text.toList

end Datum

end TurtleGraphics
