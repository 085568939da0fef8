import TurtleGraphics.Datum.Reader

/-! # Data files

A data file holds a document. It is made of words and of text between quotes, and of lists and
mappings that stand between brackets. A mapping may also be written line by line, each name with a
colon behind it; what belongs to the same mapping is equally far from the left. The rest of a line
from a hash on says nothing.

How such a file is read is up to a function. The one here knows as much of the notation as was just
described, and refuses the rest.
-/

namespace TurtleGraphics

/-- Why text holds no data. -/
inductive SyntaxFault where
  | malformed
  | tooManyDigits (count : Nat)
  deriving Repr, DecidableEq

/-- A way to read data from the text of a file. -/
abbrev DataReader := String → Except SyntaxFault Datum

/-- What is written, before it is told what its words stand for. -/
inductive Document where
  | word (letters : List Char)
  | text (value : Phrase)
  | list (items : List Document)
  | mapping (entries : List (Document × Document))

/-- A whole number as it is written. -/
structure Numeral where
  negative : Bool
  base : Nat
  digits : List Char
  deriving Repr, DecidableEq

namespace Numeral

def value (numeral : Numeral) : Int :=
  let magnitude : Int := numeral.digits.foldl
    (fun n c => numeral.base * n + (Text.hexDigit? c).getD 0) 0
  if numeral.negative then -magnitude else magnitude

/-- The numeral of a base, if there is a digit and all are digits of the base. Low lines among them
    do not count. -/
def ofDigits? (negative : Bool) (base : Nat) (cs : List Char) : Option Numeral :=
  let digits := cs.filter (· ≠ '_')
  let known := digits.all fun c => (Text.hexDigit? c).any (· < base)
  if digits.isEmpty || !known then none else some ⟨negative, base, digits⟩

/-- The numeral that a word is. A zero in front tells the base: eight, unless a letter follows
    it. -/
def ofWord? (letters : List Char) : Option Numeral :=
  let (negative, rest) := Double.readSign letters
  match rest with
  | '0' :: 'b' :: digits => ofDigits? negative 2 digits
  | '0' :: 'x' :: digits => ofDigits? negative 16 digits
  | '0' :: digits => ofDigits? negative 8 ('0' :: digits)
  | '_' :: _ => none
  | digits => ofDigits? negative 10 digits

/-- How many digits a decimal numeral has if it has too many. -/
def excess? (numeral : Numeral) : Option Nat :=
  if numeral.base = 10 ∧ mostDigits < numeral.digits.length then some numeral.digits.length
    else none

end Numeral

namespace Document

/-! ### What words stand for -/

def nullWords : List String := ["", "~", "null", "Null", "NULL"]

def trueWords : List String := ["yes", "Yes", "YES", "true", "True", "TRUE", "on", "On", "ON"]

def falseWords : List String := ["no", "No", "NO", "false", "False", "FALSE", "off", "Off", "OFF"]

def isDigitOrLow (c : Char) : Bool :=
  c.isDigit || c = '_'

/-- The double that a word is. It has a point, and the exponent has a sign. -/
def float? (letters : List Char) : Option Float := do
  let (negative, rest) := Double.readSign letters
  let infinity : Float := 1.0 / 0.0
  if String.ofList rest ∈ [".inf", ".Inf", ".INF"] then return if negative then -infinity
    else infinity
  if String.ofList letters ∈ [".nan", ".NaN", ".NAN"] then return 0.0 / 0.0
  let whole := rest.takeWhile isDigitOrLow
  match rest.dropWhile isDigitOrLow with
  | '.' :: tail =>
    let fraction := tail.takeWhile isDigitOrLow
    let power := tail.dropWhile isDigitOrLow
    -- Without a whole part there is no sign, and a digit behind the point.
    let first := if whole.isEmpty && rest.length = letters.length then fraction.head?
      else whole.head?
    if !first.any Char.isDigit then none
    else if !power.isEmpty && !((power[1]?).any fun c => c = '-' || c = '+') then none
    else
      let plain (cs : List Char) : List Char := cs.filter (· ≠ '_')
      return Datum.floatOf negative (plain whole) (plain fraction) (← Double.readPower? power)
  | _ => none

/-- Whether a word may be a date, a time or a number in the base sixty, or has a meaning of its
    own. -/
def isUnknown (letters : List Char) : Bool :=
  String.ofList letters ∈ ["=", "<<"] ||
    (letters.contains ':' || letters[4]? = some '-') &&
      letters.all fun c => c.isDigit || c ∈ [':', '.', '-', '+', '_', ' ', 'T', 't', 'Z']

/-- What a word stands for. -/
def resolve? (letters : List Char) : Option Datum :=
  let word := String.ofList letters
  if word ∈ nullWords then some .null
  else if word ∈ trueWords then some (.bool true)
  else if word ∈ falseWords then some (.bool false)
  else
    match Numeral.ofWord? letters, float? letters with
    | some numeral, _ => some (.int numeral.value)
    | none, some x => some (.float x)
    | none, none => if isUnknown letters then none else some (.text word)

mutual

/-- The data that a document writes. A name that comes up again gives its entry a new value. -/
def toDatum? : Document → Option Datum
  | .word letters => resolve? letters
  | .text value => some (.text value)
  | .list items => (toItems? items).map .list
  | .mapping entries => (toEntries? [] entries).map .mapping

def toItems? : List Document → Option (List Datum)
  | [] => some []
  | item :: rest => do
    let item ← toDatum? item
    return item :: (← toItems? rest)

def toEntries? (acc : Entries) : List (Document × Document) → Option Entries
  | [] => some acc
  | (name, value) :: rest =>
    match toDatum? name, toDatum? value with
    | some (.text name), some value => toEntries? (acc.put name value) rest
    | _, _ => none

end

/-! ### Numbers with too many digits -/

def excessDigits? : Document → Option Nat
  | .word letters => (Numeral.ofWord? letters).bind Numeral.excess?
  | _ => none

def parts : Document → List Document
  | .list items => items
  | .mapping entries => entries.flatMap fun (name, value) => [name, value]
  | _ => []

/-- How many digits the first numeral with too many has, among documents and what lies inside them
    up to a depth. Documents are looked at before what lies inside them. -/
def firstExcess? : Nat → List Document → Option Nat
  | 0, _ => none
  | depth + 1, documents =>
    match documents.findSome? excessDigits? with
    | some count => some count
    | none => firstExcess? depth (documents.flatMap parts)

/-! ### Words and quotes -/

def isBlankOrBreak (c : Char) : Bool :=
  c = ' ' || c = '\t' || Dialect.isBreak c

def isBracket (c : Char) : Bool :=
  c ∈ [',', '[', ']', '\x7b', '\x7d']

/-- Whether a word can begin here. A hyphen needs something behind it. -/
def startsWord : List Char → Bool
  | [] => false
  | '-' :: rest => rest.head?.any fun c => !isBlankOrBreak c
  | c :: _ => !isBlankOrBreak c && !isBracket c &&
      c ∉ ['?', ':', '#', '&', '*', '!', '|', '>', '\'', '"', '%', '@', '\x60']

/-- The letters of a word, after those of `acc` in reverse. Between brackets a word ends sooner. -/
def lettersOf (inside : Bool) (acc : List Char) : List Char → List Char
  | [] => (acc.dropWhile (· = ' ')).reverse
  | c :: rest =>
    let ends :=
      c = '\t' || Dialect.isBreak c || c = '#' && acc.head? = some ' ' ||
        inside && (isBracket c || c = '?') ||
        c = ':' && rest.head?.all fun next => isBlankOrBreak next || inside && isBracket next
    if ends then (acc.dropWhile (· = ' ')).reverse else lettersOf inside (c :: acc) rest

/-- The text up to the closing apostrophe, after the code points of `acc` in reverse. Two
    apostrophes stand for one. -/
def readQuote (acc : Phrase) : List Char → Option (Phrase × List Char)
  | [] => none
  | '\'' :: '\'' :: rest => readQuote (.ofChar '\'' :: acc) rest
  | '\'' :: rest => some (acc.reverse, rest)
  | c :: rest => if Dialect.isBreak c then none else readQuote (.ofChar c :: acc) rest

/-- A word or text between quotes, and what follows it. -/
def readScalar (inside : Bool) : List Char → Option (Document × List Char)
  | '"' :: rest => (Datum.readText .filed [] {} rest).map fun (found, after) => (.text found, after)
  | '\'' :: rest => (readQuote [] rest).map fun (found, after) => (.text found, after)
  | cs =>
    if startsWord cs then
      let letters := lettersOf inside [] cs
      some (.word letters, cs.drop letters.length)
    else none

/-- How far the colon behind a name may be from where the name starts. -/
def nameReach : Nat := 1024

/-- A name with its colon, and what follows them. All of it stands on one line. -/
def readName (inside : Bool) (cs : List Char) : Option (Document × List Char) := do
  let (name, rest) ← readScalar inside cs
  match rest.dropWhile (· = ' ') with
  | ':' :: after =>
    let spelled := cs.take (cs.length - after.length - 1)
    if nameReach < spelled.length || spelled.any Dialect.isBreak then none else some (name, after)
  | _ => none

/-! ### Between brackets -/

def skipBlanks (cs : List Char) : List Char :=
  cs.dropWhile fun c => c = ' ' || Dialect.isBreak c

mutual

/-- A document on one line or between brackets, after blanks. -/
def readFlow : Nat → List Char → Option (Document × List Char)
  | 0, _ => none
  | fuel + 1, cs =>
    match skipBlanks cs with
    | '[' :: rest => (readItems fuel rest).map fun (items, after) => (.list items, after)
    | '\x7b' :: rest => (readEntries fuel rest).map fun (entries, after) =>
          (.mapping entries, after)
    | rest => readScalar true rest

/-- The items up to the closing bracket. A comma may stand behind the last one. -/
def readItems : Nat → List Char → Option (List Document × List Char)
  | 0, _ => none
  | fuel + 1, cs =>
    match skipBlanks cs with
    | ']' :: rest => some ([], rest)
    | start => do
      let (item, rest) ← readFlow fuel start
      match skipBlanks rest with
      | ',' :: rest =>
        let (items, rest) ← readItems fuel rest
        return (item :: items, rest)
      | ']' :: rest => return ([item], rest)
      | _ => none

/-- The entries up to the closing brace. A comma may stand behind the last one, and nothing behind a
    colon. -/
def readEntries : Nat → List Char → Option (List (Document × Document) × List Char)
  | 0, _ => none
  | fuel + 1, cs =>
    match skipBlanks cs with
    | '\x7d' :: rest => some ([], rest)
    | start => do
      let (name, rest) ← readName true start
      let (value, rest) ←
        match skipBlanks rest with
        | ',' :: after => some (.word [], ',' :: after)
        | '\x7d' :: after => some (.word [], '\x7d' :: after)
        | after => readFlow fuel after
      match skipBlanks rest with
      | ',' :: rest =>
        let (entries, rest) ← readEntries fuel rest
        return ((name, value) :: entries, rest)
      | '\x7d' :: rest => return ([(name, value)], rest)
      | _ => none

end

/-! ### Line by line -/

/-- A line that says something. -/
structure Line where
  /-- How far it is from the left. -/
  indent : Nat
  content : List Char
  deriving Repr, DecidableEq

namespace Line

/-- The line that characters make, unless they say nothing. -/
def ofChars? (cs : List Char) : Option Line :=
  match cs.dropWhile (· = ' ') with
  | [] => none
  | '#' :: _ => none
  | content => some ⟨cs.length - content.length, content⟩

end Line

/-- Whether nothing is said from here to the end of the line. -/
def saysNothing (cs : List Char) : Bool :=
  match cs.dropWhile (· = ' ') with
  | [] => true
  | c :: _ => c = '#' && cs.head? = some ' '

/-- The document that the rest of a line writes. -/
def readRest (cs : List Char) : Option Document := do
  let (found, rest) ←
    match cs.head? with
    | some '[' => readFlow (cs.length + 1) cs
    | some '\x7b' => readFlow (cs.length + 1) cs
    | _ => readScalar false cs
  if saysNothing rest then some found else none

/-- The entries of the mapping at a distance from the left, and the lines behind it. -/
def readBlock : Nat → Nat → List Line → Option (List (Document × Document) × List Line)
  | 0, _, _ => none
  | _ + 1, _, [] => some ([], [])
  | fuel + 1, indent, line :: rest =>
    if line.indent < indent then some ([], line :: rest)
    else if indent < line.indent then none
    else do
      let (name, after) ← readName false line.content
      if !after.head?.all (· = ' ') then none
      let (value, rest) ←
        if saysNothing after then
          match rest with
          | next :: _ =>
            if indent < next.indent then
              (readBlock fuel next.indent rest).map fun (inner, left) => (.mapping inner, left)
            else some (.word [], rest)
          | [] => some (.word [], [])
        else (readRest (after.dropWhile (· = ' '))).map fun value => (value, rest)
      let (entries, rest) ← readBlock fuel indent rest
      return ((name, value) :: entries, rest)

/-- The document of lines: a mapping, or what the only line writes. -/
def ofLines? (lines : List Line) : Option Document :=
  match lines with
  | [] => some (.word [])
  | first :: rest =>
    match readBlock (lines.length + 1) first.indent lines with
    | some (entries, []) => some (.mapping entries)
    | _ => if rest.isEmpty then readRest first.content else none

/-! ### Whole files -/

/-- Characters split at newlines. -/
def split (acc : List Char) : List Char → List (List Char)
  | [] => [acc.reverse]
  | '\n' :: rest => acc.reverse :: split [] rest
  | c :: rest => split (c :: acc) rest

/-- The document of a whole text. -/
def read? (cs : List Char) : Option Document :=
  match readFlow (cs.length + 1) cs with
  | some (found, rest) =>
    if (skipBlanks cs).head?.any isBracket && (skipBlanks rest).isEmpty then some found
    else ofLines? ((split [] cs).filterMap Line.ofChars?)
  | none => ofLines? ((split [] cs).filterMap Line.ofChars?)

/-- Whether a data file may hold a character. Control characters are kept out, save a few blanks. -/
def mayBeFiled (c : Char) : Bool :=
  let point := c.toNat
  point = 0x9 || point = 0xa || point = 0xd || 0x20 ≤ point && point ≤ 0x7e || point = 0x85 ||
    0xa0 ≤ point && point ≤ 0xfffd || 0x10000 ≤ point

/-- The mark that may stand before the text of a file. -/
def byteOrderMark : Char := '\ufeff'

end Document

/-- The reader of data files. -/
def DataReader.standard : DataReader := fun text =>
  let cs := text.toList
  let cs := if cs.head? = some Document.byteOrderMark then cs.drop 1 else cs
  match if cs.all Document.mayBeFiled then Document.read? cs else none with
  | none => .error .malformed
  | some document =>
    match document.toDatum?, Document.firstExcess? (cs.length + 1) [document] with
    | none, _ => .error .malformed
    | some _, some count => .error (.tooManyDigits count)
    | some data, none => .ok data

end TurtleGraphics
