import TurtleGraphics.Number.Double
import TurtleGraphics.Text.Alphanumeric
import TurtleGraphics.Text.DecimalDigit

/-! # Doubles written in decimal digits

A literal is a sign, digits with a point among them or beside them, and a power of ten. Digits of
every script count, a low line may stand between two of them, and blanks around the literal do not
matter. Infinity and the undefined number are written by name.
-/

namespace TurtleGraphics.Double

def naturalOf (digits : List Char) : Nat :=
  digits.foldl (fun n c => 10 * n + (c.toNat - '0'.toNat)) 0

/-- The double nearest to digits times a power of ten. Far beyond the range of doubles the digits do
    not matter any more. -/
def ofDigits (digits : List Char) (scale : Int) : Float :=
  let significant := digits.dropWhile (· = '0')
  let point := scale + significant.length
  if significant.isEmpty ∨ point < -400 then 0.0
  else if 400 < point then 1.0 / 0.0
  else Float.ofScientific (naturalOf significant) (scale < 0) scale.natAbs

/-- Blanks beyond ASCII as a space, and digits of all scripts as those of ASCII. -/
def plainLiteral (text : List Char) : List Char :=
  text.map fun c =>
    if c.toNat < 0x7f then c
    else if Text.isSeparator c then ' '
    else
      match Text.digitValue? c with
      | some value => Char.ofNat ('0'.toNat + value)
      | none => c

/-- Whether a character may stand around a literal: a space, a tab, or the end of a line or a
    page. -/
def isAround (c : Char) : Bool :=
  c = ' ' || 0x9 ≤ c.toNat && c.toNat ≤ 0xd

/-- Characters without the low lines between digits; nothing if a low line stands elsewhere. -/
def joinDigits : List Char → Option (List Char)
  | [] => some []
  | '_' :: _ => none
  | c :: '_' :: d :: rest =>
    if c.isDigit && d.isDigit then (joinDigits (d :: rest)).map (c :: ·) else none
  | c :: rest => (joinDigits rest).map (c :: ·)

/-- A sign at the front, and what follows it. -/
def readSign : List Char → Bool × List Char
  | '-' :: rest => (true, rest)
  | '+' :: rest => (false, rest)
  | cs => (false, cs)

def readPower? : List Char → Option Int
  | [] => some 0
  | c :: rest =>
    let (negative, digits) := readSign rest
    if (c = 'e' || c = 'E') && !digits.isEmpty && digits.all Char.isDigit then
      let power : Int := naturalOf digits
      some (if negative then -power else power)
    else none

/-- A literal in digits, without a sign. -/
def readDigits? (cs : List Char) : Option Float := do
  let whole := cs.takeWhile Char.isDigit
  let (fraction, rest) :=
    match cs.dropWhile Char.isDigit with
    | '.' :: rest => rest.span Char.isDigit
    | rest => ([], rest)
  if whole.isEmpty && fraction.isEmpty then none
  return ofDigits (whole ++ fraction) ((← readPower? rest) - fraction.length)

def ofText? (text : String) : Option Float := do
  let plain := (plainLiteral text.toList).dropWhile isAround
  let cs ← joinDigits (plain.reverse.dropWhile isAround).reverse
  let (negative, unsigned) := readSign cs
  let magnitude ←
    match String.ofList (unsigned.map Char.toLower) with
    | "inf" => some (1.0 / 0.0)
    | "infinity" => some (1.0 / 0.0)
    | "nan" => some (0.0 / 0.0)
    | _ => readDigits? unsigned
  return if negative then -magnitude else magnitude

end TurtleGraphics.Double
