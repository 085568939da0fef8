import TurtleGraphics.Number.Double
import TurtleGraphics.Text.Hexadecimal

/-! # Shortest decimals

A double is written with the fewest digits that still read back as the same double. Of several
such decimals the one nearest to the double is taken. The search tries one digit, two digits, and
so on; on each decimal grid only the two neighbours of the double can be nearest.
-/

namespace TurtleGraphics

/-- The decimal `0.d₁d₂…dₙ * 10 ^ point`. -/
structure Decimal where
  /-- The digits `d₁d₂…dₙ`. -/
  digits : List Char
  /-- Where the decimal point stands, counted from before the first digit. -/
  point : Int
  deriving Repr, DecidableEq

namespace Decimal

/-- Number of decimal digits, which is none for zero. -/
def digitCount (n : Nat) : Nat :=
  if n = 0 then 0 else (Nat.toDigits 10 n).length

/-- The decimal of an integer times a power of ten, without trailing zeros. -/
def ofScaled (n : Nat) (scale : Int) : Decimal :=
  let written := Nat.toDigits 10 n
  ⟨(written.reverse.dropWhile (· = '0')).reverse, scale + written.length⟩

/-- Where the decimal point of `num / den` stands: the quotient is below `10 ^ point` and at least a
    tenth of that. -/
def pointOf (num den : Nat) : Int :=
  if den ≤ num then digitCount (num / den)
  else 1 - digitCount ((den + num - 1) / num - 1)

/-- The interval of numbers that read back as one double, over a common denominator. -/
structure Interval where
  /-- Numerator of the double itself. -/
  value : Nat
  /-- Numerator of the lower end. -/
  low : Nat
  /-- Numerator of the upper end. -/
  high : Nat
  /-- Denominator of all three. -/
  den : Nat
  /-- Whether the ends belong to the interval. -/
  closed : Bool

namespace Interval

/-- The interval around `significand * 2 ^ exponent`. Below a power of two the neighbouring double
    is only half as far away. -/
def around (significand : Nat) (exponent : Int) : Interval :=
  let up := Nat.pow 2 exponent.toNat
  let below := if significand = Nat.pow 2 52 ∧ -1074 < exponent then 1 else 2
  { value := 4 * significand * up
    low := (4 * significand - below) * up
    high := (4 * significand + 2) * up
    den := 4 * Nat.pow 2 (-exponent).toNat
    closed := significand % 2 = 0 }

/-- Whether `n * 10 ^ scale` reads back as the double. -/
def holds (i : Interval) (n : Nat) (scale : Int) : Bool :=
  let point := n * Nat.pow 10 scale.toNat * i.den
  let shrink := Nat.pow 10 (-scale).toNat
  if i.closed then i.low * shrink ≤ point && point ≤ i.high * shrink
  else i.low * shrink < point && point < i.high * shrink

/-- The neighbour of the double on the grid of multiples of `10 ^ scale` that reads back, if one
    does: the nearer of two, the even one of two equally near. -/
def hit? (i : Interval) (scale : Int) : Option Nat :=
  let num := i.value * Nat.pow 10 (-scale).toNat
  let den := i.den * Nat.pow 10 scale.toNat
  let below := num / den
  let twiceRest := 2 * (num % den)
  match i.holds below scale, i.holds (below + 1) scale with
  | true, true =>
    if twiceRest < den ∨ (twiceRest = den ∧ below % 2 = 0) then some below else some (below + 1)
  | true, false => some below
  | false, true => some (below + 1)
  | false, false => none

end Interval

/-- The shortest decimal that reads back as `significand * 2 ^ exponent`, for a positive
    significand. Seventeen digits always suffice. -/
def shortest (significand : Nat) (exponent : Int) : Decimal :=
  let i := Interval.around significand exponent
  let point := pointOf i.value i.den
  let onGrid (count : Nat) : Option Decimal :=
    (i.hit? (point - count)).map fun n => ofScaled n (point - count)
  ((List.range 18).drop 1).findSome? onGrid |>.getD (ofScaled 0 0)

end Decimal

/-- How decimals are laid out. -/
structure DecimalLayout where
  /-- A decimal whose point lies further left than this has an exponent. -/
  leastPoint : Int
  /-- A decimal whose point lies further right than this has an exponent. -/
  greatestPoint : Int
  /-- Least number of digits of an exponent. -/
  exponentWidth : Nat
  infinity : String
  /-- The text of an undefined number. -/
  undefined : String

namespace DecimalLayout

def write (layout : DecimalLayout) (d : Decimal) : List Char :=
  let count : Int := d.digits.length
  if layout.leastPoint ≤ d.point ∧ d.point ≤ layout.greatestPoint then
    if d.point ≤ 0 then
      "0.".toList ++ List.replicate (-d.point).toNat '0' ++ d.digits
    else if count ≤ d.point then
      d.digits ++ List.replicate (d.point - count).toNat '0' ++ ".0".toList
    else
      d.digits.take d.point.toNat ++ '.' :: d.digits.drop d.point.toNat
  else
    let power := d.point - 1
    let mantissa :=
      match d.digits with
      | [] => []
      | [first] => [first]
      | first :: rest => first :: '.' :: rest
    mantissa ++ 'e' :: (if power < 0 then '-' else '+') ::
      Text.padLeft '0' layout.exponentWidth (Nat.toDigits 10 power.natAbs)

def writeFloat (layout : DecimalLayout) (x : Float) : String :=
  let sign := if Double.isNegative x then ['-'] else []
  match Binary.ofFloat x with
  | .error .notANumber => layout.undefined
  | .error _ => String.ofList sign ++ layout.infinity
  | .ok b =>
    if b.significand = 0 then String.ofList (sign ++ "0.0".toList)
    else String.ofList (sign ++ layout.write (Decimal.shortest b.significand.natAbs b.exponent))

end DecimalLayout

end TurtleGraphics
