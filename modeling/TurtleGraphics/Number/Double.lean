/-! # Doubles as exact numbers

A finite double is an integer times a power of two. Every rounding to an integer here is exact: it
reads the bits of the double and computes with integers.
-/

namespace TurtleGraphics

/-- Why a conversion between integers and doubles has no answer. -/
inductive NumberFault where
  /-- The integer lies beyond the largest double. -/
  | integerTooLarge
  /-- Infinity stands for no integer. -/
  | infinite
  /-- The result of an undefined operation stands for no integer. -/
  | notANumber
  deriving Repr, DecidableEq

namespace NumberFault

def message : NumberFault → String
  | .integerTooLarge => "int too large to convert to float"
  | .infinite => "cannot convert float infinity to integer"
  | .notANumber => "cannot convert float NaN to integer"

end NumberFault

/-- The number `significand * 2 ^ exponent`. -/
structure Binary where
  /-- The signed integer factor. -/
  significand : Int
  /-- The power of two. -/
  exponent : Int
  deriving Repr, DecidableEq

namespace Binary

def floor (b : Binary) : Int :=
  if 0 ≤ b.exponent then b.significand * Int.pow 2 b.exponent.toNat
  else b.significand / Int.pow 2 (-b.exponent).toNat

def ceil (b : Binary) : Int :=
  -floor ⟨-b.significand, b.exponent⟩

def truncate (b : Binary) : Int :=
  if 0 ≤ b.significand then b.floor else b.ceil

/-- The nearest integer; a number halfway between two goes to the even one. -/
def nearestEven (b : Binary) : Int :=
  if 0 ≤ b.exponent then b.floor
  else
    let unit : Int := Int.pow 2 (-b.exponent).toNat
    let below := b.floor
    let twiceRest := 2 * (b.significand - below * unit)
    if twiceRest < unit then below
    else if unit < twiceRest then below + 1
    else if below % 2 = 0 then below else below + 1

/-- The nearest number whose significand has at most `bits` bits, the even one of two. -/
def rounded (bits : Nat) (b : Binary) : Binary :=
  let spare : Nat := b.significand.natAbs.log2 + 1 - bits
  ⟨nearestEven ⟨b.significand, -(spare : Int)⟩, b.exponent + spare⟩

def ofFloat (x : Float) : Except NumberFault Binary :=
  let bits : Nat := x.toBits.toNat
  let biased : Nat := bits / Nat.pow 2 52 % Nat.pow 2 11
  let fraction : Nat := bits % Nat.pow 2 52
  let signed (magnitude : Nat) : Int :=
    if Nat.pow 2 63 ≤ bits then -(magnitude : Int) else magnitude
  if biased = 2047 then
    .error (if fraction = 0 then .infinite else .notANumber)
  else if biased = 0 then .ok ⟨signed fraction, -1074⟩
  else .ok ⟨signed (Nat.pow 2 52 + fraction), (biased : Int) - 1075⟩

end Binary

namespace Double

def ofInt (n : Int) : Except NumberFault Float :=
  let x := Float.ofInt n
  if x.isFinite then .ok x else .error .integerTooLarge

/-- All doubles lie below this. -/
def limit : Nat := Nat.pow 2 1024

/-- The integer for which the double nearest to an integer stands. -/
def wholeOfInt (n : Int) : Except NumberFault Int :=
  let whole := (Binary.rounded 53 ⟨n, 0⟩).floor
  if whole.natAbs < limit then .ok whole else .error .integerTooLarge

def floor (x : Float) : Except NumberFault Int :=
  return (← Binary.ofFloat x).floor

def ceil (x : Float) : Except NumberFault Int :=
  return (← Binary.ofFloat x).ceil

def truncate (x : Float) : Except NumberFault Int :=
  return (← Binary.ofFloat x).truncate

/-- The integer nearest to the double, the even one of two. -/
def nearestEven (x : Float) : Except NumberFault Int :=
  return (← Binary.ofFloat x).nearestEven

/-- Whether the sign bit is set, also for a zero. -/
def isNegative (x : Float) : Bool :=
  Nat.pow 2 63 ≤ x.toBits.toNat

/-- The integer nearest to the double, the one of larger magnitude of two: the integer part of the
    magnitude plus one half, with the sign put back. -/
def roundHalfAway (x : Float) : Except NumberFault Int := do
  let magnitude ← floor (x.abs + 0.5)
  return if isNegative x then -magnitude else magnitude

/-- The double nearest to the quotient `n / d` of two naturals, for a quotient of at most one. -/
def ofQuotient (n d : Nat) : Float :=
  if n < Nat.pow 2 53 ∧ d < Nat.pow 2 53 then Float.ofNat n / Float.ofNat d
  else
    -- Scale so that the integer quotient has 64 bits or more; a last odd bit stands for the rest.
    let shift := 64 + Nat.log2 d - Nat.log2 n
    let scaled := n <<< shift
    let quotient := scaled / d
    let kept := if scaled % d = 0 then 2 * quotient else 2 * quotient + 1
    let down := shift + 1
    Float.ofNat kept / Float.ofNat (Nat.pow 2 (down / 2)) /
      Float.ofNat (Nat.pow 2 (down - down / 2))

/-- The double nearest to the quotient of two integers whose magnitudes the divisor bounds. -/
def ratio (n : Int) (d : Nat) : Float :=
  let magnitude := ofQuotient n.natAbs d
  if n < 0 then -magnitude else magnitude

end Double

end TurtleGraphics
