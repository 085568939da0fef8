import TurtleGraphics.Number.Double

/-! # Scalars

Lines are clipped and sampled in doubles. The same steps make sense for rationals, where nothing is
rounded; the two share what a line algorithm asks of its numbers.
-/

namespace TurtleGraphics

/-- Numbers in which a line can be clipped and sampled. -/
class Scalar (K : Type) where
  ofInt : Int → Except NumberFault K
  /-- The quotient of an integer and a positive integer that bounds its magnitude. -/
  ratio : Int → Nat → K
  half : K
  add : K → K → K
  sub : K → K → K
  mul : K → K → K
  div : K → K → K
  below : K → K → Bool
  floor : K → Except NumberFault Int
  ceil : K → Except NumberFault Int
  /-- The nearest integer, the even one of two. -/
  nearestEven : K → Except NumberFault Int

namespace Scalar

variable {K : Type} [Scalar K]

/-- The first number, unless the second is above it. -/
def max (a b : K) : K :=
  if below a b then b else a

/-- The first number, unless the second is below it. -/
def min (a b : K) : K :=
  if below b a then b else a

end Scalar

instance : Scalar Float where
  ofInt := Double.ofInt
  ratio := Double.ratio
  half := 0.5
  add a b := a + b
  sub a b := a - b
  mul a b := a * b
  div a b := a / b
  below a b := a < b
  floor := Double.floor
  ceil := Double.ceil
  nearestEven := Double.nearestEven

/-- The integer nearest to a rational, the even one of two. -/
def nearestEvenRat (x : Rat) : Int :=
  let below := x.floor
  let rest := x - below
  if rest < 1 / 2 then below
  else if 1 / 2 < rest then below + 1
  else if below % 2 = 0 then below else below + 1

instance : Scalar Rat where
  ofInt n := .ok n
  ratio n d := (n : Rat) / (d : Rat)
  half := 1 / 2
  add a b := a + b
  sub a b := a - b
  mul a b := a * b
  div a b := a / b
  below a b := a < b
  floor x := .ok x.floor
  ceil x := .ok x.ceil
  nearestEven x := .ok (nearestEvenRat x)

end TurtleGraphics
