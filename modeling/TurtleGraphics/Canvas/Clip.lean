import TurtleGraphics.Number.Scalar
import TurtleGraphics.Turtle

/-! # Clipping

A line runs from parameter zero at its start to parameter one at its end. Clipping finds the
parameters whose points lie on the canvas, widened by half a pixel on each side so that points which
round to an edge pixel stay. Each side of the canvas is one half-plane, and the four of them narrow
the range one after the other.
-/

namespace TurtleGraphics

/-- A range of parameters along a line. -/
structure Span (K : Type) where
  first : K
  last : K
  deriving Repr, DecidableEq

/-- The condition `rate * t ≤ room` on a parameter `t`. -/
structure HalfPlane (K : Type) where
  /-- How fast the line approaches the border. -/
  rate : Int
  /-- How far its start is from the border. -/
  room : K
  deriving Repr, DecidableEq

namespace Span

variable {K : Type} [Scalar K]

/-- The part of the range in the half-plane, if there is one. -/
def narrow (side : HalfPlane K) (zero : K) (span : Span K) :
    Except NumberFault (Option (Span K)) := do
  if side.rate = 0 then
    return if Scalar.below side.room zero then none else some span
  let border := Scalar.div side.room (← Scalar.ofInt side.rate)
  if side.rate < 0 then
    return if Scalar.below span.last border then none
      else some { span with first := Scalar.max span.first border }
  else
    return if Scalar.below border span.first then none
      else some { span with last := Scalar.min span.last border }

/-- The part of the range in every half-plane, if there is one. -/
def narrowAll (zero : K) : List (HalfPlane K) → Span K → Except NumberFault (Option (Span K))
  | [], span => return some span
  | side :: rest, span => do
    match ← span.narrow side zero with
    | none => return none
    | some narrowed => narrowAll zero rest narrowed

end Span

namespace Segment

variable (K : Type) [Scalar K]

/-- The four sides of a canvas as conditions on the parameter. -/
def sides (s : Segment) (width height : Nat) : Except NumberFault (List (HalfPlane K)) := do
  let x ← Scalar.ofInt s.x1
  let right ← Scalar.ofInt (width : Int)
  let y ← Scalar.ofInt s.y1
  let bottom ← Scalar.ofInt (height : Int)
  let dx := s.x2 - s.x1
  let dy := s.y2 - s.y1
  return [
    ⟨-dx, Scalar.add x Scalar.half⟩,
    ⟨dx, Scalar.sub (Scalar.sub right Scalar.half) x⟩,
    ⟨-dy, Scalar.add y Scalar.half⟩,
    ⟨dy, Scalar.sub (Scalar.sub bottom Scalar.half) y⟩]

/-- The parameters whose points lie on the widened canvas; none if the line misses it. -/
def clip (s : Segment) (width height : Nat) : Except NumberFault (Option (Span K)) := do
  let zero ← Scalar.ofInt 0
  let one ← Scalar.ofInt 1
  Span.narrowAll zero (← s.sides K width height) ⟨zero, one⟩

end Segment

end TurtleGraphics
