import TurtleGraphics.Proofs.Number.Sign
import TurtleGraphics.Proofs.Turtle.Stride

/-! # Moves and their reversals

A move of a negative number of pixels leads exactly as far the other way, for every heading:
multiplying and rounding are odd. So a move back along the same line ends where the turtle stood,
and the commands that move or turn come in pairs of which the one with a negated number does what
the other one does.
-/

namespace TurtleGraphics

open Double

def Segment.reversed (segment : Segment) : Segment :=
  ⟨segment.x2, segment.y2, segment.x1, segment.y1⟩

theorem Double.ofInt_neg (n : Int) :
    (∃ fault, Double.ofInt n = .error fault ∧ Double.ofInt (-n) = .error fault) ∨
      ∃ x y, Double.ofInt n = .ok x ∧ Double.ofInt (-n) = .ok y ∧ Opposite x y := by
  have opposite := opposite_ofInt n
  simp only [Double.ofInt, opposite.isFinite]
  cases (Float.ofInt n).isFinite
  · exact .inl ⟨_, rfl, rfl⟩
  · exact .inr ⟨_, _, rfl, rfl, opposite⟩

namespace Trigonometry

variable {trigonometry : Trigonometry} {angle n : Int}

theorem stride_neg (trigonometry : Trigonometry) (angle n : Int) :
    trigonometry.stride angle (-n) = (trigonometry.stride angle n).map fun parts =>
      (-parts.1, -parts.2) := by
  unfold stride
  cases radians angle with
  | error fault => rfl
  | ok direction =>
      rcases Double.ofInt_neg n with ⟨fault, hn, hn'⟩ | ⟨x, y, hn, hn', opposite⟩
      · rw [hn, hn']
        rfl
      · have dx := (opposite.mul (trigonometry.cos direction)).roundHalfAway
        have dy := (opposite.mul (trigonometry.sin direction)).roundHalfAway
        rw [hn, hn']
        change (do
          let dx ← Double.roundHalfAway (y * trigonometry.cos direction)
          let dy ← Double.roundHalfAway (y * trigonometry.sin direction)
          return (dx, dy)) = Except.map _ (do
          let dx ← Double.roundHalfAway (x * trigonometry.cos direction)
          let dy ← Double.roundHalfAway (x * trigonometry.sin direction)
          return (dx, dy))
        rw [dx, dy]
        cases Double.roundHalfAway (x * trigonometry.cos direction) with
        | error fault => rfl
        | ok dx =>
            cases Double.roundHalfAway (x * trigonometry.sin direction) <;> rfl

end Trigonometry

namespace Turtle

variable {turtle : Turtle} {trigonometry : Trigonometry} {n dx dy : Int}

theorem moveBy_moveBy_neg (turtle : Turtle) (dx dy : Int) :
    (turtle.moveBy dx dy).moveBy (-dx) (-dy) = turtle := by
  simp only [moveBy, Int.add_neg_cancel_right]

/-- The move back leads along the same line to where the turtle stood. -/
theorem move_back (h : trigonometry.stride turtle.angle n = .ok (dx, dy)) :
    (turtle.moveBy dx dy).move trigonometry.stride (-n) =
      .ok (turtle, if turtle.penDown then some (.line (turtle.segmentBy dx dy).reversed turtle.ink)
        else none) := by
  have back : trigonometry.stride (turtle.moveBy dx dy).angle (-n) = .ok (-dx, -dy) := by
    rw [show (turtle.moveBy dx dy).angle = turtle.angle from rfl, Trigonometry.stride_neg, h]
    rfl
  have line : (turtle.moveBy dx dy).segmentBy (-dx) (-dy) = (turtle.segmentBy dx dy).reversed := by
    simp only [segmentBy, moveBy, Segment.reversed, Int.add_neg_cancel_right]
  rw [move, back]
  dsimp only
  rw [moveBy_moveBy_neg, line]
  rfl

end Turtle

end TurtleGraphics
