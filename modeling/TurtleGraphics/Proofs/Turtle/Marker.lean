import TurtleGraphics.Proofs.Canvas.Samples
import TurtleGraphics.Proofs.Turtle.Distance

/-! # The marker

The lines of the turtle's marker stay near the turtle. Far away, where doubles are farther apart
than the marker is large, they are still short against the distance from the canvas.
-/

namespace TurtleGraphics

open Double

/-- A coordinate that is off by the size of the marker, and by what doubles do not tell apart. -/
def Beside (middle coordinate : Int) : Prop :=
  |(coordinate : ℚ) - middle| ≤ |(middle : ℚ)| / 2 ^ 48 + 2 ^ 40

theorem Beside.tame {middle start stop : Int} (h : Beside middle start) (h' : Beside middle stop)
    (hmiddle : 100 * |(middle : ℚ)| ≤ ceiling) : Tame start (stop - start) := by
  unfold Beside at h h'
  have large := le_ceiling
  have size := abs_sub_abs_le_abs_sub (start : ℚ) middle
  have size' := abs_sub_abs_le_abs_sub (middle : ℚ) start
  rw [abs_sub_comm] at size'
  have apart := abs_sub_le (stop : ℚ) middle start
  rw [abs_sub_comm (middle : ℚ)] at apart
  refine ⟨by linarith, ?_⟩
  rw [Int.cast_sub]
  rcases le_total |(middle : ℚ)| (2 ^ 44) with near | far
  · exact le_max_of_le_left (by linarith)
  · exact le_max_of_le_right (by linarith)

theorem truncate_beside {middle : Int} (hmiddle : 100 * |(middle : ℚ)| ≤ ceiling) {offset : Float}
    (hoffset : Within (2 ^ 39 + 5) offset) : ∃ origin coordinate, Double.ofInt middle = .ok origin ∧
      Double.truncate (origin + offset) = .ok coordinate ∧ Beside middle coordinate := by
  have large := le_ceiling
  have positive := abs_nonneg (middle : ℚ)
  obtain ⟨origin, horigin, finite, near⟩ := ofInt_near (n := middle) (by linarith)
  have size := abs_sub_abs_le_abs_sub (value origin) middle
  have sum := abs_add_le (value origin) (value offset)
  have small := hoffset.2
  obtain ⟨finite', near'⟩ := Near.add finite hoffset.1 (by linarith)
  obtain ⟨coordinate, hcoordinate, cut⟩ := truncate_of_isFinite finite'
  refine ⟨origin, coordinate, horigin, hcoordinate, ?_⟩
  unfold Beside
  have split : (coordinate : ℚ) - middle = (coordinate - value (origin + offset)) +
      (value (origin + offset) - (value origin + value offset)) +
        ((value origin - middle) + value offset) := by
    ring
  have total := abs_add_three (coordinate - value (origin + offset))
    (value (origin + offset) - (value origin + value offset))
      ((value origin - middle) + value offset)
  have rest := abs_add_le (value origin - middle) (value offset)
  rw [split]
  linarith

namespace Turtle

variable {turtle : Turtle} {trigonometry : Trigonometry}

/-- A pixel beside the turtle. -/
structure Near (turtle : Turtle) (pixel : Int × Int) : Prop where
  x : Beside turtle.x pixel.1
  y : Beside turtle.y pixel.2

/-- The turtle is not extremely far away. -/
structure Close (turtle : Turtle) : Prop where
  x : 100 * |(turtle.x : ℚ)| ≤ ceiling
  y : 100 * |(turtle.y : ℚ)| ≤ ceiling

theorem pointAt_near (hturtle : turtle.Close) (htrigonometry : trigonometry.Bounded)
    {radius direction : Float}
    (hradius : Within (2 ^ 37 + 1) radius) (hdirection : direction.isFinite = true) :
    ∃ pixel, turtle.pointAt radius direction trigonometry = .ok pixel ∧ turtle.Near pixel := by
  obtain ⟨hcos, hcos'⟩ := htrigonometry.cos direction hdirection
  obtain ⟨hsin, hsin'⟩ := htrigonometry.sin direction hdirection
  have offset {part : Float} (hpart : IsLight (-52) part) : Within (2 ^ 39 + 5) (radius * part) :=
    (hradius.mul (within_of_isLight hpart) (by norm_num; linarith [le_ceiling])).mono (by norm_num)
  obtain ⟨left, x, hleft, hx, beside⟩ :=
    truncate_beside hturtle.x (offset (isLight_of_le hcos hcos'))
  obtain ⟨top, y, htop, hy, beside'⟩ :=
    truncate_beside hturtle.y (offset (isLight_of_le hsin hsin'))
  refine ⟨(x, y), ?_, beside, beside'⟩
  unfold pointAt
  simp only [hleft, htop, bind, Except.bind, hx, hy]
  rfl

theorem Near.tame {start stop : Int × Int} (hturtle : turtle.Close) (h : turtle.Near start)
    (h' : turtle.Near stop) :
    Segment.Tame ⟨start.1, start.2, stop.1, stop.2⟩ :=
  ⟨h.x.tame h'.x hturtle.x, h.y.tame h'.y hturtle.y⟩

theorem Headed.direction (h : turtle.Headed 0) :
    ∃ heading, radians turtle.angle = .ok heading ∧ Within (2 ^ 20) heading := by
  have few : |(turtle.angle : ℚ)| ≤ 360 := abs_intCast_le_iff.mpr h.natAbs_lt_turn.le
  obtain ⟨degrees, hdegrees, within⟩ := Within.ofInt few (by linarith [le_ceiling])
  have degree : IsLight (-58) (circleRatio / 180.0) := by
    unfold IsLight
    decide +kernel
  have product := within.mul (within_of_isLight degree) (by norm_num; linarith [le_ceiling])
  refine ⟨degrees * (circleRatio / 180.0), ?_, product.mono (by norm_num)⟩
  unfold radians
  rw [hdegrees]
  rfl

theorem within_eighth {size : Float} (h : Within (2 ^ 37 + 1) size) :
    Within (2 ^ 37 + 1) (size / 8.0) := by
  have eight : value 8.0 = 8 := by
    have unpacked : (8.0 : Float).toModel.unpack = .finite .positive (2 ^ 52) (-49) (by decide) :=
      rfl
    rw [value, unpacked, value_finite]
    norm_num [Float.Model.UnpackedFloat.Sign.apply]
  have quotient : |value size / value 8.0| ≤ (2 ^ 37 + 1) / 8 := by
    rw [eight, abs_div, abs_of_pos (by norm_num : (0 : ℚ) < 8)]
    linarith [h.2]
  have finite : (8.0 : Float).isFinite = true := by decide +kernel
  have near := Double.Near.div h.1 finite (by rw [eight]; norm_num) (by linarith [le_ceiling])
  exact (Within.of_near near quotient).mono (by norm_num)

/-- The marker of a turtle that is not extremely far away consists of tame lines. -/
theorem glyph_tame (hturtle : turtle.Close) (hheaded : turtle.Headed 0)
    (htrigonometry : trigonometry.Bounded) {size : Float} (hsize : Within (2 ^ 37 + 1) size) :
    ∃ segments, turtle.glyph size trigonometry = .ok segments ∧ ∀ s ∈ segments, s.Tame := by
  obtain ⟨heading, hheading, within⟩ := hheaded.direction
  have third : Within 4 (2.0 * circleRatio / 3.0) := by
    have light : IsLight (-51) (2.0 * circleRatio / 3.0) := by
      unfold IsLight
      decide +kernel
    exact (within_of_isLight light).mono (by norm_num)
  have eighth := within_eighth hsize
  have forward := within.add third (by linarith [le_ceiling])
  have back := within.sub third (by linarith [le_ceiling])
  obtain ⟨apex, hapex, near⟩ := pointAt_near hturtle htrigonometry hsize within.1
  obtain ⟨nose, hnose, near₁⟩ := pointAt_near hturtle htrigonometry eighth within.1
  obtain ⟨left, hleft, near₂⟩ := pointAt_near hturtle htrigonometry hsize forward.1
  obtain ⟨right, hright, near₃⟩ := pointAt_near hturtle htrigonometry hsize back.1
  unfold glyph
  simp only [hheading, bind, Except.bind, hapex, hnose, hleft, hright]
  refine ⟨_, rfl, ?_⟩
  simp only [List.forall_mem_cons]
  exact ⟨near.tame hturtle near₂, near.tame hturtle near₃, near₂.tame hturtle near₃,
    near.tame hturtle near₁, nofun⟩

end Turtle

end TurtleGraphics
