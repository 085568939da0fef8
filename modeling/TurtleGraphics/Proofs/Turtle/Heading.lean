import Mathlib.Data.Int.ModEq
import TurtleGraphics.Execution
import TurtleGraphics.Proofs.Number.Whole
import TurtleGraphics.Proofs.Program.Boundary

/-! # Headings as sums of turns

A heading is what all turns since home come to, up to full turns. The two ways to keep it within a
full turn choose different numbers for it, but every turn is so small against the integers that are
doubles that its sum is exact either way.
-/

namespace TurtleGraphics

namespace Command

/-- How far the command turns the turtle to the left, if it turns it. -/
def degrees : Command → Option Int
  | .left degrees => some degrees
  | .right degrees => some (-degrees)
  | _ => none

/-- The sum of turns behind one more command. Home starts it afresh. -/
def turned (sum : Int) : Command → Int
  | .home => 0
  | .left degrees => sum + degrees
  | .right degrees => sum - degrees
  | _ => sum

/-- The turns to the left less the turns to the right, since the last command that went home. -/
def heading (commands : List Command) : Int :=
  commands.foldl turned 0

theorem heading_append (commands more : List Command) :
    heading (commands ++ more) = more.foldl turned (heading commands) :=
  List.foldl_append

end Command

def keptAngle (normalize : Bool) (angle : Int) : Int :=
  if normalize then angle % 360 else Int.tmod angle 360

theorem keptAngle_modEq (normalize : Bool) (angle : Int) :
    keptAngle normalize angle ≡ angle [ZMOD 360] := by
  cases normalize with
  | true => exact Int.mod_modEq angle 360
  | false =>
      have whole := Int.mul_tdiv_add_tmod angle 360
      refine Int.modEq_iff_dvd.mpr ⟨angle.tdiv 360, ?_⟩
      simp only [keptAngle, Bool.false_eq_true, if_false]
      omega

theorem natAbs_keptAngle_lt (normalize : Bool) (angle : Int) :
    (keptAngle normalize angle).natAbs < 360 := by
  cases normalize with
  | true =>
      simp only [keptAngle, if_true]
      omega
  | false =>
      simp only [keptAngle, Bool.false_eq_true, if_false]
      rw [Int.natAbs_tmod]
      exact Nat.mod_lt _ (by decide)

theorem keptAngle_undone {angle : Int} (hlow : 0 ≤ angle) (hhigh : angle.natAbs < 360)
    (degrees : Int) :
    keptAngle true (keptAngle true (angle + degrees) + -degrees) = angle := by
  simp only [keptAngle, if_true]
  omega

namespace Turtle

/-- The turtle looks where the sum of its turns says, with an angle as it is kept. -/
structure Faces (normalize : Bool) (sum : Int) (turtle : Turtle) : Prop where
  /-- The angle and the sum are full turns apart. -/
  congruent : turtle.angle ≡ sum [ZMOD 360]
  /-- The angle is less than a full turn. -/
  within : turtle.angle.natAbs < 360
  /-- And it is not negative if headings are normalized. -/
  normal : normalize = true → 0 ≤ turtle.angle

variable {normalize : Bool} {sum : Int} {turtle : Turtle}

theorem turn_of_within (normalize : Bool) (h : turtle.angle.natAbs < 360) {degrees : Int}
    (hdegrees : degrees.natAbs ≤ maxNumber) :
    (turtle.angle + degrees).natAbs < 2 ^ 53 ∧
      Double.wholeOfInt (turtle.angle + degrees) = .ok (turtle.angle + degrees) ∧
      turtle.turn normalize degrees =
        .ok { turtle with angle := keptAngle normalize (turtle.angle + degrees) } := by
  have small : (turtle.angle + degrees).natAbs < 2 ^ 53 := by
    have : maxNumber = 2147483647 := rfl
    omega
  have exact_ := Double.wholeOfInt_of_lt small
  refine ⟨small, exact_, ?_⟩
  cases normalize with
  | true => rfl
  | false => simp only [turn, exact_, keptAngle, Bool.false_eq_true, if_false]

theorem faces_initial (normalize : Bool) (settings : TurtleSettings) :
    (initial settings).Faces normalize 0 :=
  ⟨rfl, (by decide : (0 : Int).natAbs < 360), fun _ => Int.le_refl 0⟩

theorem faces_home (normalize : Bool) (settings : TurtleSettings) (turtle : Turtle) :
    (turtle.home settings).Faces normalize 0 :=
  ⟨rfl, (by decide : (0 : Int).natAbs < 360), fun _ => Int.le_refl 0⟩

theorem Faces.turn (h : turtle.Faces normalize sum) {degrees : Int}
    (hdegrees : degrees.natAbs ≤ maxNumber)
    {after : Turtle} (hturn : turtle.turn normalize degrees = .ok after) :
    after.Faces normalize (sum + degrees) := by
  obtain ⟨-, -, turned⟩ := turn_of_within normalize h.within hdegrees
  cases turned.symm.trans hturn
  refine ⟨(keptAngle_modEq normalize _).trans (h.congruent.add_right degrees),
    natAbs_keptAngle_lt normalize _, ?_⟩
  rintro rfl
  exact Int.emod_nonneg _ (by decide)

theorem Faces.eq_angle_iff (h : turtle.Faces true sum) (angle : Int) :
    angle = turtle.angle ↔ 0 ≤ angle ∧ angle < 360 ∧ angle ≡ sum [ZMOD 360] := by
  have low := h.normal rfl
  have high := h.within
  constructor
  · rintro rfl
    exact ⟨low, by omega, h.congruent⟩
  · rintro ⟨hlow, hhigh, hcongruent⟩
    have same : angle % 360 = turtle.angle % 360 := hcongruent.trans h.congruent.symm
    omega

theorem Faces.move (h : turtle.Faces normalize sum) {stride : Stride} {step : Int} {after : Turtle}
    {call : Option DrawCall} (hmove : turtle.move stride step = .ok (after, call)) :
    after.Faces normalize sum := by
  unfold Turtle.move at hmove
  split at hmove
  · cases hmove
  · cases hmove
    exact ⟨h.congruent, h.within, h.normal⟩

/-- Whatever command the turtle obeys, it looks where the sum of the turns says. -/
theorem Faces.obey {settings : Settings} (h : turtle.Faces settings.engine.normalizeAngle sum)
    {limit : Int}
    {command : Command} (haccepted : command.Accepted limit) {stride : Stride} {after : Turtle}
    {call : Option DrawCall} (hobey : turtle.obey settings stride command = .ok (after, call)) :
    after.Faces settings.engine.normalizeAngle (command.turned sum) := by
  cases command with
  | home =>
      cases hobey
      exact faces_home _ settings.turtle turtle
  | paper | ink | pen | «repeat» | loop =>
      cases hobey
      exact ⟨h.congruent, h.within, h.normal⟩
  | forward | back => exact h.move hobey
  | left degrees =>
      obtain ⟨turned, hturn, hafter⟩ := exists_of_bind_ok hobey
      cases hafter
      exact h.turn haccepted hturn
  | right degrees =>
      obtain ⟨turned, hturn, hafter⟩ := exists_of_bind_ok hobey
      cases hafter
      rw [Command.turned, Int.sub_eq_add_neg]
      exact h.turn (by simpa [Command.Accepted] using haccepted) hturn

end Turtle

end TurtleGraphics
