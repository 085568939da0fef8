import TurtleGraphics.Proofs.Execution.Journey
import TurtleGraphics.Proofs.Number.Canonical

/-! # Every move has an end

Moves are computed with the cosine and the sine of the heading. Of these it only matters here that
they lie between minus one and one: then a move of as many pixels as a command may ask for ends at
some pixel.
-/

namespace TurtleGraphics

open Double

/-- The values for finite angles lie between minus one and one. -/
structure Trigonometry.Bounded (trigonometry : Trigonometry) : Prop where
  cos : ∀ x : Float, x.isFinite = true → -1.0 ≤ trigonometry.cos x ∧ trigonometry.cos x ≤ 1.0
  sin : ∀ x : Float, x.isFinite = true → -1.0 ≤ trigonometry.sin x ∧ trigonometry.sin x ≤ 1.0

/-- Functions that agree with the cosine and the sine at zero, and take the same values
    elsewhere. -/
def Trigonometry.still : Trigonometry :=
  ⟨fun _ => 1.0, fun _ => 0.0⟩

theorem Trigonometry.still_bounded : Trigonometry.still.Bounded := by
  have one : (-1.0 : Float) ≤ 1.0 ∧ (1.0 : Float) ≤ 1.0 := by decide +kernel
  have zero : (-1.0 : Float) ≤ 0.0 ∧ (0.0 : Float) ≤ 1.0 := by decide +kernel
  exact ⟨fun _ _ => one, fun _ _ => zero⟩

/-- The cosines and the sines of 30, of 120 and of -240 degrees, and for all other angles those of
    zero. -/
def Trigonometry.sampled : Trigonometry where
  cos x :=
    if x == 0.5235987755982988 then 0.8660254037844387
    else if x == 2.0943951023931953 then -0.4999999999999998
    else if x == -4.1887902047863905 then -0.5000000000000004
    else 1.0
  sin x :=
    if x == 0.5235987755982988 then 0.49999999999999994
    else if x == 2.0943951023931953 then 0.8660254037844387
    else if x == -4.1887902047863905 then 0.8660254037844384
    else 0.0

theorem Trigonometry.sampled_bounded : Trigonometry.sampled.Bounded := by
  constructor <;> intro x _ <;> unfold sampled <;> dsimp only <;> split_ifs <;> decide +kernel

theorem ofInt_of_light {n : Int} {bound : Int} (h : IsLight bound (Float.ofInt n)) :
    Double.ofInt n = .ok (Float.ofInt n) := by
  simp only [Double.ofInt, h.isFinite, if_true]

theorem roundHalfAway_of_light {x : Float} {bound : Int} (h : IsLight bound x) (hlow : -53 ≤ bound)
    (hhigh : bound ≤ 969) : ∃ n, Double.roundHalfAway x = .ok n := by
  have half : IsLight (-53) 0.5 := by
    unfold IsLight
    decide +kernel
  have sum := (h.abs (by omega) (by omega)).add (half.mono hlow) (by omega) hhigh
  unfold Double.roundHalfAway Double.floor
  rw [ofFloat_exact (canonical_of_isFinite sum.isFinite)]
  exact ⟨_, rfl⟩

theorem radians_of_ofInt {angle : Int} {x : Float} (h : Double.ofInt angle = .ok x) :
    ∃ direction, radians angle = .ok direction ∧ direction.isFinite = true := by
  have finite : x.isFinite = true := by
    unfold Double.ofInt at h
    dsimp only at h
    split at h
    · cases h
      assumption
    · cases h
  have degree : IsLight (-58) (circleRatio / 180.0) := by
    unfold IsLight
    decide +kernel
  refine ⟨x * (circleRatio / 180.0), ?_,
    ((isLight_of_isFinite finite).mul degree (by decide) (by decide)).isFinite⟩
  rw [radians, h]
  rfl

theorem radians_of_lt {angle : Int} (h : angle.natAbs < headingLimit) :
    ∃ direction, radians angle = .ok direction ∧ direction.isFinite = true := by
  have wide : IsLight (1022 - 52) (Float.ofInt angle) := by
    apply isLight_ofInt h <;> decide
  exact radians_of_ofInt (ofInt_of_light wide)

/-- A move along a heading in radians ends at some pixel. -/
theorem Trigonometry.Bounded.stride_ok {trigonometry : Trigonometry} (h : trigonometry.Bounded)
    {angle step : Int} {direction : Float} (hdirection : radians angle = .ok direction)
    (hfinite : direction.isFinite = true)
    (hstep : step.natAbs ≤ maxNumber) : ∃ parts, trigonometry.stride angle step = .ok parts := by
  have short : step.natAbs < 2 ^ 66 := Nat.lt_of_le_of_lt hstep (by decide)
  have length : IsLight (66 - 52) (Float.ofInt step) := isLight_ofInt short (by decide) (by decide)
  obtain ⟨hcos, hcos'⟩ := h.cos direction hfinite
  obtain ⟨hsin, hsin'⟩ := h.sin direction hfinite
  obtain ⟨dx, hdx⟩ := roundHalfAway_of_light
    (length.mul (isLight_of_le hcos hcos') (by decide) (by decide)) (by decide) (by decide)
  obtain ⟨dy, hdy⟩ := roundHalfAway_of_light
    (length.mul (isLight_of_le hsin hsin') (by decide) (by decide)) (by decide) (by decide)
  refine ⟨(dx, dy), ?_⟩
  unfold stride
  rw [hdirection, ofInt_of_light length]
  change (do
    let dx ← Double.roundHalfAway (Float.ofInt step * trigonometry.cos direction)
    let dy ← Double.roundHalfAway (Float.ofInt step * trigonometry.sin direction)
    return (dx, dy)) = Except.ok (dx, dy)
  rw [hdx, hdy]
  rfl

theorem Trigonometry.Bounded.covers {trigonometry : Trigonometry} (h : trigonometry.Bounded)
    (normalize : Bool) {heading : Int} (hheading : heading.natAbs < headingLimit) :
    trigonometry.stride.Covers normalize heading := by
  refine ⟨fun _ degrees hdegrees => ?_, fun angle step hangle hstep => ?_⟩
  · have step : degrees.natAbs < headingLimit :=
      lt_headingLimit (Nat.lt_of_le_of_lt hdegrees (by decide))
    apply Double.exists_wholeOfInt (show 1022 + 1 < 1024 by decide)
    unfold headingLimit at hheading step
    apply Double.natAbs_add_lt <;> assumption
  · have near : angle.natAbs < headingLimit :=
      Turtle.Headed.natAbs_lt (show Turtle.Headed heading { angle } from hangle) hheading
    obtain ⟨direction, hdirection, hfinite⟩ := radians_of_lt near
    exact h.stride_ok hdirection hfinite hstep

end TurtleGraphics
