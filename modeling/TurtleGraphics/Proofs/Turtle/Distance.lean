import TurtleGraphics.Proofs.Number.Error
import TurtleGraphics.Proofs.Turtle.Stride

/-! # How far a command leads

A move ends not much farther away than it was asked to lead. So a turtle that has obeyed few
commands is not far from home, whatever the commands were.
-/

namespace TurtleGraphics

open Double

variable {x : Float} {bound : ℚ}

theorem within_of_isLight {light : Int} (h : IsLight light x) : Within (2 ^ (53 + light)) x := by
  refine ⟨h.isFinite, ?_⟩
  unfold IsLight at h
  rw [value]
  cases hu : x.toModel.unpack with
  | infinity | notANumber =>
      rw [hu] at h
      cases h
  | zero s =>
      rw [value_zero, abs_zero]
      positivity
  | finite s m e hm =>
      rw [hu] at h
      rw [value_finite, abs_apply_one_mul, abs_of_nonneg (by positivity), zpow_add₀ two_ne_zero]
      have short : (m : ℚ) ≤ 2 ^ 53 := by exact_mod_cast h.1.le
      have low : (2 : ℚ) ^ e ≤ 2 ^ light := zpow_le_zpow_right₀ one_le_two h.2
      exact mul_le_mul (by exact_mod_cast short) low (by positivity) (by positivity)

theorem roundHalfAway_within (h : Within bound x) (hbound : bound ≤ 2 ^ 90) :
    ∃ n, roundHalfAway x = .ok n ∧ |(n : ℚ)| ≤ 2 * bound + 5 := by
  obtain ⟨half, half'⟩ := half_finite
  have within : Within (1 / 2) (0.5 : Float) := ⟨half, by rw [half', abs_of_pos one_half_pos]⟩
  obtain ⟨finite, near⟩ := h.abs.add within (by linarith [le_ceiling])
  have small : |((⌊value (x.abs + 0.5)⌋ : Int) : ℚ)| ≤ 2 * bound + 5 := by
    rw [abs_le] at near ⊢
    have := Int.floor_le (value (x.abs + 0.5))
    have := Int.lt_floor_add_one (value (x.abs + 0.5))
    constructor <;> linarith
  unfold roundHalfAway
  rw [floor_of_isFinite finite]
  refine ⟨_, rfl, ?_⟩
  split
  · rwa [Int.cast_neg, abs_neg]
  · exact small

/-- Moves along headings within a full turn lead no farther than this in each direction. -/
def Stride.Short (stride : Stride) : Prop :=
  ∀ angle step dx dy : Int, angle.natAbs < 360 → step.natAbs ≤ maxNumber →
    stride angle step = .ok (dx, dy) →
    dx.natAbs ≤ 2 ^ 36 ∧ dy.natAbs ≤ 2 ^ 36

theorem Trigonometry.Bounded.short {trigonometry : Trigonometry} (h : trigonometry.Bounded) :
    trigonometry.stride.Short := by
  intro angle step dx dy hangle hstep hmove
  obtain ⟨direction, hdirection, hfinite⟩ :=
    radians_of_lt (lt_headingLimit (Nat.lt_trans hangle (by decide)))
  have few : |(step : ℚ)| ≤ 2 ^ 31 := by
    exact_mod_cast abs_intCast_le_iff.mpr (Nat.le_trans hstep (by decide : maxNumber ≤ 2 ^ 31))
  obtain ⟨length, hlength, within⟩ := Within.ofInt few (by linarith [le_ceiling])
  obtain ⟨hcos, hcos'⟩ := h.cos direction hfinite
  obtain ⟨hsin, hsin'⟩ := h.sin direction hfinite
  have along {part : Float} (hpart : IsLight (-52) part) :
      ∃ n, roundHalfAway (length * part) = .ok n ∧ n.natAbs ≤ 2 ^ 36 := by
    have product := within.mul (within_of_isLight hpart) (by norm_num; linarith [le_ceiling])
    obtain ⟨n, hn, small⟩ := roundHalfAway_within product (by norm_num)
    refine ⟨n, hn, ?_⟩
    have : |(n : ℚ)| ≤ (2 ^ 36 : Nat) := small.trans (by norm_num)
    exact abs_intCast_le_iff.mp this
  obtain ⟨x, hx, small⟩ := along (isLight_of_le hcos hcos')
  obtain ⟨y, hy, small'⟩ := along (isLight_of_le hsin hsin')
  unfold Trigonometry.stride at hmove
  rw [hdirection, hlength] at hmove
  simp only [bind, Except.bind, hx, hy] at hmove
  cases hmove
  exact ⟨small, small'⟩

namespace Turtle

variable {settings : Settings} {stride : Stride} {turtle after : Turtle} {distance : Nat}
  {limit : Int}

/-- The turtle is not farther away than this in either direction. -/
def Ranges (distance : Nat) (turtle : Turtle) : Prop :=
  turtle.x.natAbs ≤ distance ∧ turtle.y.natAbs ≤ distance

theorem Headed.natAbs_lt_turn (h : turtle.Headed 0) : turtle.angle.natAbs < 360 := by
  rcases h with hzero | hturn
  · rw [hzero]
    decide
  · exact hturn

theorem Ranges.mono {farther : Nat} (h : turtle.Ranges distance) (hle : distance ≤ farther) :
    turtle.Ranges farther :=
  ⟨Nat.le_trans h.1 hle, Nat.le_trans h.2 hle⟩

theorem move_ranges (hshort : stride.Short) (hheaded : turtle.Headed 0)
    (hrange : turtle.Ranges distance) {step : Int}
    (hstep : step.natAbs ≤ maxNumber) {call : Option DrawCall}
    (hmove : turtle.move stride step = .ok (after, call)) :
    after.Ranges (distance + 2 ^ 36) ∧ ∀ s ink, call = some (.line s ink) →
      ∃ dx dy : Int, dx.natAbs ≤ 2 ^ 36 ∧ dy.natAbs ≤ 2 ^ 36 ∧ s = turtle.segmentBy dx dy := by
  unfold move at hmove
  split at hmove
  · cases hmove
  · rename_i dx dy hstride
    obtain ⟨hdx, hdy⟩ := hshort _ _ _ _ hheaded.natAbs_lt_turn hstep hstride
    obtain ⟨hx, hy⟩ := hrange
    cases hmove
    refine ⟨⟨?_, ?_⟩, fun s ink hcall => ⟨dx, dy, hdx, hdy, ?_⟩⟩
    · exact Nat.le_trans (Int.natAbs_add_le _ _) (Nat.add_le_add hx hdx)
    · exact Nat.le_trans (Int.natAbs_add_le _ _) (Nat.add_le_add hy hdy)
    · split at hcall
      · cases hcall
        rfl
      · cases hcall

theorem turn_ranges {normalize : Bool} {degrees : Int} (hrange : turtle.Ranges distance)
    (hturn : turtle.turn normalize degrees = .ok after) : after.Ranges distance := by
  unfold turn at hturn
  dsimp only at hturn
  split at hturn
  · cases hturn
    exact hrange
  · split at hturn
    · cases hturn
    · cases hturn
      exact hrange

/-- A command leads little farther, and a line that it draws leads from the turtle to there. -/
theorem obey_ranges (hshort : stride.Short) (hheaded : turtle.Headed 0)
    (hrange : turtle.Ranges distance)
    (hhome : settings.turtle.homeX.natAbs ≤ distance ∧ settings.turtle.homeY.natAbs ≤ distance)
    {command : Command} (haccepted : command.Accepted limit) {call : Option DrawCall}
    (hobey : turtle.obey settings stride command = .ok (after, call)) :
    after.Ranges (distance + 2 ^ 36) ∧ ∀ s ink, call = some (.line s ink) →
      ∃ dx dy : Int, dx.natAbs ≤ 2 ^ 36 ∧ dy.natAbs ≤ 2 ^ 36 ∧ s = turtle.segmentBy dx dy := by
  have still := hrange.mono (Nat.le_add_right distance (2 ^ 36))
  cases command with
  | home =>
      cases hobey
      obtain ⟨x, y⟩ := hhome
      exact ⟨⟨Nat.le_add_right_of_le x, Nat.le_add_right_of_le y⟩, nofun⟩
  | paper | ink | pen | «repeat» | loop =>
      cases hobey
      exact ⟨still, nofun⟩
  | left degrees | right degrees =>
      obtain ⟨turned, hturned, hafter⟩ := exists_of_bind_ok hobey
      cases hafter
      exact ⟨(turn_ranges hrange hturned).mono (Nat.le_add_right _ _), nofun⟩
  | forward step => exact move_ranges hshort hheaded hrange haccepted hobey
  | back step =>
      exact move_ranges hshort hheaded hrange (by simpa [Command.Accepted] using haccepted) hobey

end Turtle

end TurtleGraphics
