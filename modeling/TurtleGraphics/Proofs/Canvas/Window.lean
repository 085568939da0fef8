import Mathlib.Algebra.Order.Field.Basic
import Mathlib.Tactic.Linarith
import Mathlib.Tactic.Ring
import TurtleGraphics.Canvas.Clip

/-! # Clipping without rounding

In rationals clipping is exact: what is left of a line are the parameters whose points lie on the
canvas, widened by half a pixel on each side. Each side of the canvas takes away the parameters
beyond it, and nothing else.
-/

namespace TurtleGraphics

namespace Span

section

variable {K : Type} [Scalar K] {span : Span K} {side : HalfPlane K} {zero rate : K}

theorem narrow_of_rate_eq_zero (hrate : side.rate = 0) :
    span.narrow side zero = .ok (if Scalar.below side.room zero then none else some span) := by
  rw [narrow, if_pos hrate]
  rfl

theorem narrow_of_rate_neg (hrate : side.rate < 0) (hofInt : Scalar.ofInt side.rate = .ok rate) :
    span.narrow side zero = .ok (if Scalar.below span.last (Scalar.div side.room rate) then none
      else some { span with first := Scalar.max span.first (Scalar.div side.room rate) }) := by
  rw [narrow, if_neg (by omega), hofInt]
  simp only [bind, Except.bind, pure, Except.pure, if_pos hrate]

theorem narrow_of_rate_pos (hrate : 0 < side.rate) (hofInt : Scalar.ofInt side.rate = .ok rate) :
    span.narrow side zero = .ok (if Scalar.below (Scalar.div side.room rate) span.first then none
      else some { span with last := Scalar.min span.last (Scalar.div side.room rate) }) := by
  rw [narrow, if_neg (by omega), hofInt]
  simp only [bind, Except.bind, pure, Except.pure, if_neg (by omega : ¬ side.rate < 0)]

end

def Contains (span : Span ℚ) (t : ℚ) : Prop :=
  span.first ≤ t ∧ t ≤ span.last

/-- The range is made of the parameters with a property, and there is none if no parameter has
    it. -/
def Is (P : ℚ → Prop) : Option (Span ℚ) → Prop
  | none => ∀ t, ¬P t
  | some span => span.first ≤ span.last ∧ ∀ t, span.Contains t ↔ P t

theorem Is.congr {P Q : ℚ → Prop} {result : Option (Span ℚ)} (h : Is P result)
    (hPQ : ∀ t, P t ↔ Q t) :
    Is Q result := by
  obtain rfl : P = Q := funext fun t => propext (hPQ t)
  exact h

end Span

def HalfPlane.Holds (side : HalfPlane ℚ) (t : ℚ) : Prop :=
  side.rate * t ≤ side.room

theorem below_rat (a b : ℚ) : Scalar.below a b = true ↔ a < b :=
  decide_eq_true_iff

theorem scalar_max_rat (a b : ℚ) : Scalar.max a b = max a b := by
  simp only [Scalar.max, below_rat, max_def_lt]

theorem scalar_min_rat (a b : ℚ) : Scalar.min a b = min a b := by
  simp only [Scalar.min, below_rat, min_comm a, min_def_lt]

namespace Span

theorem narrow_exact {span : Span ℚ} (hspan : span.first ≤ span.last) (side : HalfPlane ℚ) :
    ∃ result, span.narrow side 0 = .ok result ∧
    Is (fun t => span.Contains t ∧ side.Holds t) result := by
  have hofInt : Scalar.ofInt side.rate = .ok (side.rate : ℚ) := rfl
  obtain ⟨border, hborder⟩ : ∃ border, border = Scalar.div side.room (side.rate : ℚ) := ⟨_, rfl⟩
  have quotient : border = side.room / side.rate := hborder
  rcases Int.lt_trichotomy side.rate 0 with hrate | hrate | hrate
  · -- Dividing by the rate turns the inequality around, so the border is where the range may begin.
    have negative : (side.rate : ℚ) < 0 := by exact_mod_cast hrate
    have beyond (t : ℚ) : side.Holds t ↔ border ≤ t := by
      rw [HalfPlane.Holds, quotient, div_le_iff_of_neg' negative]
    refine ⟨_, narrow_of_rate_neg hrate hofInt, ?_⟩
    rw [← hborder, scalar_max_rat]
    split
    · rename_i hmissed
      rw [below_rat] at hmissed
      rintro t ⟨⟨-, hlast⟩, hside⟩
      rw [beyond] at hside
      linarith
    · rename_i hmet
      rw [below_rat, not_lt] at hmet
      refine ⟨max_le hspan hmet, fun t => ?_⟩
      simp only [Contains, beyond, max_le_iff]
      tauto
  · refine ⟨_, narrow_of_rate_eq_zero hrate, ?_⟩
    have level (t : ℚ) : side.Holds t ↔ 0 ≤ side.room := by
      rw [HalfPlane.Holds, hrate, Int.cast_zero, zero_mul]
    split
    · rename_i hmissed
      rw [below_rat] at hmissed
      rintro t ⟨-, hside⟩
      rw [level] at hside
      linarith
    · rename_i hmet
      rw [below_rat, not_lt] at hmet
      exact ⟨hspan, fun t => by simp only [level, and_iff_left hmet]⟩
  · have positive : (0 : ℚ) < side.rate := by exact_mod_cast hrate
    have beyond (t : ℚ) : side.Holds t ↔ t ≤ border := by
      rw [HalfPlane.Holds, quotient, le_div_iff₀' positive]
    refine ⟨_, narrow_of_rate_pos hrate hofInt, ?_⟩
    rw [← hborder, scalar_min_rat]
    split
    · rename_i hmissed
      rw [below_rat] at hmissed
      rintro t ⟨⟨hfirst, -⟩, hside⟩
      rw [beyond] at hside
      linarith
    · rename_i hmet
      rw [below_rat, not_lt] at hmet
      refine ⟨le_min hspan hmet, fun t => ?_⟩
      simp only [Contains, beyond, le_min_iff]
      tauto

theorem narrowAll_exact (sides : List (HalfPlane ℚ)) (span : Span ℚ)
    (hspan : span.first ≤ span.last) :
    ∃ result, narrowAll 0 sides span = .ok result ∧
      Is (fun t => span.Contains t ∧ ∀ side ∈ sides, side.Holds t) result := by
  induction sides generalizing span with
  | nil => exact ⟨some span, rfl, hspan, fun t => by simp⟩
  | cons side rest ih =>
      obtain ⟨narrowed, hnarrow, exact_⟩ := narrow_exact hspan side
      rw [narrowAll, hnarrow]
      cases narrowed with
      | none =>
          refine ⟨none, rfl, fun t ht => exact_ t ⟨ht.1, ht.2 side List.mem_cons_self⟩⟩
      | some narrowed =>
          obtain ⟨ordered, contains⟩ := exact_
          obtain ⟨result, hrest, exact_⟩ := ih _ ordered
          refine ⟨result, hrest, exact_.congr fun t => ?_⟩
          rw [contains, List.forall_mem_cons, and_assoc]

end Span

namespace Segment

/-- The point of the line at a parameter, in one coordinate. -/
def pointAlong (start change : Int) (t : ℚ) : ℚ :=
  start + t * change

/-- The point of the line at a parameter lies on the canvas, widened by half a pixel on each
    side. -/
structure OnWindow (s : Segment) (width height : Nat) (t : ℚ) : Prop where
  left : -1 / 2 ≤ pointAlong s.x1 (s.x2 - s.x1) t
  right : pointAlong s.x1 (s.x2 - s.x1) t ≤ width - 1 / 2
  top : -1 / 2 ≤ pointAlong s.y1 (s.y2 - s.y1) t
  bottom : pointAlong s.y1 (s.y2 - s.y1) t ≤ height - 1 / 2

def borders (s : Segment) (width height : Nat) : List (HalfPlane ℚ) :=
  [⟨-(s.x2 - s.x1), s.x1 + 1 / 2⟩, ⟨s.x2 - s.x1, (width : Int) - 1 / 2 - s.x1⟩,
    ⟨-(s.y2 - s.y1), s.y1 + 1 / 2⟩, ⟨s.y2 - s.y1, (height : Int) - 1 / 2 - s.y1⟩]

theorem clip_rat (s : Segment) (width height : Nat) :
    s.clip ℚ width height = Span.narrowAll 0 (s.borders width height) ⟨0, 1⟩ := rfl

theorem holds_borders (s : Segment) (width height : Nat) (t : ℚ) :
    (∀ side ∈ s.borders width height, side.Holds t) ↔ s.OnWindow width height t := by
  simp only [borders, List.forall_mem_cons, HalfPlane.Holds, Int.cast_neg, Int.cast_natCast]
  constructor
  · rintro ⟨left, right, top, bottom, -⟩
    constructor <;> unfold pointAlong <;> linarith
  · rintro ⟨left, right, top, bottom⟩
    unfold pointAlong at left right top bottom
    refine ⟨by linarith, by linarith, by linarith, by linarith, by simp⟩

/-- Clipping finds the part of the line on the widened canvas. -/
theorem clip_exact (s : Segment) (width height : Nat) :
    ∃ result, s.clip ℚ width height = .ok result ∧
      Span.Is (fun t => 0 ≤ t ∧ t ≤ 1 ∧ s.OnWindow width height t) result := by
  rw [clip_rat]
  obtain ⟨result, hclip, exact_⟩ := Span.narrowAll_exact (s.borders width height) ⟨0, 1⟩ zero_le_one
  refine ⟨result, hclip, exact_.congr fun t => ?_⟩
  rw [holds_borders, Span.Contains, and_assoc]

end Segment

end TurtleGraphics
