import TurtleGraphics.Proofs.Canvas.Window
import TurtleGraphics.Proofs.Turtle.Reversal

/-! # Clipping from either end

In rationals a range is known by the parameters in it. So clipping has one result for a line, and
the result for the line from its other end is the same range, counted from there.
-/

namespace TurtleGraphics

namespace Span

variable {span other : Span ℚ} {P : ℚ → Prop} {result result' : Option (Span ℚ)}

/-- The same part of a line, counted from its other end. -/
def reversed (span : Span ℚ) : Span ℚ :=
  ⟨1 - span.last, 1 - span.first⟩

theorem contains_reversed (t : ℚ) : span.reversed.Contains t ↔ span.Contains (1 - t) := by
  simp only [Contains, reversed]
  constructor <;> rintro ⟨first, last⟩ <;> constructor <;> linarith

theorem Is.reversed (h : Is P result) : Is (fun t => P (1 - t)) (result.map Span.reversed) := by
  cases result with
  | none => exact fun t => h (1 - t)
  | some span =>
      obtain ⟨ordered, contains⟩ := h
      refine ⟨sub_le_sub_left ordered 1, fun t => ?_⟩
      rw [contains_reversed, contains]

/-- The ends of a range are in it and nothing beyond them is, so no two ranges hold the same
    parameters. -/
theorem Is.unique (h : Is P result) (h' : Is P result') : result = result' := by
  cases result with
  | none =>
      cases result' with
      | none => rfl
      | some span => exact absurd ((h'.2 span.first).mp ⟨le_refl _, h'.1⟩) (h _)
  | some span =>
      cases result' with
      | none => exact absurd ((h.2 span.first).mp ⟨le_refl _, h.1⟩) (h' _)
      | some other =>
          have same (t : ℚ) : span.Contains t ↔ other.Contains t := (h.2 t).trans (h'.2 t).symm
          have first := (same span.first).mp ⟨le_refl _, h.1⟩
          have last := (same span.last).mp ⟨h.1, le_refl _⟩
          have first' := (same other.first).mpr ⟨le_refl _, h'.1⟩
          have last' := (same other.last).mpr ⟨h'.1, le_refl _⟩
          have starts : span.first = other.first := le_antisymm first'.1 first.1
          have ends : span.last = other.last := le_antisymm last.2 last'.2
          cases span
          cases other
          rw [Option.some.injEq, Span.mk.injEq]
          exact ⟨starts, ends⟩

end Span

namespace Segment

variable {s : Segment} {width height : Nat}

theorem pointAlong_reversed (start stop : Int) (t : ℚ) :
    pointAlong stop (start - stop) t = pointAlong start (stop - start) (1 - t) := by
  unfold pointAlong
  push_cast
  ring

theorem onWindow_reversed (t : ℚ) :
    s.reversed.OnWindow width height t ↔ s.OnWindow width height (1 - t) := by
  have x := pointAlong_reversed s.x1 s.x2 t
  have y := pointAlong_reversed s.y1 s.y2 t
  constructor
  · rintro ⟨left, right, top, bottom⟩
    dsimp only [reversed] at left right top bottom
    rw [x] at left right
    rw [y] at top bottom
    exact ⟨left, right, top, bottom⟩
  · rintro ⟨left, right, top, bottom⟩
    rw [← x] at left right
    rw [← y] at top bottom
    exact ⟨left, right, top, bottom⟩

/-- Without rounding, clipping gives nothing for a line if none of its points lies on the canvas,
widened by half a pixel on each side; else it gives the range of all parameters whose points do.
From its other end a line has the same range. -/
theorem clip_finds_visible_range (s : Segment) (width height : Nat) :
    ∃ result, s.clip ℚ width height = .ok result ∧
      (result = none ↔ ¬∃ t, 0 ≤ t ∧ t ≤ 1 ∧ s.OnWindow width height t) ∧
      (∀ span, result = some span → 0 ≤ span.first ∧ span.first ≤ span.last ∧ span.last ≤ 1 ∧
        ∀ t, (0 ≤ t ∧ t ≤ 1 ∧ s.OnWindow width height t) ↔ span.first ≤ t ∧ t ≤ span.last) ∧
      s.reversed.clip ℚ width height =
        .ok (result.map fun span => ⟨1 - span.last, 1 - span.first⟩) := by
  obtain ⟨result, hclip, hresult⟩ := s.clip_exact width height
  obtain ⟨result', hclip', hresult'⟩ := s.reversed.clip_exact width height
  have mirrored : Span.Is (fun t => 0 ≤ t ∧ t ≤ 1 ∧ s.reversed.OnWindow width height t)
      (result.map Span.reversed) := by
    refine hresult.reversed.congr fun t => ?_
    rw [onWindow_reversed]
    constructor <;> rintro ⟨low, high, visible⟩ <;> exact ⟨by linarith, by linarith, visible⟩
  refine ⟨result, hclip, ?_, ?_, ?_⟩
  · cases result with
    | none => exact iff_of_true rfl fun ⟨t, visible⟩ => hresult t visible
    | some span =>
        obtain ⟨ordered, contains⟩ := hresult
        exact iff_of_false (Option.some_ne_none _)
          (not_not_intro ⟨_, (contains span.first).mp ⟨le_refl _, ordered⟩⟩)
  · rintro span rfl
    obtain ⟨ordered, contains⟩ := hresult
    have first := (contains span.first).mp ⟨le_refl _, ordered⟩
    have last := (contains span.last).mp ⟨ordered, le_refl _⟩
    exact ⟨first.1, ordered, last.2.1, fun t => (contains t).symm⟩
  · rw [hclip', hresult'.unique mirrored]
    rfl

end Segment

end TurtleGraphics
