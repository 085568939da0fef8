import TurtleGraphics.Proofs.Canvas.Window
import TurtleGraphics.Proofs.Number.Error

/-! # Clipping in doubles

Clipping never fails for a line whose coordinates are not extremely large. What is left of the line
keeps within the sides of the canvas, up to the error of a few operations.
-/

namespace TurtleGraphics

open Double

/-- A range of finite parameters between zero and one. -/
structure Span.Proper (span : Span Float) : Prop where
  first : span.first.isFinite = true
  last : span.last.isFinite = true
  nonneg : 0 ≤ value span.first
  ordered : value span.first ≤ value span.last
  le_one : value span.last ≤ 1

/-- A parameter of the range. -/
def Span.Has (span : Span Float) (t : ℚ) : Prop :=
  value span.first ≤ t ∧ t ≤ value span.last

namespace HalfPlane

/-- The condition on a parameter, with room for the error of a few operations. -/
def Met (side : HalfPlane Float) (t : ℚ) : Prop :=
  side.rate * t ≤ value side.room + (|value side.room| + |(side.rate : ℚ)|) / 2 ^ 44

/-- The numbers of the condition are finite and not extremely large. -/
structure Fit (side : HalfPlane Float) : Prop where
  finite : side.room.isFinite = true
  room : 4 * |value side.room| ≤ ceiling
  rate : 4 * |(side.rate : ℚ)| ≤ ceiling

variable {side : HalfPlane Float}

theorem Fit.border (h : side.Fit) (hrate : side.rate ≠ 0) :
    ∃ rate, Double.ofInt side.rate = .ok rate ∧
    (side.room / rate).isFinite = true ∧
      |side.rate * value (side.room / rate) - value side.room| ≤
        (|value side.room| + |(side.rate : ℚ)|) / 2 ^ 44 := by
  have whole : 1 ≤ |(side.rate : ℚ)| := by
    exact_mod_cast Int.one_le_abs hrate
  obtain ⟨rate, hofInt, hfinite, hclose⟩ := ofInt_near (n := side.rate) (by linarith [h.rate])
  have large : |(side.rate : ℚ)| ≤ 2 * |value rate| := by
    have := abs_sub_abs_le_abs_sub (side.rate : ℚ) (value rate)
    rw [abs_sub_comm] at this
    linarith
  have nonzero : value rate ≠ 0 := by
    rintro hzero
    rw [hzero, abs_zero] at large
    linarith
  obtain ⟨u, hu⟩ : ∃ u, u = value side.room / value rate := ⟨_, rfl⟩
  have hroom : value side.room = u * value rate := by rw [hu, div_mul_cancel₀ _ nonzero]
  have room : |value side.room| = |u| * |value rate| := by rw [hroom, abs_mul]
  have product : |u| * |(side.rate : ℚ)| ≤ 2 * |value side.room| := by
    rw [room]
    nlinarith [abs_nonneg u]
  have size : |u| ≤ ceiling := by
    have := le_mul_of_one_le_right (abs_nonneg u) whole
    linarith [h.room, abs_nonneg (value side.room)]
  obtain ⟨finite, near⟩ := Near.div h.finite hfinite nonzero (by rwa [← hu])
  refine ⟨rate, hofInt, finite, ?_⟩
  rw [← hu] at near
  generalize value (side.room / rate) = q at near
  have split : side.rate * q - value side.room =
      side.rate * (q - u) + u * (side.rate - value rate) := by
    rw [hroom]
    ring
  rw [split]
  have one : |side.rate * (q - u)| ≤ |(side.rate : ℚ)| * ((|u| + 1) / 2 ^ 52) := by
    rw [abs_mul]
    gcongr
  have two : |u * (side.rate - value rate)| ≤ |u| * ((|(side.rate : ℚ)| + 1) / 2 ^ 50) := by
    rw [abs_mul, abs_sub_comm]
    gcongr
  have total := abs_add_le (side.rate * (q - u)) (u * (side.rate - value rate))
  have less : |u| ≤ |u| * |(side.rate : ℚ)| := le_mul_of_one_le_right (abs_nonneg u) whole
  linarith [abs_nonneg (value side.room)]

end HalfPlane

theorem below_iff {a b : Float} (ha : a.isFinite = true) (hb : b.isFinite = true) :
    Scalar.below a b = true ↔ value a < value b := by
  rw [← lt_iff_value ha hb]
  exact decide_eq_true_iff

theorem div_float (a b : Float) : Scalar.div a b = a / b := rfl

theorem scalar_max {a b : Float} (ha : a.isFinite = true) (hb : b.isFinite = true) :
    (Scalar.max a b).isFinite = true ∧ value (Scalar.max a b) = max (value a) (value b) := by
  have less := below_iff ha hb
  unfold Scalar.max
  split
  · rename_i hlt
    exact ⟨hb, (max_eq_right (less.mp hlt).le).symm⟩
  · rename_i hle
    exact ⟨ha, (max_eq_left (not_lt.mp fun h => hle (less.mpr h))).symm⟩

theorem scalar_min {a b : Float} (ha : a.isFinite = true) (hb : b.isFinite = true) :
    (Scalar.min a b).isFinite = true ∧ value (Scalar.min a b) = min (value a) (value b) := by
  have less := below_iff hb ha
  unfold Scalar.min
  split
  · rename_i hlt
    exact ⟨hb, (min_eq_right (less.mp hlt).le).symm⟩
  · rename_i hle
    exact ⟨ha, (min_eq_left (not_lt.mp fun h => hle (less.mpr h))).symm⟩

namespace Span

variable {span narrowed : Span Float} {side : HalfPlane Float} {zero border rate : Float}

theorem Proper.beginning (h : span.Proper) (finite : border.isFinite = true)
    (hbelow : ¬Scalar.below span.last border = true) :
    Proper { span with first := Scalar.max span.first border } ∧
      ∀ t, Has { span with first := Scalar.max span.first border } t → span.Has t ∧
      value border ≤ t := by
  rw [below_iff h.last finite, not_lt] at hbelow
  obtain ⟨hmax, hmax'⟩ := scalar_max h.first finite
  refine ⟨⟨hmax, h.last, ?_, ?_, h.le_one⟩, fun t ⟨low, high⟩ => ?_⟩
  · rw [hmax']
    exact h.nonneg.trans (le_max_left _ _)
  · rw [hmax']
    exact max_le h.ordered hbelow
  · rw [hmax', max_le_iff] at low
    exact ⟨⟨low.1, high⟩, low.2⟩

theorem Proper.ending (h : span.Proper) (finite : border.isFinite = true)
    (hbelow : ¬Scalar.below border span.first = true) :
    Proper { span with last := Scalar.min span.last border } ∧
      ∀ t, Has { span with last := Scalar.min span.last border } t → span.Has t ∧
      t ≤ value border := by
  rw [below_iff finite h.first, not_lt] at hbelow
  obtain ⟨hmin, hmin'⟩ := scalar_min h.last finite
  refine ⟨⟨h.first, hmin, h.nonneg, ?_, ?_⟩, fun t ⟨low, high⟩ => ?_⟩
  · rw [hmin']
    exact le_min h.ordered hbelow
  · rw [hmin']
    exact (min_le_left _ _).trans h.le_one
  · rw [hmin', le_min_iff] at high
    exact ⟨⟨low, high.1⟩, high.2⟩

theorem narrow_spec (hspan : span.Proper) (hside : side.Fit) (hzero : zero.isFinite = true)
    (hzero' : value zero = 0) : ∃ result, span.narrow side zero = .ok result ∧
      ∀ narrowed, result = some narrowed →
        narrowed.Proper ∧ ∀ t, narrowed.Has t → span.Has t ∧ side.Met t := by
  rcases Int.lt_trichotomy side.rate 0 with hrate | hrate | hrate
  · obtain ⟨rate, hofInt, finite, close⟩ := hside.border (by omega)
    refine ⟨_, narrow_of_rate_neg hrate hofInt, fun narrowed h => ?_⟩
    rw [div_float] at h
    split at h
    · cases h
    · rename_i hbelow
      cases h
      obtain ⟨proper, within⟩ := hspan.beginning finite hbelow
      refine ⟨proper, fun t ht => ⟨(within t ht).1, ?_⟩⟩
      have negative : (side.rate : ℚ) ≤ 0 := by exact_mod_cast hrate.le
      have := mul_le_mul_of_nonpos_left (within t ht).2 negative
      unfold HalfPlane.Met
      linarith [abs_le.mp close]
  · refine ⟨_, narrow_of_rate_eq_zero hrate, fun narrowed h => ?_⟩
    split at h
    · cases h
    · rename_i hbelow
      cases h
      rw [below_iff hside.finite hzero, not_lt, hzero'] at hbelow
      refine ⟨hspan, fun t ht => ⟨ht, ?_⟩⟩
      unfold HalfPlane.Met
      rw [hrate, Int.cast_zero, zero_mul]
      positivity
  · obtain ⟨rate, hofInt, finite, close⟩ := hside.border (by omega)
    refine ⟨_, narrow_of_rate_pos hrate hofInt, fun narrowed h => ?_⟩
    rw [div_float] at h
    split at h
    · cases h
    · rename_i hbelow
      cases h
      obtain ⟨proper, within⟩ := hspan.ending finite hbelow
      refine ⟨proper, fun t ht => ⟨(within t ht).1, ?_⟩⟩
      have positive : (0 : ℚ) ≤ side.rate := by exact_mod_cast hrate.le
      have := mul_le_mul_of_nonneg_left (within t ht).2 positive
      unfold HalfPlane.Met
      linarith [abs_le.mp close]

theorem narrowAll_spec (hzero : zero.isFinite = true) (hzero' : value zero = 0)
    (sides : List (HalfPlane Float)) (hsides : ∀ side ∈ sides, side.Fit) (hspan : span.Proper) :
    ∃ result, narrowAll zero sides span = .ok result ∧ ∀ narrowed, result = some narrowed →
      narrowed.Proper ∧ ∀ t, narrowed.Has t → span.Has t ∧ ∀ side ∈ sides, side.Met t := by
  induction sides generalizing span with
  | nil =>
      refine ⟨some span, rfl, fun narrowed h => ?_⟩
      cases h
      exact ⟨hspan, fun t ht => ⟨ht, by simp⟩⟩
  | cons side rest ih =>
      obtain ⟨first, hfirst, spec⟩ := narrow_spec hspan (hsides side (by simp)) hzero hzero'
      rw [narrowAll, hfirst]
      cases first with
      | none =>
          refine ⟨none, rfl, fun narrowed h => ?_⟩
          cases h
      | some narrowed =>
          obtain ⟨proper, within⟩ := spec narrowed rfl
          obtain ⟨result, hrest, spec'⟩ := ih (fun side hmem => hsides side (by simp [hmem])) proper
          refine ⟨result, hrest, fun final h => ?_⟩
          obtain ⟨proper', within'⟩ := spec' final h
          refine ⟨proper', fun t ht => ?_⟩
          obtain ⟨inside, met⟩ := within' t ht
          obtain ⟨outside, here⟩ := within t inside
          exact ⟨outside, by simpa using ⟨here, met⟩⟩

end Span

/-! ## The sides of a canvas -/

/-- One coordinate of a line: it is not extremely large, and changes by little unless it starts far
from the canvas. -/
structure Tame (start change : Int) : Prop where
  within : 16 * |(start : ℚ)| ≤ ceiling
  gentle : 4 * |(change : ℚ)| ≤ max (2 ^ 44) |(start : ℚ)|

namespace Tame

variable {start change : Int} {extent : Nat}

theorem change_le (h : Tame start change) : 16 * |(change : ℚ)| ≤ ceiling := by
  have small : max (2 ^ 44) |(start : ℚ)| ≤ ceiling / 16 :=
    max_le (by linarith [le_ceiling]) (by linarith [h.within])
  linarith [h.gentle.trans small, le_ceiling]

theorem room_low (h : Tame start change) {x : Float} (hx : x.isFinite = true)
    (near : |value x - start| ≤ (|(start : ℚ)| + 1) / 2 ^ 50) :
    HalfPlane.Fit ⟨-change, x + 0.5⟩ ∧
    |value (x + 0.5) - (start + 1 / 2)| ≤ (|(start : ℚ)| + 2) / 2 ^ 48 := by
  have within := h.within
  have large := le_ceiling
  obtain ⟨half, half'⟩ := half_finite
  have positive := abs_nonneg (start : ℚ)
  have size := abs_sub_abs_le_abs_sub (value x) start
  have sum : |value x + 1 / 2| ≤ |value x| + 1 / 2 := by
    simpa using abs_add_le (value x) (1 / 2)
  obtain ⟨finite, rounded⟩ := Near.add hx half (by rw [half']; linarith)
  rw [half'] at rounded
  have close : |value (x + 0.5) - (start + 1 / 2)| ≤ (|(start : ℚ)| + 2) / 2 ^ 48 := by
    have := abs_sub_le (value (x + 0.5)) (value x + 1 / 2) (start + 1 / 2)
    rw [add_sub_add_right_eq_sub] at this
    linarith
  refine ⟨⟨finite, ?_, ?_⟩, close⟩
  · have := abs_sub_abs_le_abs_sub (value (x + 0.5)) (start + 1 / 2)
    have : |(start : ℚ) + 1 / 2| ≤ |(start : ℚ)| + 1 / 2 := by
      simpa using abs_add_le (start : ℚ) (1 / 2)
    linarith
  · simpa using (by linarith [h.change_le, abs_nonneg (change : ℚ)] : 4 * |(change : ℚ)| ≤ ceiling)

theorem room_high (h : Tame start change) (hextent : extent ≤ 2 ^ 40) {x border : Float}
    (hx : x.isFinite = true)
    (near : |value x - start| ≤ (|(start : ℚ)| + 1) / 2 ^ 50) (hborder : border.isFinite = true)
    (near' : |value border - extent| ≤ ((extent : ℚ) + 1) / 2 ^ 50) :
    HalfPlane.Fit ⟨change, border - 0.5 - x⟩ ∧
      |value (border - 0.5 - x) - (extent - 1 / 2 - start)| ≤ (|(start : ℚ)| + extent + 2) /
        2 ^ 48 := by
  have wide : (extent : ℚ) ≤ 2 ^ 40 := by exact_mod_cast hextent
  have nonneg : (0 : ℚ) ≤ extent := extent.cast_nonneg
  have within := h.within
  have large := le_ceiling
  obtain ⟨half, half'⟩ := half_finite
  have positive := abs_nonneg (start : ℚ)
  have size := abs_sub_abs_le_abs_sub (value x) start
  have size' : |value border - 1 / 2| ≤ extent + 1 := by
    have := abs_le.mp near'
    rw [abs_le]
    constructor <;> linarith
  obtain ⟨finite, rounded⟩ := Near.sub hborder half (by rw [half']; linarith)
  rw [half'] at rounded
  have size'' : |value (border - 0.5) - value x| ≤ |value x| + extent + 2 := by
    have := abs_sub (value (border - 0.5)) (value x)
    have := abs_sub_abs_le_abs_sub (value (border - 0.5)) (value border - 1 / 2)
    linarith
  obtain ⟨finite', rounded'⟩ := Near.sub finite hx (by linarith)
  have close : |value (border - 0.5 - x) - (extent - 1 / 2 - start)| ≤
      (|(start : ℚ)| + extent + 2) / 2 ^ 48 := by
    -- Four errors: of both subtractions, of the border and of the coordinate.
    have split : value (border - 0.5) - value x - (extent - 1 / 2 - start) =
        value (border - 0.5) - (value border - 1 / 2) +
          (value border - extent) - (value x - start) := by
      ring
    have := abs_sub_le (value (border - 0.5 - x)) (value (border - 0.5) - value x)
      (extent - 1 / 2 - start)
    have := abs_sub (value (border - 0.5) - (value border - 1 / 2) + (value border - extent))
      (value x - start)
    have := abs_add_le (value (border - 0.5) - (value border - 1 / 2)) (value border - extent)
    rw [← split] at *
    linarith
  refine ⟨⟨finite', ?_, ?_⟩, close⟩
  · have := abs_sub_abs_le_abs_sub (value (border - 0.5 - x)) (value (border - 0.5) - value x)
    linarith
  · linarith [h.change_le, abs_nonneg (change : ℚ)]

/-- How far a coordinate is from both of its borders, as it is computed. -/
theorem rooms (h : Tame start change) (hextent : extent ≤ 2 ^ 40) :
    ∃ x border, Double.ofInt start = .ok x ∧ Double.ofInt extent = .ok border ∧
      HalfPlane.Fit ⟨-change, x + 0.5⟩ ∧ HalfPlane.Fit ⟨change, border - 0.5 - x⟩ ∧
      |value (x + 0.5) - (start + 1 / 2)| ≤ (|(start : ℚ)| + 2) / 2 ^ 48 ∧
      |value (border - 0.5 - x) - (extent - 1 / 2 - start)| ≤ (|(start : ℚ)| + extent + 2) /
        2 ^ 48 := by
  have wide : (extent : ℚ) ≤ 2 ^ 40 := by exact_mod_cast hextent
  have within := h.within
  have large := le_ceiling
  have size : |((extent : Int) : ℚ)| = extent := by
    rw [Int.cast_natCast, abs_of_nonneg extent.cast_nonneg]
  obtain ⟨x, hx, finite, near⟩ := ofInt_near (n := start) (by linarith [abs_nonneg (start : ℚ)])
  obtain ⟨border, hborder, finite', near'⟩ := ofInt_near (n := extent) (by rw [size]; linarith)
  rw [size, Int.cast_natCast] at near'
  obtain ⟨fitLow, low⟩ := h.room_low finite near
  obtain ⟨fitHigh, high⟩ := h.room_high hextent finite near finite' near'
  exact ⟨x, border, hx, hborder, fitLow, fitHigh, low, high⟩

/-- What both borders leave of the line is about as long as the canvas is wide, and starts near the
    canvas. -/
theorem short (h : Tame start change) (hextent : extent ≤ 2 ^ 40) {a b : Float} {span : Span Float}
    (hroom : |value a - (start + 1 / 2)| ≤ (|(start : ℚ)| + 2) / 2 ^ 48)
    (hroom' : |value b - (extent - 1 / 2 - start)| ≤ (|(start : ℚ)| + extent + 2) / 2 ^ 48)
    (hspan : span.Proper)
    (hmet : ∀ t, span.Has t → HalfPlane.Met ⟨-change, a⟩ t ∧ HalfPlane.Met ⟨change, b⟩ t) :
    |(start : ℚ)| ≤ 2 ^ 44 ∧ |(change : ℚ)| ≤ 2 ^ 42 ∧
      |(change : ℚ)| * (value span.last - value span.first) ≤ extent + 8 := by
  have wide : (extent : ℚ) ≤ 2 ^ 40 := by exact_mod_cast hextent
  have nonneg : (0 : ℚ) ≤ extent := extent.cast_nonneg
  obtain ⟨-, -, low, ordered, high⟩ := hspan
  obtain ⟨firstA, firstB⟩ := hmet (value span.first) ⟨le_refl _, ordered⟩
  obtain ⟨lastA, lastB⟩ := hmet (value span.last) ⟨ordered, le_refl _⟩
  simp only [HalfPlane.Met, Int.cast_neg, abs_neg] at firstA firstB lastA lastB
  -- The conditions at both ends of the range differ by the length of what is left.
  generalize value a = A at *
  generalize value b = B at *
  generalize value span.first = f at *
  generalize value span.last = l at *
  have part : |change * f| ≤ |(change : ℚ)| := by
    rw [abs_mul, abs_of_nonneg low]
    exact mul_le_of_le_one_right (abs_nonneg _) (ordered.trans high)
  have sizeA : |A| ≤ |(start : ℚ)| + 1 / 2 + (|(start : ℚ)| + 2) / 2 ^ 48 := by
    have := abs_sub_abs_le_abs_sub A (start + 1 / 2)
    have := abs_add_le (start : ℚ) (1 / 2)
    rw [abs_of_pos (by norm_num : (0 : ℚ) < 1 / 2)] at this
    linarith
  have sizeB : |B| ≤ extent + 1 / 2 + |(start : ℚ)| + (|(start : ℚ)| + extent + 2) / 2 ^ 48 := by
    have := abs_sub_abs_le_abs_sub B (extent - 1 / 2 - start)
    have := abs_sub ((extent : ℚ) - 1 / 2) start
    have := abs_sub (extent : ℚ) (1 / 2)
    rw [abs_of_pos (by norm_num : (0 : ℚ) < 1 / 2), abs_of_nonneg nonneg] at this
    linarith
  rw [abs_le] at hroom hroom' part
  have near : |(start : ℚ)| ≤ 2 ^ 44 := by
    -- Far from the canvas the line changes too little to come near it, and no parameter meets both
    -- conditions.
    by_contra hfar
    rw [not_le] at hfar
    have gentle := h.gentle
    rw [max_eq_right hfar.le] at gentle
    rcases le_total 0 (start : ℚ) with hstart | hstart
    · rw [abs_of_nonneg hstart] at *
      linarith
    · rw [abs_of_nonpos hstart] at *
      linarith
  have gentle := h.gentle
  rw [max_eq_left near] at gentle
  refine ⟨near, by linarith, ?_⟩
  rcases le_total 0 (change : ℚ) with hchange | hchange
  · rw [abs_of_nonneg hchange] at *
    linarith
  · rw [abs_of_nonpos hchange] at *
    linarith

end Tame

namespace Segment

/-- Both coordinates of the line are tame. -/
structure Tame (s : Segment) : Prop where
  x : TurtleGraphics.Tame s.x1 (s.x2 - s.x1)
  y : TurtleGraphics.Tame s.y1 (s.y2 - s.y1)

/-- What is left of a line on a canvas of the given size. -/
structure Visible (s : Segment) (width height : Nat) (span : Span Float) :
    Prop extends span.Proper where
  change_x : |((s.x2 - s.x1 : Int) : ℚ)| ≤ 2 ^ 42
  change_y : |((s.y2 - s.y1 : Int) : ℚ)| ≤ 2 ^ 42
  start_x : |(s.x1 : ℚ)| ≤ 2 ^ 44
  start_y : |(s.y1 : ℚ)| ≤ 2 ^ 44
  short_x : |((s.x2 - s.x1 : Int) : ℚ)| * (value span.last - value span.first) ≤ width + 8
  short_y : |((s.y2 - s.y1 : Int) : ℚ)| * (value span.last - value span.first) ≤ height + 8

theorem ofInt_zero : ∃ zero, Double.ofInt 0 = .ok zero ∧ zero.isFinite = true ∧ value zero = 0 := by
  have unpacked : (Float.ofInt 0).toModel.unpack = .zero .positive := rfl
  refine ⟨Float.ofInt 0, rfl, by decide +kernel, ?_⟩
  rw [value, unpacked, value_zero]

theorem ofInt_one : ∃ one, Double.ofInt 1 = .ok one ∧ one.isFinite = true ∧ value one = 1 := by
  have unpacked : (Float.ofInt 1).toModel.unpack = .finite .positive (2 ^ 52) (-52) (by decide) :=
    rfl
  refine ⟨Float.ofInt 1, rfl, by decide +kernel, ?_⟩
  rw [value, unpacked, value_finite]
  norm_num [Float.Model.UnpackedFloat.Sign.apply]

theorem clip_spec {s : Segment} (hs : s.Tame) {width height : Nat} (hwidth : width ≤ 2 ^ 40)
    (hheight : height ≤ 2 ^ 40) : ∃ result, s.clip Float width height = .ok result ∧
      ∀ span, result = some span → s.Visible width height span := by
  obtain ⟨zero, hzero, finite, zero'⟩ := ofInt_zero
  obtain ⟨one, hone, finite', one'⟩ := ofInt_one
  obtain ⟨x, right, hx, hright, fitA, fitB, roomA, roomB⟩ := hs.x.rooms hwidth
  obtain ⟨y, bottom, hy, hbottom, fitC, fitD, roomC, roomD⟩ := hs.y.rooms hheight
  have sides : s.sides Float width height =
      .ok [⟨-(s.x2 - s.x1), x + 0.5⟩, ⟨s.x2 - s.x1, right - 0.5 - x⟩,
      ⟨-(s.y2 - s.y1), y + 0.5⟩, ⟨s.y2 - s.y1, bottom - 0.5 - y⟩] := by
    simp only [Segment.sides, Scalar.ofInt, hx, hright, hy, hbottom]
    rfl
  -- The sums are not to be computed.
  generalize x + 0.5 = left, right - 0.5 - x = right, y + 0.5 = top, bottom - 0.5 - y = bottom at *
  have whole : Span.Proper ⟨zero, one⟩ :=
    ⟨finite, finite', zero'.ge, by rw [zero', one']; norm_num, one'.le⟩
  have fits :
      ∀ side ∈ [⟨-(s.x2 - s.x1), left⟩, ⟨s.x2 - s.x1, right⟩, ⟨-(s.y2 - s.y1), top⟩,
        ⟨s.y2 - s.y1, bottom⟩],
      HalfPlane.Fit side := by
    simp only [List.forall_mem_cons]
    exact ⟨fitA, fitB, fitC, fitD, nofun⟩
  obtain ⟨result, narrowed, spec⟩ := Span.narrowAll_spec finite zero' _ fits whole
  refine ⟨result, ?_, fun span h => ?_⟩
  · simp only [clip, Scalar.ofInt, hzero, hone, sides]
    exact narrowed
  · obtain ⟨proper, met⟩ := spec span h
    simp only [List.forall_mem_cons] at met
    obtain ⟨startX, changeX, shortX⟩ := hs.x.short hwidth roomA roomB proper
      fun t ht => ⟨(met t ht).2.1, (met t ht).2.2.1⟩
    obtain ⟨startY, changeY, shortY⟩ := hs.y.short hheight roomC roomD proper
      fun t ht => ⟨(met t ht).2.2.2.1, (met t ht).2.2.2.2.1⟩
    exact ⟨proper, changeX, changeY, startX, startY, shortX, shortY⟩

end Segment

end TurtleGraphics
