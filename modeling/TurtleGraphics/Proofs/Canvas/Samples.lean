import TurtleGraphics.Proofs.Canvas.Clip
import TurtleGraphics.Proofs.Execution.Ground

/-! # The samples of a line

However long a line is, what is sampled of it is about as long as the canvas. So every line that
does not start extremely far away can be drawn on a canvas for which there is memory.
-/

namespace TurtleGraphics

open Double

theorem ratio_spec {n : Int} {d : Nat} (hd : 0 < d) (hn : n.natAbs ≤ d) (hd' : d < 2 ^ 53) :
    Within 4 (ratio n d) := by
  have positive : (1 : ℚ) ≤ d := by exact_mod_cast hd
  have less : (n.natAbs : ℚ) ≤ d := by exact_mod_cast hn
  have short : (d : ℚ) ≤ 2 ^ 53 := by exact_mod_cast hd'.le
  have nonneg : (0 : ℚ) ≤ n.natAbs := Nat.cast_nonneg _
  obtain ⟨finite, near⟩ := ofNat_near (n := n.natAbs) (by linarith [le_ceiling])
  obtain ⟨finite', near'⟩ := ofNat_near (n := d) (by linarith [le_ceiling])
  rw [abs_le] at near near'
  have divisor : 0 < value (Float.ofNat d) := by linarith
  have bounded : |value (Float.ofNat n.natAbs) / value (Float.ofNat d)| ≤ 3 := by
    rw [abs_div, abs_of_pos divisor, div_le_iff₀ divisor, abs_le]
    constructor <;> linarith
  obtain ⟨quotient, close⟩ := Near.div finite finite' divisor.ne' (by linarith [le_ceiling])
  have magnitude : Within 4 (ofQuotient n.natAbs d) := by
    rw [ofQuotient, if_pos ⟨by exact Nat.lt_of_le_of_lt hn hd', hd'⟩]
    refine ⟨quotient, ?_⟩
    have := abs_sub_abs_le_abs_sub (value (Float.ofNat n.natAbs / Float.ofNat d))
      (value (Float.ofNat n.natAbs) / value (Float.ofNat d))
    linarith
  unfold ratio
  split
  · obtain ⟨negated, same⟩ := value_neg_of_isFinite magnitude.1
    exact ⟨negated, by rw [same, abs_neg]; exact magnitude.2⟩
  · exact magnitude

theorem Table.check_row {memory : Memory} {count : Int} (hpos : 0 < count)
    (hmemory : 8 * count ≤ memory.bytes) : check memory ⟨.double, [count]⟩ = .ok () := by
  have limit : countLimit = 2 ^ 63 := by decide
  have bound : memory.bytes < 2 ^ 56 := memory.bytes_lt
  have counted : ¬ (count < -countLimit ∨ countLimit ≤ count) := by
    rw [limit]
    omega
  have whole : checkBytes 8 [count] = .ok () := by
    rw [checkBytes, if_neg (by omega), if_neg (by omega), if_neg (by rw [limit]; omega), checkBytes]
  have held : ¬ memory.bytes < 8 * count := by omega
  simp only [check, bytes, PlaceKind.size, List.any_cons, List.any_nil, List.foldl_cons,
    List.foldl_nil]
  simp only [Int.cast_ofNat_Int, whole, held]
  simp [counted]

namespace Segment

variable {s : Segment} {memory : Memory} {width height : Nat} {span : Span Float}

theorem sampleCount_ok {first last : Int} (hlow : -2 ^ 50 ≤ last + 1 - first)
    (hhigh : 8 * (last + 1 - first) ≤ memory.bytes) :
    ∃ count, sampleCount memory first last = .ok count ∧
    (count : Int) = max (last + 1 - first) 0 := by
  have limit : Table.countLimit = 2 ^ 63 := by decide
  have bound : memory.bytes < 2 ^ 56 := memory.bytes_lt
  have exact : (Binary.rounded 53 ⟨last + 1 - first, 0⟩).floor = last + 1 - first :=
    Binary.floor_rounded_of_lt (by decide) (by omega)
  unfold sampleCount
  simp only [exact, limit]
  rw [if_neg (by omega)]
  by_cases hpos : 0 < last + 1 - first
  · rw [if_neg (by omega), Table.check_row hpos hhigh]
    refine ⟨(last + 1 - first).toNat, rfl, ?_⟩
    omega
  · rw [if_pos (by omega)]
    refine ⟨0, rfl, ?_⟩
    omega

/-- A parameter of the line is the sample of a number that is off by one at most. -/
theorem scaled_close {t length : Float} {steps : ℚ} (ht : t.isFinite = true)
    (hlength : length.isFinite = true)
    (hnonneg : 0 ≤ value t) (hle : value t ≤ 1) (hsteps : 0 ≤ steps) (hsteps' : steps ≤ 2 ^ 42)
    (hclose : |value length - steps| ≤ (steps + 1) / 2 ^ 50) :
    (t * length).isFinite = true ∧ |value (t * length) - value t * steps| ≤ 1 := by
  have near : |value length| ≤ 2 ^ 43 := by
    have := abs_sub_abs_le_abs_sub (value length) steps
    rw [abs_of_nonneg hsteps] at this
    linarith
  have size : |value t * value length| ≤ 2 ^ 43 := by
    rw [abs_mul, abs_of_nonneg hnonneg]
    exact (mul_le_of_le_one_left (abs_nonneg _) hle).trans near
  obtain ⟨finite, close⟩ := Near.mul ht hlength (by linarith [le_ceiling])
  have part : |value t * value length - value t * steps| ≤ |value length - steps| := by
    rw [← mul_sub, abs_mul, abs_of_nonneg hnonneg]
    exact mul_le_of_le_one_left (abs_nonneg _) hle
  have apart := abs_sub_le (value (t * length)) (value t * value length) (value t * steps)
  exact ⟨finite, by linarith⟩

namespace Visible

variable (h : s.Visible width height span)

include h

theorem steps_le : (s.steps : ℚ) ≤ 2 ^ 42 ∧
    s.steps * (value span.last - value span.first) ≤ max width height + 8 := by
  have x := h.change_x
  have y := h.change_y
  have shortX := h.short_x
  have shortY := h.short_y
  rw [← Int.cast_abs, Int.abs_eq_natAbs, Int.cast_natCast] at x y shortX shortY
  rcases le_total (s.x2 - s.x1).natAbs (s.y2 - s.y1).natAbs with hle | hle
  · rw [steps, max_eq_right hle]
    exact ⟨y, shortY.trans (by gcongr; exact le_max_right _ _)⟩
  · rw [steps, max_eq_left hle]
    exact ⟨x, shortX.trans (by gcongr; exact le_max_left _ _)⟩

theorem sampleRange_ok :
    ∃ first last, s.sampleRange Float span = .ok (first, last) ∧ 0 ≤ first ∧ first ≤ 2 ^ 43 ∧
    -2 ^ 43 ≤ last ∧ last - first ≤ max width height + 12 := by
  obtain ⟨few, short⟩ := h.steps_le
  have nonneg : (0 : ℚ) ≤ s.steps := Nat.cast_nonneg _
  obtain ⟨length, hlength, finite, close⟩ := ofInt_near (n := s.steps)
    (by rw [Int.cast_natCast, abs_of_nonneg nonneg]; linarith [le_ceiling])
  rw [Int.cast_natCast, abs_of_nonneg nonneg] at close
  have below_one := h.ordered.trans h.le_one
  have positive := h.nonneg.trans h.ordered
  obtain ⟨finite₁, close₁⟩ := scaled_close h.first finite h.nonneg below_one nonneg few close
  obtain ⟨finite₂, close₂⟩ := scaled_close h.last finite positive h.le_one nonneg few close
  refine ⟨max ⌊value (span.first * length)⌋ 0, min ⌈value (span.last * length)⌉ s.steps, ?_, ?_⟩
  · simp only [sampleRange, Scalar.ofInt, Scalar.mul, Scalar.floor, Scalar.ceil, hlength, bind,
      Except.bind, floor_of_isFinite finite₁, ceil_of_isFinite finite₂]
    rfl
  · rw [mul_sub] at short
    have low := mul_nonneg h.nonneg nonneg
    have low' := mul_nonneg positive nonneg
    have high := mul_le_of_le_one_left nonneg below_one
    rw [mul_comm (s.steps : ℚ), mul_comm (s.steps : ℚ)] at short
    rw [abs_le] at close₁ close₂
    have down := Int.floor_le (value (span.first * length))
    have down' := Int.lt_floor_add_one (value (span.first * length))
    have up := Int.le_ceil (value (span.last * length))
    have up' := Int.ceil_lt_add_one (value (span.last * length))
    generalize ⌊value (span.first * length)⌋ = first at *
    generalize ⌈value (span.last * length)⌉ = last at *
    have first_le : first ≤ 2 ^ 43 := by
      have : (first : ℚ) ≤ 2 ^ 43 := by linarith
      exact_mod_cast this
    have le_last : -1 ≤ last := by
      have : (-1 : ℚ) ≤ last := by linarith
      exact_mod_cast this
    have count : last - first < max width height + 12 := by
      have : (last : ℚ) - first < max width height + 12 := by linarith
      exact_mod_cast this
    omega

end Visible

/-! ## Sampling -/

theorem sampleAt_ok (hsteps : s.steps < 2 ^ 53) (hx : |(s.x1 : ℚ)| ≤ 2 ^ 60)
    (hy : |(s.y1 : ℚ)| ≤ 2 ^ 60) {position : Float} (hposition : Within (2 ^ 95) position) :
    ∃ point, s.sampleAt Float position = .ok point := by
  unfold sampleAt
  by_cases hzero : s.steps = 0
  · rw [if_pos hzero]
    exact ⟨_, rfl⟩
  · have along {start change : Int} (hstart : |(start : ℚ)| ≤ 2 ^ 60)
        (hchange : change.natAbs ≤ s.steps) :
        ∃ n, (do
          let slope := Scalar.ratio change s.steps
          Scalar.nearestEven (Scalar.add (Scalar.mul position slope) (← Scalar.ofInt start)) :
            Except NumberFault Int) = .ok n := by
      obtain ⟨origin, horigin, within⟩ := Within.ofInt hstart (by linarith [le_ceiling])
      have slope := ratio_spec (Nat.pos_of_ne_zero hzero) hchange hsteps
      have product := hposition.mul slope (by linarith [le_ceiling])
      have sum := product.add within (by linarith [le_ceiling])
      obtain ⟨n, hn⟩ := nearestEven_of_isFinite sum.1
      refine ⟨n, ?_⟩
      simp only [Scalar.ofInt, horigin]
      exact hn
    rw [if_neg hzero]
    obtain ⟨x, hx'⟩ := along hx (le_max_left _ _)
    obtain ⟨y, hy'⟩ := along hy (le_max_right _ _)
    refine ⟨(x, y), ?_⟩
    dsimp only at hx' hy' ⊢
    rw [hx', hy']
    rfl

theorem samplesFrom_ok (hsteps : s.steps < 2 ^ 53) (hx : |(s.x1 : ℚ)| ≤ 2 ^ 60)
    (hy : |(s.y1 : ℚ)| ≤ 2 ^ 60)
    {start advance : Float} (hstart : Within (2 ^ 60) start) (hadvance : Within (2 ^ 47) advance)
    (count : Nat) (index : Nat) (hindex : index + count ≤ 2 ^ 40) (found : List (Int × Int)) :
    ∃ points, s.samplesFrom Float width height start advance found index count = .ok points := by
  induction count generalizing index found with
  | zero => exact ⟨_, rfl⟩
  | succ count ih =>
      have few : |((index : Int) : ℚ)| ≤ 2 ^ 40 := by
        rw [Int.cast_natCast, Nat.abs_cast]
        exact_mod_cast (by omega : index ≤ 2 ^ 40)
      obtain ⟨offset, hoffset, within⟩ := Within.ofInt few (by linarith [le_ceiling])
      have product := within.mul hadvance (by linarith [le_ceiling])
      have sum := hstart.add product (by linarith [le_ceiling])
      obtain ⟨point, hpoint⟩ := sampleAt_ok hsteps hx hy (sum.mono (by norm_num))
      have known : s.sampleAt Float (Scalar.add start (Scalar.mul offset advance)) = .ok point :=
        hpoint
      rw [samplesFrom]
      simp only [Scalar.ofInt, hoffset, bind, Except.bind, known]
      exact ih (index + 1) (by omega) _

/-- A row of samples that is little longer than the canvas is wide or high can be held and
    counted. -/
structure Holds (memory : Memory) (width height : Nat) : Prop where
  row : 8 * ((width : Int) + 16) ≤ memory.bytes
  column : 8 * ((height : Int) + 16) ≤ memory.bytes
  width_le : width ≤ 2 ^ 39
  height_le : height ≤ 2 ^ 39

theorem samples_ok (hs : s.Tame) (hholds : Holds memory width height) :
    ∃ points, s.samples Float memory width height = .ok points := by
  obtain ⟨row, column, narrow, low⟩ := hholds
  obtain ⟨result, hclip, visible⟩ :=
    clip_spec hs (show width ≤ 2 ^ 40 by omega) (show height ≤ 2 ^ 40 by omega)
  unfold samples
  rw [hclip]
  cases result with
  | none => exact ⟨_, rfl⟩
  | some span =>
      have h := visible span rfl
      obtain ⟨first, last, hrange, nonneg, low, high, short⟩ := h.sampleRange_ok
      obtain ⟨count, hcount, total⟩ :
          ∃ count, sampleCount memory first last = .ok count ∧
            (count : Int) = max (last + 1 - first) 0 := by
        apply sampleCount_ok
        · omega
        · omega
      have near : |(first : ℚ)| ≤ 2 ^ 43 := by
        rw [abs_of_nonneg (by exact_mod_cast nonneg)]
        exact_mod_cast low
      have near' : |((first + 1 : Int) : ℚ)| ≤ 2 ^ 44 := by
        have := abs_add_le (first : ℚ) 1
        rw [abs_one] at this
        push_cast
        linarith
      obtain ⟨start, hstart, start_within⟩ := Within.ofInt near (by linarith [le_ceiling])
      obtain ⟨second, hsecond, second_within⟩ := Within.ofInt near' (by linarith [le_ceiling])
      have advance := second_within.sub start_within (by linarith [le_ceiling])
      have steps : s.steps < 2 ^ 53 := by
        have : (s.steps : ℚ) < 2 ^ 53 := lt_of_le_of_lt h.steps_le.1 (by norm_num)
        exact_mod_cast this
      obtain ⟨points, hpoints⟩ : ∃ points,
          s.samplesFrom Float width height start (Scalar.sub second start) [] 0 count =
            .ok points := by
        apply samplesFrom_ok steps (h.start_x.trans (by norm_num)) (h.start_y.trans (by norm_num))
          (start_within.mono (by norm_num)) (advance.mono (by norm_num))
        omega
      refine ⟨points, ?_⟩
      simp only [Except.mapError, bind, Except.bind, hrange, hcount, Scalar.ofInt, hstart,
        hsecond, hpoints]

end Segment

namespace Canvas

variable {memory : Memory}

/-- Every line that does not start extremely far away can be drawn. -/
theorem drawLine_ok {canvas : Canvas} (rgb : Rgb) {s : Segment} (hs : s.Tame)
    (hholds : Segment.Holds memory canvas.width canvas.height) :
    (canvas.drawLine memory rgb s).2 = none := by
  obtain ⟨points, hpoints⟩ := Segment.samples_ok hs hholds
  rw [drawLine, hpoints]

theorem drawLines_ok (rgb : Rgb) (segments : List Segment) (hsegments : ∀ s ∈ segments, s.Tame)
    {canvas : Canvas} (hholds : Segment.Holds memory canvas.width canvas.height) :
    (drawLines memory rgb segments canvas).2 = none := by
  induction segments generalizing canvas with
  | nil => rfl
  | cons s rest ih =>
      have drawn := drawLine_ok rgb (hsegments s (by simp)) hholds
      have size := canvas.size_drawLine memory rgb s
      rw [drawLines]
      split
      · rename_i painted hdraw
        rw [hdraw] at size
        apply ih fun s hmem => hsegments s (by simp [hmem])
        rwa [size.1, size.2]
      · rename_i painted fault hdraw
        rw [hdraw] at drawn
        cases drawn

end Canvas

end TurtleGraphics
