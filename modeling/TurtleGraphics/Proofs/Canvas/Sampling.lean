import TurtleGraphics.Proofs.Canvas.Pixels
import TurtleGraphics.Proofs.Canvas.Samples
import TurtleGraphics.Proofs.Canvas.Window
import TurtleGraphics.Proofs.Number.Nearest

/-! # Lines drawn without rounding

A line is clipped so that only a few of its samples are taken. Where the clipping and the samples
are computed in rationals, those that are not taken are not on the canvas: the drawing is that of
the whole line, however long it is, and takes no more samples than the canvas is wide or high, and
two.
-/

namespace TurtleGraphics

theorem nearestEven_nearestEvenRat (q : ℚ) : NearestEven q (nearestEvenRat q) := by
  obtain ⟨below, hbelow⟩ : ∃ below, below = q.floor := ⟨_, rfl⟩
  have floor : below = ⌊q⌋ := hbelow
  have low := Int.floor_le q
  have high := Int.lt_floor_add_one q
  unfold nearestEvenRat
  dsimp only
  rw [← hbelow]
  rw [← floor] at low high
  split
  · constructor
    · rw [abs_of_nonneg] <;> linarith
    · intro h
      rw [abs_of_nonneg] at h <;> linarith
  · split
    · constructor
      · push_cast
        rw [abs_of_nonpos] <;> linarith
      · intro h
        push_cast at h
        rw [abs_of_nonpos] at h <;> linarith
    · have middle : q = below + 1 / 2 := by linarith
      split
      · rename_i heven
        refine ⟨?_, fun _ => Int.even_iff.mpr heven⟩
        rw [middle, abs_of_nonneg] <;> linarith
      · rename_i hodd
        refine ⟨?_, fun _ => ?_⟩
        · push_cast
          rw [middle, abs_of_nonpos] <;> linarith
        · rw [Int.even_add_one, Int.even_iff]
          exact hodd

theorem nearestEvenRat_eq_iff (q : ℚ) (n : Int) : nearestEvenRat q = n ↔ NearestEven q n := by
  constructor
  · rintro rfl
    exact nearestEven_nearestEvenRat q
  · exact (nearestEven_nearestEvenRat q).unique

namespace Segment

section

variable (K : Type) [Scalar K]

/-- The numbers of the first and the last sample that are taken, if the line does not miss the
    canvas. -/
def visible (s : Segment) (width height : Nat) : Except NumberFault (Option (Int × Int)) := do
  match ← s.clip K width height with
  | none => return none
  | some span => return some (← s.sampleRange K span)

/-- The pixels on the canvas of so many samples in a row. -/
def row (s : Segment) (width height : Nat) (first : Int) (count : Nat) :
    Except NumberFault (List (Int × Int)) := do
  let start : K ← Scalar.ofInt first
  let second : K ← Scalar.ofInt (first + 1)
  s.samplesFrom K width height start (Scalar.sub second start) [] 0 count

theorem samples_eq (memory : Memory) (s : Segment) (width height : Nat) :
    s.samples K memory width height = (do
      match ← (s.visible K width height).mapError .number with
      | none => return []
      | some (first, last) =>
        let count ← sampleCount memory first last
        (s.row K width height first count).mapError .number) := by
  unfold samples visible
  cases s.clip K width height with
  | error fault => rfl
  | ok result =>
      cases result with
      | none => rfl
      | some span =>
          simp only [Except.mapError, bind, Except.bind, pure, Except.pure]
          cases s.sampleRange K span <;> rfl

end

/-- The pixel is the one nearest to the point so many steps from the start, or the start of a line
    without steps. -/
def IsSample (s : Segment) (i : Nat) (x y : Int) : Prop :=
  if s.steps = 0 then x = s.x1 ∧ y = s.y1
  else NearestEven (s.x1 + i * (s.x2 - s.x1) / s.steps) x ∧
    NearestEven (s.y1 + i * (s.y2 - s.y1) / s.steps) y

def sampleRat (s : Segment) (position : ℚ) : Int × Int :=
  if s.steps = 0 then (s.x1, s.y1)
  else (nearestEvenRat (position * ((s.x2 - s.x1 : Int) / s.steps) + s.x1),
    nearestEvenRat (position * ((s.y2 - s.y1 : Int) / s.steps) + s.y1))

variable {s : Segment} {width height : Nat}

theorem sampleAt_rat (s : Segment) (position : ℚ) :
    s.sampleAt ℚ position = .ok (s.sampleRat position) := by
  unfold sampleAt sampleRat
  split <;> rfl

theorem sampleRat_eq_iff (s : Segment) (i : Nat) (x y : Int) :
    s.sampleRat i = (x, y) ↔ s.IsSample i x y := by
  have along (start stop : Int) : (i : ℚ) * ((stop - start : Int) / s.steps) + start =
      start + i * (stop - start) / s.steps := by
    push_cast
    ring
  unfold sampleRat IsSample
  split
  · rw [Prod.mk.injEq, eq_comm, eq_comm (a := s.y1)]
  · rw [Prod.mk.injEq, nearestEvenRat_eq_iff, nearestEvenRat_eq_iff, along, along]

theorem samplesFrom_succ (s : Segment) (width height : Nat) (first : ℚ) (count index : Nat)
    (found : List (Int × Int)) :
    ∃ kept, s.samplesFrom ℚ width height first 1 found index (count + 1) =
        s.samplesFrom ℚ width height first 1 kept (index + 1) count ∧
      ∀ x y, (x, y) ∈ kept ↔
        (x, y) ∈ found ∨ OnCanvas width height x y ∧ s.sampleRat (first + index) = (x, y) := by
  obtain ⟨⟨a, b⟩, hpoint⟩ : ∃ point, s.sampleRat (first + index) = point := ⟨_, rfl⟩
  have known : s.sampleAt ℚ (Scalar.add first (Scalar.mul ((index : Int) : ℚ) 1)) = .ok (a, b) := by
    rw [sampleAt_rat, ← hpoint]
    congr 2
    exact congrArg (first + ·) (mul_one _)
  have inside : (0 ≤ a && a < width && 0 ≤ b && b < height) = true ↔ OnCanvas width height a b := by
    simp [OnCanvas, and_assoc]
  refine ⟨if 0 ≤ a && a < width && 0 ≤ b && b < height then (a, b) :: found
    else found, ?_, fun x y => ?_⟩
  · rw [samplesFrom]
    simp only [Scalar.ofInt, bind, Except.bind, known]
  · rw [hpoint]
    split
    · rename_i hinside
      rw [List.mem_cons, Prod.mk.injEq, Prod.mk.injEq, or_comm]
      refine or_congr_right ⟨?_, ?_⟩
      · rintro ⟨rfl, rfl⟩
        exact ⟨inside.mp hinside, rfl, rfl⟩
      · rintro ⟨-, rfl, rfl⟩
        exact ⟨rfl, rfl⟩
    · rename_i houtside
      refine ⟨.inl, ?_⟩
      rintro (hfound | ⟨hon, hsame⟩)
      · exact hfound
      · cases hsame
        exact absurd (inside.mpr hon) houtside

theorem samplesFrom_rat (s : Segment) (width height : Nat) (first : ℚ) (count index : Nat)
    (found : List (Int × Int)) :
    ∃ points, s.samplesFrom ℚ width height first 1 found index count = .ok points ∧
    ∀ x y, (x, y) ∈ points ↔
      (x, y) ∈ found ∨
        OnCanvas width height x y ∧ ∃ k, index ≤ k ∧ k < index + count ∧
        s.sampleRat (first + k) = (x, y) := by
  induction count generalizing index found with
  | zero =>
      refine ⟨found.reverse, rfl, fun x y => ?_⟩
      rw [List.mem_reverse]
      constructor
      · exact .inl
      · rintro (hfound | ⟨-, k, hk, hk', -⟩)
        · exact hfound
        · omega
  | succ count ih =>
      obtain ⟨kept, hkept, mem_kept⟩ := s.samplesFrom_succ width height first count index found
      obtain ⟨points, hpoints, mem_points⟩ := ih (index + 1) kept
      refine ⟨points, hkept.trans hpoints, fun x y => ?_⟩
      rw [mem_points, mem_kept]
      constructor
      · rintro ((hfound | ⟨hon, hsample⟩) | ⟨hon, k, hk, hk', hsample⟩)
        · exact .inl hfound
        · exact .inr ⟨hon, index, Nat.le_refl _, by omega, hsample⟩
        · exact .inr ⟨hon, k, by omega, by omega, hsample⟩
      · rintro (hfound | ⟨hon, k, hk, hk', hsample⟩)
        · exact .inl (.inl hfound)
        · rcases Nat.eq_or_lt_of_le hk with rfl | hlater
          · exact .inl (.inr ⟨hon, hsample⟩)
          · exact .inr ⟨hon, k, hlater, by omega, hsample⟩

theorem row_rat (s : Segment) (width height : Nat) (first : Int) (count : Nat) :
    ∃ points, s.row ℚ width height first count = .ok points ∧ ∀ x y, (x, y) ∈ points ↔
      OnCanvas width height x y ∧ ∃ k < count, s.sampleRat (first + k) = (x, y) := by
  obtain ⟨points, hpoints, mem_points⟩ := s.samplesFrom_rat width height first count 0 []
  refine ⟨points, ?_, fun x y => ?_⟩
  · rw [← hpoints]
    have advance : Scalar.sub ((first + 1 : Int) : ℚ) first = 1 := by
      change ((first + 1 : Int) : ℚ) - first = 1
      push_cast
      ring
    rw [← advance]
    rfl
  · rw [mem_points]
    simp

/-- The samples from one number to another are all that are on the canvas, and they are few. -/
structure Suffices (s : Segment) (width height : Nat) (first last : Int) : Prop where
  nonneg : 0 ≤ first
  ordered : first ≤ last
  le_steps : last ≤ s.steps
  short : last + 1 - first ≤ max width height + 2
  all : ∀ i ≤ s.steps, ∀ x y, s.IsSample i x y → OnCanvas width height x y → first ≤ i ∧ i ≤ last

theorem ceil_rat (q : ℚ) : q.ceil = ⌈q⌉ :=
  le_antisymm (Rat.ceil_le_iff.mpr (Int.le_ceil q)) (Int.ceil_le.mpr Rat.le_ceil)

theorem sampleRange_rat (s : Segment) (span : Span ℚ) :
    s.sampleRange ℚ span =
      .ok (max ⌊span.first * s.steps⌋ 0, min ⌈span.last * s.steps⌉ s.steps) := by
  rw [← ceil_rat]
  rfl

/-- A pixel of the canvas is nearest to points of the widened canvas only. -/
theorem onWindow_of_sample {i : Nat} {x y : Int} (hsample : s.IsSample i x y)
    (hon : OnCanvas width height x y) : s.OnWindow width height (i / s.steps) := by
  have along {start stop pixel : Int} {extent : Nat} (hpixel : 0 ≤ pixel) (hpixel' : pixel < extent)
      (hnear : |(start : ℚ) + i * (stop - start) / s.steps - pixel| ≤ 1 / 2) :
      -1 / 2 ≤ pointAlong start (stop - start) (i / s.steps) ∧
        pointAlong start (stop - start) (i / s.steps) ≤ extent - 1 / 2 := by
    have low : (0 : ℚ) ≤ pixel := by exact_mod_cast hpixel
    have high : (pixel : ℚ) + 1 ≤ extent := by exact_mod_cast hpixel'
    have same : pointAlong start (stop - start) (i / s.steps) =
        start + i * (stop - start) / s.steps := by
      unfold pointAlong
      push_cast
      ring
    rw [same]
    obtain ⟨below, above⟩ := abs_le.mp hnear
    constructor <;> linarith
  obtain ⟨hx, hx', hy, hy'⟩ := hon
  obtain ⟨nearX, nearY⟩ : |(s.x1 : ℚ) + i * (s.x2 - s.x1) / s.steps - x| ≤ 1 / 2 ∧
      |(s.y1 : ℚ) + i * (s.y2 - s.y1) / s.steps - y| ≤ 1 / 2 := by
    unfold IsSample at hsample
    split at hsample
    · rename_i hsteps
      obtain ⟨rfl, rfl⟩ := hsample
      simp [hsteps]
    · exact ⟨hsample.1.near, hsample.2.near⟩
  obtain ⟨left, right⟩ := along hx hx' nearX
  obtain ⟨top, bottom⟩ := along hy hy' nearY
  exact ⟨left, right, top, bottom⟩

theorem mul_steps_le {first last : ℚ} (hle : first ≤ last) (hfirst : s.OnWindow width height first)
    (hlast : s.OnWindow width height last) : (last - first) * s.steps ≤ max width height := by
  have along {start change : Int} {extent : Nat} (hlow : -1 / 2 ≤ pointAlong start change first)
      (hhigh : pointAlong start change first ≤ extent - 1 / 2)
        (hlow' : -1 / 2 ≤ pointAlong start change last)
      (hhigh' : pointAlong start change last ≤ extent - 1 / 2) :
      (last - first) * change.natAbs ≤ extent := by
    unfold pointAlong at hlow hhigh hlow' hhigh'
    rw [Nat.cast_natAbs, Int.cast_abs]
    rcases abs_cases (change : ℚ) with ⟨habs, -⟩ | ⟨habs, -⟩ <;> rw [habs] <;> linarith
  have x := along hfirst.left hfirst.right hlast.left hlast.right
  have y := along hfirst.top hfirst.bottom hlast.top hlast.bottom
  unfold steps
  rw [Nat.cast_max, Nat.cast_max, mul_max_of_nonneg _ _ (sub_nonneg.mpr hle)]
  exact max_le_max x y

theorem between_of_clip {span : Span ℚ}
    (h : Span.Is (fun t => 0 ≤ t ∧ t ≤ 1 ∧ s.OnWindow width height t) (some span)) {i : Nat}
    (hi : i ≤ s.steps) {x y : Int} (hsample : s.IsSample i x y) (hon : OnCanvas width height x y) :
    ⌊span.first * s.steps⌋ ≤ (i : Int) ∧ (i : Int) ≤ ⌈span.last * s.steps⌉ := by
  have positive : (0 : ℚ) ≤ s.steps := Nat.cast_nonneg _
  have part : (i / s.steps : ℚ) ≤ 1 := div_le_one_of_le₀ (by exact_mod_cast hi) positive
  have scaled : (i / s.steps : ℚ) * s.steps = i := by
    rcases Nat.eq_zero_or_pos s.steps with hzero | hpos
    · rw [hzero, Nat.le_zero] at hi
      simp [hi]
    · exact div_mul_cancel₀ _ (by positivity)
  obtain ⟨after, before⟩ :=
    (h.2 (i / s.steps)).mpr ⟨by positivity, part, onWindow_of_sample hsample hon⟩
  have after' := mul_le_mul_of_nonneg_right after positive
  have before' := mul_le_mul_of_nonneg_right before positive
  rw [scaled] at after' before'
  constructor
  · exact_mod_cast (Int.floor_le _).trans after'
  · exact_mod_cast before'.trans (Int.le_ceil _)

theorem suffices_of_clip {span : Span ℚ}
    (h : Span.Is (fun t => 0 ≤ t ∧ t ≤ 1 ∧ s.OnWindow width height t) (some span)) :
    s.Suffices width height (max ⌊span.first * s.steps⌋ 0) (min ⌈span.last * s.steps⌉ s.steps) := by
  obtain ⟨ordered, contains⟩ := h
  obtain ⟨nonneg, -, start⟩ := (contains span.first).mp ⟨le_refl _, ordered⟩
  obtain ⟨-, le_one, stop⟩ := (contains span.last).mp ⟨ordered, le_refl _⟩
  have positive : (0 : ℚ) ≤ s.steps := Nat.cast_nonneg _
  have short := mul_steps_le ordered start stop
  rw [sub_mul] at short
  have low : 0 ≤ span.first * s.steps := mul_nonneg nonneg positive
  have apart : span.first * s.steps ≤ span.last * s.steps :=
    mul_le_mul_of_nonneg_right ordered positive
  have high : span.last * s.steps ≤ s.steps := mul_le_of_le_one_left positive le_one
  have down := Int.floor_le (span.first * s.steps)
  have down' := Int.lt_floor_add_one (span.first * s.steps)
  have up := Int.le_ceil (span.last * s.steps)
  have up' := Int.ceil_lt_add_one (span.last * s.steps)
  have inside : ∀ i ≤ s.steps, ∀ x y, s.IsSample i x y → OnCanvas width height x y →
      ⌊span.first * s.steps⌋ ≤ (i : Int) ∧ (i : Int) ≤ ⌈span.last * s.steps⌉ :=
    fun _ hi _ _ => between_of_clip ⟨ordered, contains⟩ hi
  -- Both ends move by less than one, which gives the two samples more than the canvas is long.
  generalize ⌊span.first * s.steps⌋ = first at *
  generalize ⌈span.last * s.steps⌉ = last at *
  have first_le : first ≤ s.steps := by
    have : (first : ℚ) ≤ s.steps := by linarith
    exact_mod_cast this
  have first_le_last : first ≤ last := by
    have : (first : ℚ) ≤ last := by linarith
    exact_mod_cast this
  have last_nonneg : 0 ≤ last := by
    have : (0 : ℚ) ≤ last := by linarith
    exact_mod_cast this
  have few : last - first < max width height + 2 := by
    have : (last : ℚ) - first < (max width height : Nat) + 2 := by linarith
    exact_mod_cast this
  refine ⟨le_max_right _ _, by omega, min_le_right _ _, by omega, fun i hi x y hsample hon => ?_⟩
  have := inside i hi x y hsample hon
  omega

/-- The line misses the canvas, or the samples on the canvas are among those that are taken. -/
theorem visible_rat (s : Segment) (width height : Nat) :
    (s.visible ℚ width height = .ok none ∧
        ∀ i ≤ s.steps, ∀ x y, s.IsSample i x y → ¬OnCanvas width height x y) ∨
      ∃ first last, s.visible ℚ width height = .ok (some (first, last)) ∧
      s.Suffices width height first last := by
  obtain ⟨result, hclip, exact_⟩ := s.clip_exact width height
  unfold visible
  rw [hclip]
  cases result with
  | none =>
      refine .inl ⟨rfl, fun i hi x y hsample hon => ?_⟩
      refine exact_ (i / s.steps) ⟨by positivity, ?_, onWindow_of_sample hsample hon⟩
      exact div_le_one_of_le₀ (by exact_mod_cast hi) (Nat.cast_nonneg _)
  | some span =>
      refine .inr ⟨_, _, ?_, suffices_of_clip exact_⟩
      simp only [bind, Except.bind, sampleRange_rat]
      rfl

/-- The samples that are taken are all samples of the line that are on the canvas. -/
theorem Suffices.taken_iff {first last : Int} (h : s.Suffices width height first last) (x y : Int) :
    (OnCanvas width height x y ∧ ∃ k < (last + 1 - first).toNat, s.sampleRat (first + k) = (x, y)) ↔
      OnCanvas width height x y ∧ ∃ i ≤ s.steps, s.IsSample i x y := by
  have nonneg := h.nonneg
  have le_steps := h.le_steps
  have position (k : Nat) : (first : ℚ) + k = ((first.toNat + k : Nat) : ℚ) := by
    rw [Nat.cast_add]
    congr 1
    exact_mod_cast (Int.toNat_of_nonneg nonneg).symm
  refine and_congr_right fun hon => ⟨?_, ?_⟩
  · rintro ⟨k, hk, hsample⟩
    rw [position, sampleRat_eq_iff] at hsample
    exact ⟨first.toNat + k, by omega, hsample⟩
  · rintro ⟨i, hi, hsample⟩
    obtain ⟨after, before⟩ := h.all i hi x y hsample hon
    refine ⟨i - first.toNat, by omega, ?_⟩
    have index : first.toNat + (i - first.toNat) = i := by omega
    rw [position, index, sampleRat_eq_iff]
    exact hsample

end Segment

namespace Canvas

section

variable (K : Type) [Scalar K]

/-- The canvas with a line, clipped and sampled in numbers of another kind. -/
def drawLineIn (memory : Memory) (canvas : Canvas) (rgb : Rgb) (s : Segment) :
    Canvas × Option DrawFault :=
  match s.samples K memory canvas.width canvas.height with
  | .error fault => (canvas, some fault)
  | .ok points => (setAll points rgb canvas, none)

theorem drawLineIn_float (memory : Memory) (canvas : Canvas) (rgb : Rgb) (s : Segment) :
    canvas.drawLineIn Float memory rgb s = canvas.drawLine memory rgb s := rfl

/-- The canvas with a line, however much memory a row of samples takes. -/
def paintLine (canvas : Canvas) (rgb : Rgb) (s : Segment) : Except NumberFault Canvas := do
  match ← s.visible K canvas.width canvas.height with
  | none => return canvas
  | some (first, last) =>
    return setAll (← s.row K canvas.width canvas.height first (last + 1 - first).toNat) rgb canvas

end

variable {memory : Memory} {canvas : Canvas} {rgb : Rgb} {s : Segment}

theorem drawLineIn_of_paintLine {painted : Canvas} (hpaint : canvas.paintLine ℚ rgb s = .ok painted)
    (hmemory : ∀ first last, s.visible ℚ canvas.width canvas.height = .ok (some (first, last)) →
      8 * (last + 1 - first) ≤ memory.bytes) :
    canvas.drawLineIn ℚ memory rgb s = (painted, none) := by
  unfold drawLineIn
  rw [Segment.samples_eq]
  unfold paintLine at hpaint
  obtain ⟨hvisible, -⟩ | ⟨first, last, hvisible, few⟩ := s.visible_rat canvas.width canvas.height
  · rw [hvisible] at hpaint ⊢
    cases hpaint
    rfl
  · obtain ⟨points, hrow, -⟩ := s.row_rat canvas.width canvas.height first (last + 1 - first).toNat
    have ordered := few.ordered
    obtain ⟨count, hcount, same⟩ := Segment.sampleCount_ok (by omega) (hmemory first last hvisible)
    obtain rfl : count = (last + 1 - first).toNat := by omega
    rw [hvisible] at hpaint ⊢
    simp only [bind, Except.bind, hrow] at hpaint
    cases hpaint
    simp only [Except.mapError, bind, Except.bind, hcount, hrow]

/-- Drawing without rounding sets exactly the pixels of all samples of the line, and takes no more
samples than the canvas is wide or high, and two. Nothing but a row of samples that cannot be held
keeps a line from being drawn. -/
theorem drawLineIn_takes_all_samples (memory : Memory) (canvas : Canvas) (rgb : Rgb) (s : Segment) :
    canvas.drawLineIn Float memory rgb s = canvas.drawLine memory rgb s ∧
      ∃ range painted, s.visible ℚ canvas.width canvas.height = .ok range ∧
        canvas.paintLine ℚ rgb s = .ok painted ∧
        (∀ first last, range = some (first, last) →
          last + 1 - first ≤ max canvas.width canvas.height + 2) ∧
        painted.width = canvas.width ∧ painted.height = canvas.height ∧
        (∀ x y, canvas.Has x y → (∃ i ≤ s.steps, s.IsSample i x y) →
          painted.pixel? x y = some rgb) ∧
        (∀ x y, (¬∃ i ≤ s.steps, s.IsSample i x y) → painted.pixel? x y = canvas.pixel? x y) ∧
        ((∀ first last, range = some (first, last) → 8 * (last + 1 - first) ≤ memory.bytes) →
          canvas.drawLineIn ℚ memory rgb s = (painted, none)) := by
  refine ⟨canvas.drawLineIn_float memory rgb s, ?_⟩
  obtain ⟨hvisible, missed⟩ | ⟨first, last, hvisible, few⟩ :=
    s.visible_rat canvas.width canvas.height
  · have hpaint : canvas.paintLine ℚ rgb s = .ok canvas := by
      unfold paintLine
      rw [hvisible]
      rfl
    refine ⟨none, canvas, hvisible, hpaint, nofun, rfl, rfl, ?_, fun _ _ _ => rfl, fun _ => ?_⟩
    · rintro x y hon ⟨i, hi, hsample⟩
      exact absurd hon (missed i hi x y hsample)
    · refine drawLineIn_of_paintLine hpaint fun first last hsome => ?_
      cases hvisible.symm.trans hsome
  · obtain ⟨points, hrow, mem_points⟩ :=
      s.row_rat canvas.width canvas.height first (last + 1 - first).toNat
    have hpaint : canvas.paintLine ℚ rgb s = .ok (setAll points rgb canvas) := by
      unfold paintLine
      rw [hvisible]
      simp only [bind, Except.bind, hrow]
      rfl
    have taken (x y : Int) := (mem_points x y).trans (few.taken_iff x y)
    obtain ⟨width, height⟩ := size_setAll points rgb canvas
    refine ⟨some (first, last), setAll points rgb canvas, hvisible, hpaint, ?_, width, height,
      ?_, ?_, ?_⟩
    · rintro _ _ ⟨⟩
      exact few.short
    · intro x y hon hsample
      rw [pixel?_setAll, if_pos ⟨hon, (taken x y).mpr ⟨hon, hsample⟩⟩]
    · intro x y hsample
      rw [pixel?_setAll, if_neg fun h => hsample ((taken x y).mp h.2).2]
    · intro hmemory
      refine drawLineIn_of_paintLine hpaint fun first' last' hsome => hmemory first' last' ?_
      cases hvisible.symm.trans hsome
      rfl

/-- The middle of a line halfway between two rows is drawn in the even one. -/
theorem drawLineIn_takes_all_samples_tie :
    let canvas := blank 3 2 ⟨0, 0, 0⟩
    ∃ painted, canvas.drawLineIn ℚ .standard ⟨255, 255, 255⟩ ⟨0, 0, 2, 1⟩ = (painted, none) ∧
      painted.pixel? 1 0 = some ⟨255, 255, 255⟩ ∧ painted.pixel? 1 1 = some ⟨0, 0, 0⟩ := by
  intro canvas
  obtain ⟨-, range, painted, -, -, few, -, -, sets, leaves, draws⟩ :=
    canvas.drawLineIn_takes_all_samples .standard ⟨255, 255, 255⟩ ⟨0, 0, 2, 1⟩
  refine ⟨painted, draws fun first last hrange => ?_, sets 1 0 (by decide) ?_,
    (leaves 1 1 ?_).trans (by decide)⟩
  · have short : last + 1 - first ≤ 5 := few first last hrange
    have limit : Memory.standard.bytes = 2 ^ 36 := rfl
    omega
  · exact ⟨1, by decide, (Segment.sampleRat_eq_iff _ 1 1 0).mp (by decide +kernel)⟩
  · simp only [← Segment.sampleRat_eq_iff]
    decide +kernel

end Canvas

end TurtleGraphics
