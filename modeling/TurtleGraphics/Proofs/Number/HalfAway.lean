import TurtleGraphics.Proofs.Number.Error

/-! # Halves away from zero

Rounding adds one half to the magnitude and cuts off. The sum is a double, so it may itself go up to
the next integer. This happens to the greatest double below one half, and to the odd integers of 53
bits, whose sums have one bit too many. Every other double goes to the nearest integer, and halves
go away from zero.
-/

namespace TurtleGraphics

open Float.Model Float.Model.UnpackedFloat

/-! ## The nearest integer -/

/-- The integer is nearest to the rational, and the one of larger magnitude if there are two. -/
def NearestAway (q : ℚ) (n : Int) : Prop :=
  |q - n| ≤ 1 / 2 ∧ (|q - n| = 1 / 2 → |q| < |(n : ℚ)|)

namespace NearestAway

variable {q : ℚ} {n m : Int}

theorem neg (h : NearestAway q n) : NearestAway (-q) (-n) := by
  have apart : |-q - ((-n : Int) : ℚ)| = |q - n| := by
    rw [Int.cast_neg, neg_sub_neg, abs_sub_comm]
  unfold NearestAway
  rw [apart, Int.cast_neg, abs_neg, abs_neg]
  exact h

theorem floor_add_half (hq : 0 ≤ q) : NearestAway q ⌊q + 1 / 2⌋ := by
  have low := Int.floor_le (q + 1 / 2)
  have high := Int.lt_floor_add_one (q + 1 / 2)
  refine ⟨by rw [abs_le]; constructor <;> linarith, fun hhalf => ?_⟩
  -- Only the integer above can be one half away.
  have above : (⌊q + 1 / 2⌋ : ℚ) = q + 1 / 2 := by
    rcases abs_cases (q - ⌊q + 1 / 2⌋) with ⟨same, -⟩ | ⟨same, -⟩ <;> linarith
  rw [above, abs_of_nonneg hq, abs_of_nonneg (by linarith)]
  linarith

private theorem le_of_nearestAway (h : NearestAway q n) (h' : NearestAway q m) : m ≤ n := by
  by_contra hlt
  have next : (n : ℚ) + 1 ≤ m := by exact_mod_cast (by omega : n + 1 ≤ m)
  obtain ⟨near, away⟩ := h
  obtain ⟨near', away'⟩ := h'
  rw [abs_le] at near near'
  have middle : q = n + 1 / 2 := by linarith
  have same : (m : ℚ) = n + 1 := by linarith
  have larger := away (by rw [middle, add_sub_cancel_left]; norm_num)
  have larger' := away' (by rw [middle, same, add_sub_add_left_eq_sub]; norm_num)
  rw [middle] at larger larger'
  rw [same] at larger'
  rcases lt_or_ge n 0 with hneg | hpos
  · have negative : (n : ℚ) + 1 ≤ 0 := by exact_mod_cast (by omega : n + 1 ≤ 0)
    rw [abs_of_nonpos (by linarith : (n : ℚ) + 1 / 2 ≤ 0), abs_of_nonpos negative] at larger'
    linarith
  · have positive : (0 : ℚ) ≤ n := by exact_mod_cast hpos
    rw [abs_of_nonneg (by linarith : (0 : ℚ) ≤ n + 1 / 2), abs_of_nonneg positive] at larger
    linarith

theorem unique (h : NearestAway q n) (h' : NearestAway q m) : n = m :=
  Int.le_antisymm (le_of_nearestAway h' h) (le_of_nearestAway h h')

theorem intCast (k : Int) : NearestAway k k := by
  unfold NearestAway
  rw [sub_self, abs_zero]
  exact ⟨by norm_num, by norm_num⟩

end NearestAway

namespace Binary

theorem value_plusHalf {b : Binary} (h : b.exponent < 0) : b.plusHalf.value = b.value + 1 / 2 := by
  obtain ⟨n, e⟩ := b
  obtain ⟨k, rfl⟩ : ∃ k : Nat, e = -((k + 1 : Nat) : Int) :=
    ⟨(-e - 1).toNat, by dsimp only at h; omega⟩
  have half : (-(-((k + 1 : Nat) : Int)) - 1).toNat = k := by omega
  rw [plusHalf, if_neg (by dsimp only; omega)]
  simp only [value, half, Int.pow_eq, zpow_neg, zpow_natCast]
  push_cast
  field_simp
  ring

theorem nearestUp_value {b : Binary} (h : b.exponent < 0) : b.nearestUp = ⌊b.value + 1 / 2⌋ := by
  rw [nearestUp, floor_value, value_plusHalf h]

end Binary

namespace Double

/-- One half more than the magnitude is rounded up to an integer that is not nearest. -/
def Overshot (q : ℚ) : Prop :=
  |q| = 1 / 2 - 1 / 2 ^ 54 ∨ ∃ n : Nat, n % 2 = 1 ∧ 2 ^ 52 < n ∧ n < 2 ^ 53 ∧ |q| = n

variable {m m' : Nat} {e e' : Int} {s s' : Sign} {x : Float}

theorem Canonical.unique {hm : 0 < m} {hm' : 0 < m'} (h : Canonical (.finite s m e hm))
    (h' : Canonical (.finite s' m' e' hm')) (hsame : (m : ℚ) * 2 ^ e = m' * 2 ^ e') :
    m = m' ∧ e = e' := by
  obtain ⟨hmantissa, hlow, -, hbits⟩ := h
  obtain ⟨hmantissa', hlow', -, hbits'⟩ := h'
  rcases Int.lt_trichotomy e e' with he | rfl | he
  · exact absurd hsame (scaled_lt_of_exponent_lt hmantissa hlow hbits' he).ne
  · have unit : (2 : ℚ) ^ e ≠ 0 := by positivity
    exact ⟨by exact_mod_cast mul_right_cancel₀ unit hsame, rfl⟩
  · exact absurd hsame (scaled_lt_of_exponent_lt hmantissa' hlow' hbits he).ne'

/-- The numbers that are rounded up, by their spelling. -/
theorem overshot_iff {hm : 0 < m} (h : Canonical (.finite s m e hm)) :
    Overshot (s.apply 1 * (m * 2 ^ e)) ↔ (m = 2 ^ 53 - 1 ∧ e = -54) ∨ (m % 2 = 1 ∧ e = 0) := by
  rw [Overshot, abs_apply_one_mul, abs_of_nonneg (by positivity : (0 : ℚ) ≤ m * 2 ^ e)]
  constructor
  · rintro (below | ⟨n, hodd, hlow, hhigh, whole⟩)
    · have canonical : Canonical (.finite .positive (2 ^ 53 - 1) (-54) (by decide)) := by
        refine ⟨?_, ?_, ?_, .inl ?_⟩ <;> decide
      refine .inl (h.unique canonical (below.trans ?_))
      norm_num [zpow_neg]
    · have canonical : Canonical (.finite .positive n 0 (by omega)) :=
        ⟨hhigh, by decide, by decide, .inl hlow.le⟩
      obtain ⟨rfl, rfl⟩ := h.unique canonical (by simpa using whole)
      exact .inr ⟨hodd, rfl⟩
  · rintro (⟨rfl, rfl⟩ | ⟨hodd, rfl⟩)
    · left
      norm_num [zpow_neg]
    · obtain ⟨hhigh, -, -, hbits⟩ := h
      exact .inr ⟨m, hodd, by omega, hhigh, by simp⟩

/-! ## Integers -/

/-- One half more than an integer of 53 bits has one bit too many, and one half more than an integer
of even more bits is lost. -/
theorem add_half_of_whole {hm : 0 < m} (h : Canonical (.finite .positive m e hm)) (he : 0 ≤ e)
    {u : UnpackedFloat} (hu : UnpackedFloat.add .binary64 (.finite .positive m e hm)
      (.finite .positive (2 ^ 52) (-53) (by decide)) =
      u) :
    Canonical u ∧ (exact u).floor =
      ((if e = 0 then m + m % 2 else m * 2 ^ e.toNat : Nat) : Int) := by
  obtain ⟨hhigh, -, hbound, hbits⟩ := h
  obtain ⟨k, rfl⟩ : ∃ k : Nat, e = k := ⟨e.toNat, by omega⟩
  have hlow : 2 ^ 52 ≤ m := hbits.resolve_right (by omega)
  have wide : 2 ^ (k + 53) = 2 * 2 ^ 52 * 2 ^ k := by rw [Nat.pow_add]; ring
  have unit : 1 ≤ 2 ^ k := Nat.one_le_two_pow
  have bits : (m * 2 ^ (k + 53) + 2 ^ 52 * 2 ^ 0).log2 = 52 + (k + 53) := by
    have upper : (m + 1) * 2 ^ (k + 53) ≤ 2 ^ 53 * 2 ^ (k + 53) := Nat.mul_le_mul_right _ hhigh
    have lower : 2 ^ 52 * 2 ^ (k + 53) ≤ m * 2 ^ (k + 53) := Nat.mul_le_mul_right _ hlow
    refine (Nat.log2_eq_iff (by omega)).mpr ⟨?_, ?_⟩
    · rw [Nat.pow_add 2 52]
      omega
    · rw [Nat.add_right_comm 52, Nat.pow_add 2 53]
      rw [Nat.add_mul] at upper
      omega
  rw [add_half_eq (show (k : Int) = -53 + ((k + 53 : Nat) : Int) by omega)
    (show (-53 : Int) = -53 + (0 : Nat) by omega)
    (.inr rfl)] at hu
  obtain ⟨r, hr, -, -, rounded⟩ := round_eq .positive bits (by decide : (-1074 : Int) ≤ -53)
  have exponent : -53 + ((k + 53 : Nat) : Int) = k := by omega
  have kept : r = if k = 0 then m + m % 2 else m := by
    have short : 2 ^ 52 * 2 ^ 0 < 2 ^ (k + 53) := by omega
    rw [Binary.nearestEven_natCast, Int.natCast_inj, Nat.mul_comm m, Nat.mul_add_mod,
      Nat.mod_eq_of_lt short,
      Nat.mul_add_div (Nat.two_pow_pos _), Nat.div_eq_of_lt short, Nat.add_zero] at hr
    rw [hr]
    cases k with
    | zero => simp
    | succ k =>
        rw [if_pos (by rw [wide, Nat.pow_succ]; omega), if_neg (by omega), Nat.add_zero]
  rw [exponent] at rounded
  rw [← hu, Int.toNat_natCast]
  simp only [Nat.cast_eq_zero]
  obtain ⟨hpos, fits, hround⟩ | ⟨full, hround⟩ := rounded
  · rw [hround]
    refine ⟨⟨fits, by omega, hbound, .inl ?_⟩, ?_⟩
    · split at kept <;> omega
    · rw [exact, Binary.floor, if_pos (Int.natCast_nonneg k), Int.toNat_natCast, kept]
      split
      · rename_i least
        subst least
        simp [Sign.apply]
      · simp [Sign.apply]
  · -- Only the greatest odd number reaches the next bit.
    obtain rfl : k = 0 := by
      by_contra some
      rw [if_neg some] at kept
      omega
    rw [if_pos rfl] at kept
    rw [hround, if_pos rfl, ← kept, full]
    refine ⟨?_, by decide⟩
    refine ⟨?_, ?_, ?_, .inl ?_⟩ <;> decide

theorem floor_abs_add_half_of_whole {s : Sign} {hm : 0 < m}
    (hx : x.toModel.unpack = .finite s m e hm) (he : 0 ≤ e) :
    floor (x.abs + 0.5) = .ok ((if e = 0 then m + m % 2 else m * 2 ^ e.toNat : Nat) : Int) := by
  have canonical := canonical_of_isFinite (x := x) (by rw [hx]; rfl)
  rw [hx] at canonical
  have whole := add_half_of_whole (show Canonical (.finite .positive m e hm) from canonical) he rfl
  rw [floor_abs_add_half_of_sum hx rfl whole.1, whole.2]

/-! ## All doubles -/

theorem not_overshot_zero : ¬ Overshot 0 := by
  rintro (below | ⟨n, -, hlow, -, whole⟩)
  · norm_num at below
  · have positive : (0 : ℚ) < n := by exact_mod_cast (by omega : 0 < n)
    rw [abs_zero] at whole
    linarith

/-- The magnitude that is settled on is the nearest integer, or one more. -/
theorem floor_abs_add_half_of_isFinite (hx : x.isFinite = true) :
    ∃ n : Nat, NearestAway |value x| n ∧
      (¬ Overshot (value x) → floor (x.abs + 0.5) = .ok (n : Int)) ∧
      (Overshot (value x) → floor (x.abs + 0.5) = .ok (n + 1 : Int)) := by
  have canonical := canonical_of_isFinite hx
  unfold value
  cases hu : x.toModel.unpack with
  | infinity | notANumber =>
      rw [hu] at canonical
      cases canonical
  | zero s =>
      rw [value_zero, abs_zero]
      exact ⟨0, NearestAway.intCast 0, fun _ => floor_abs_add_half_of_zero hu, fun h =>
        absurd h not_overshot_zero⟩
  | finite s m e hm =>
      rw [hu] at canonical
      have nonneg : (0 : ℚ) ≤ m * 2 ^ e := by positivity
      rw [value_finite, overshot_iff canonical, abs_apply_one_mul, abs_of_nonneg nonneg]
      rcases lt_or_ge e 0 with he | he
      · obtain ⟨n, hn⟩ : ∃ n : Nat, Binary.nearestUp ⟨m, e⟩ = n := by
          refine Int.eq_ofNat_of_zero_le ?_
          rw [Binary.nearestUp_value he, Binary.value]
          exact Int.floor_nonneg.mpr (by positivity)
        have nearest : NearestAway (m * 2 ^ e) n := by
          rw [← hn, Binary.nearestUp_value he]
          exact NearestAway.floor_add_half nonneg
        refine ⟨n, nearest, fun hnot => ?_, fun hover => ?_⟩
        · rw [floor_abs_add_half hu he, if_neg fun below => hnot (.inl below), hn]
        · have below := hover.resolve_right fun odd => he.ne odd.2
          have none := (Binary.nearestUp_of_belowHalf (b := ⟨m, e⟩) below).1
          rw [floor_abs_add_half hu he, if_pos below, ← hn, none]
          rfl
      · obtain ⟨k, rfl⟩ : ∃ k : Nat, e = k := ⟨e.toNat, by omega⟩
        have nearest : NearestAway (m * 2 ^ (k : Int)) (m * 2 ^ k : Nat) := by
          have whole : (m : ℚ) * 2 ^ (k : Int) = ((m * 2 ^ k : Nat) : Int) := by
            push_cast
            rw [zpow_natCast]
          rw [whole]
          exact NearestAway.intCast _
        refine ⟨m * 2 ^ k, nearest, fun hnot => ?_, fun hover => ?_⟩
        · rw [floor_abs_add_half_of_whole hu he, Int.toNat_natCast]
          split
          · rename_i least
            obtain rfl : k = 0 := by omega
            have even : m % 2 = 0 := by omega
            simp [even]
          · rfl
        · obtain ⟨odd, least⟩ := hover.resolve_left fun below => by omega
          obtain rfl : k = 0 := by omega
          rw [floor_abs_add_half_of_whole hu he, if_pos least, odd, pow_zero, Nat.mul_one]
          rfl

theorem isNegative_iff_value (hx : x.isFinite = true) (hvalue : value x ≠ 0) :
    isNegative x = true ↔ value x < 0 := by
  have canonical := canonical_of_isFinite hx
  rw [isNegative_iff canonical]
  unfold value at *
  cases hu : x.toModel.unpack with
  | infinity | notANumber =>
      rw [hu] at canonical
      cases canonical
  | zero s =>
      rw [hu, value_zero] at hvalue
      exact absurd rfl hvalue
  | finite s m e hm =>
      have positive : (0 : ℚ) < m * 2 ^ e := by positivity
      rw [value_finite]
      cases s with
      | positive => simp [sign, Sign.apply, positive.le]
      | negative => simp [sign, Sign.apply, positive]

/-- Every double is rounded to the nearest integer, halves away from zero, but for those whose sum
with one half is rounded up to the next integer. -/
theorem roundHalfAway_nearest (hx : x.isFinite = true) :
    ∃ n, NearestAway (value x) n ∧ (∀ k : Int, value x = k → n = k) ∧
      (¬ Overshot (value x) → roundHalfAway x = .ok n) ∧
      (Overshot (value x) → roundHalfAway x = .ok (if value x < 0 then n - 1 else n + 1)) := by
  obtain ⟨n, nearest, plain, raised⟩ := floor_abs_add_half_of_isFinite hx
  suffices settled : ∃ k, NearestAway (value x) k ∧
      (¬ Overshot (value x) → roundHalfAway x = .ok k) ∧
      (Overshot (value x) → roundHalfAway x = .ok (if value x < 0 then k - 1 else k + 1)) by
    obtain ⟨k, hk, results⟩ := settled
    refine ⟨k, hk, fun whole hwhole => hk.unique ?_, results⟩
    rw [hwhole]
    exact NearestAway.intCast whole
  unfold roundHalfAway
  rcases eq_or_ne (value x) 0 with hzero | hvalue
  · rw [hzero, abs_zero] at nearest
    have none : (n : Int) = 0 := nearest.unique (NearestAway.intCast 0)
    rw [hzero] at plain ⊢
    refine ⟨0, NearestAway.intCast 0, fun hnot => ?_, fun hover => absurd hover not_overshot_zero⟩
    rw [plain hnot, none]
    cases isNegative x <;> rfl
  · have negative := isNegative_iff_value hx hvalue
    rcases lt_or_gt_of_ne hvalue with hneg | hpos
    · rw [abs_of_neg hneg] at nearest
      refine ⟨-n, by simpa using nearest.neg, fun hnot => ?_, fun hover => ?_⟩
      · rw [plain hnot, negative.mpr hneg]
        rfl
      · rw [raised hover, negative.mpr hneg, if_pos hneg]
        exact congrArg Except.ok (by omega : -((n : Int) + 1) = -n - 1)
    · rw [abs_of_pos hpos] at nearest
      have unsigned : isNegative x = false := by
        rw [← Bool.not_eq_true, negative]
        exact hpos.not_gt
      refine ⟨n, nearest, fun hnot => ?_, fun hover => ?_⟩
      · rw [plain hnot, unsigned]
        rfl
      · rw [raised hover, unsigned, if_neg hpos.not_gt]
        rfl

theorem roundHalfAway_nearest_half : (-2.5 : Float).isFinite = true ∧ ¬ Overshot (value (-2.5)) ∧
    NearestAway (value (-2.5)) (-3) ∧ roundHalfAway (-2.5) = .ok (-3) := by
  have finite : (-2.5 : Float).isFinite = true := by decide +kernel
  have spelled : exact (-2.5 : Float).toModel.unpack = ⟨-5 * 2 ^ 50, -51⟩ := by decide +kernel
  have half : value (-2.5) = -5 / 2 := by
    rw [value, spelled, Binary.value]
    norm_num [zpow_neg]
  have plain : ¬ Overshot (-5 / 2) := by
    rintro (below | ⟨n, -, hlow, -, whole⟩)
    · norm_num [abs_of_neg] at below
    · have large : (2 : ℚ) ^ 52 < n := by exact_mod_cast hlow
      norm_num [abs_of_neg] at whole
      linarith
  have nearest : NearestAway (-5 / 2) (-3) := by
    constructor <;> norm_num [abs_of_neg, abs_of_pos]
  rw [half]
  obtain ⟨n, hn, -, result, -⟩ := roundHalfAway_nearest finite
  rw [half] at hn result
  exact ⟨finite, plain, nearest, hn.unique nearest ▸ result plain⟩

/-- The greatest double below one half goes to one, and the least odd integer of 53 bits to the next
    even one. -/
theorem roundHalfAway_overshot :
    NearestAway (value 0.49999999999999994) 0 ∧ ¬ NearestAway (value 0.49999999999999994) 1 ∧
      roundHalfAway 0.49999999999999994 = .ok 1 ∧
      value 4503599627370497 = 4503599627370497 ∧
      roundHalfAway 4503599627370497 = .ok 4503599627370498 := by
  have spelled : exact (0.49999999999999994 : Float).toModel.unpack = ⟨2 ^ 53 - 1, -54⟩ := by
    decide +kernel
  have spelled' : exact (4503599627370497 : Float).toModel.unpack = ⟨2 ^ 52 + 1, 0⟩ := by
    decide +kernel
  rw [value, value, spelled, spelled', Binary.value, Binary.value]
  refine ⟨?_, ?_, by decide +kernel, by norm_num, by decide +kernel⟩
  · constructor <;> norm_num [zpow_neg, abs_of_pos]
  · rintro ⟨near, -⟩
    norm_num [zpow_neg, abs_of_neg] at near

end Double

end TurtleGraphics
