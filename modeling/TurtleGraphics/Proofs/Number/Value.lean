import TurtleGraphics.Proofs.Number.Canonical
import TurtleGraphics.Proofs.Number.Whole

/-! # The values of doubles

A finite double stands for a rational. Comparing doubles compares the rationals, and cutting off a
double cuts off the rational.
-/

namespace TurtleGraphics

open Float.Model Float.Model.UnpackedFloat

namespace Binary

def value (b : Binary) : ℚ :=
  b.significand * 2 ^ b.exponent

theorem floor_value (b : Binary) : b.floor = ⌊b.value⌋ := by
  obtain ⟨n, e⟩ := b
  rw [floor_eq, value]
  dsimp only
  split
  · rename_i he
    have whole : (n : ℚ) * 2 ^ e = ((n * 2 ^ e.toNat : Int) : ℚ) := by
      push_cast
      rw [← zpow_natCast, Int.toNat_of_nonneg he]
    rw [whole, Int.floor_intCast]
  · have quotient : (n : ℚ) * 2 ^ e = n / (2 ^ (-e).toNat : Nat) := by
      push_cast
      rw [← zpow_natCast, Int.toNat_of_nonneg (by omega), zpow_neg, div_inv_eq_mul]
    rw [quotient, Rat.floor_intCast_div_natCast]
    push_cast
    rfl

theorem value_neg (n e : Int) : value ⟨-n, e⟩ = -value ⟨n, e⟩ := by
  simp [value]

theorem ceil_value (b : Binary) : b.ceil = ⌈b.value⌉ := by
  rw [ceil, floor_value, value_neg, Int.floor_neg, Int.neg_neg]

theorem abs_truncate_sub_lt (b : Binary) : |(b.truncate : ℚ) - b.value| < 1 := by
  unfold truncate
  split
  · rw [floor_value, abs_sub_lt_iff]
    have low := Int.floor_le b.value
    have high := Int.lt_floor_add_one b.value
    constructor <;> linarith
  · rw [ceil_value, abs_sub_lt_iff]
    have low := Int.le_ceil b.value
    have high := Int.ceil_lt_add_one b.value
    constructor <;> linarith

end Binary

namespace Double

theorem abs_intCast_le_iff {n : Int} {bound : Nat} : |(n : ℚ)| ≤ bound ↔ n.natAbs ≤ bound := by
  rw [← Int.cast_abs, Int.abs_eq_natAbs, Int.cast_natCast, Nat.cast_le]

def value (x : Float) : ℚ :=
  (exact x.toModel.unpack).value

variable {x y : Float}

theorem ofFloat_of_isFinite (h : x.isFinite = true) :
    Binary.ofFloat x = .ok (exact x.toModel.unpack) :=
  ofFloat_exact (canonical_of_isFinite h)

theorem floor_of_isFinite (h : x.isFinite = true) : floor x = .ok ⌊value x⌋ := by
  rw [floor, ofFloat_of_isFinite h, value, ← Binary.floor_value]
  rfl

theorem ceil_of_isFinite (h : x.isFinite = true) : ceil x = .ok ⌈value x⌉ := by
  rw [ceil, ofFloat_of_isFinite h, value, ← Binary.ceil_value]
  rfl

theorem truncate_of_isFinite (h : x.isFinite = true) :
    ∃ n, truncate x = .ok n ∧ |(n : ℚ) - value x| < 1 := by
  rw [truncate, ofFloat_of_isFinite h]
  exact ⟨_, rfl, Binary.abs_truncate_sub_lt _⟩

theorem nearestEven_of_isFinite (h : x.isFinite = true) : ∃ n, nearestEven x = .ok n := by
  rw [nearestEven, ofFloat_of_isFinite h]
  exact ⟨_, rfl⟩

/-! ## Order -/

/-- Of two spellings the one with the smaller exponent is smaller: the other one has all its
    bits. -/
theorem scaled_lt_of_exponent_lt {m m' : Nat} {e e' : Int} (hm : m < 2 ^ 53) (hlow : -1074 ≤ e)
    (hm' : 2 ^ 52 ≤ m' ∨ e' = -1074) (he : e < e') : (m : ℚ) * 2 ^ e < m' * 2 ^ e' := by
  have whole : 2 ^ 52 ≤ m' := hm'.resolve_right (by omega)
  have unit : (0 : ℚ) < 2 ^ e := by positivity
  calc (m : ℚ) * 2 ^ e < 2 ^ 53 * 2 ^ e := by
        apply mul_lt_mul_of_pos_right _ unit
        exact_mod_cast hm
    _ = 2 ^ 52 * 2 ^ (e + 1) := by rw [zpow_add_one₀ two_ne_zero]; ring
    _ ≤ m' * 2 ^ e' := by
        apply mul_le_mul (by exact_mod_cast whole) _ (by positivity) (by positivity)
        exact zpow_le_zpow_right₀ one_le_two (by omega)

theorem then_eq_lt_iff {m m' : Nat} {e e' : Int} {hm : 0 < m} {hm' : 0 < m'} {s s' : Sign}
    (h : Canonical (.finite s m e hm)) (h' : Canonical (.finite s' m' e' hm')) :
    (compare e e').then (compare m m') = .lt ↔ (m : ℚ) * 2 ^ e < m' * 2 ^ e' := by
  obtain ⟨hmantissa, hlow, -, hbits⟩ := h
  obtain ⟨hmantissa', hlow', -, hbits'⟩ := h'
  rcases Int.lt_trichotomy e e' with he | rfl | he
  · have less := scaled_lt_of_exponent_lt hmantissa hlow hbits' he
    simp [Int.compare_eq_lt.mpr he, less]
  · have unit : (0 : ℚ) < 2 ^ e := by positivity
    simp [Nat.compare_eq_lt, unit]
  · have less := scaled_lt_of_exponent_lt hmantissa' hlow' hbits he
    simp [Int.compare_eq_gt.mpr he, less.le]

theorem value_finite (s : Sign) (m : Nat) (e : Int) (hm : 0 < m) :
    (exact (.finite s m e hm)).value = s.apply 1 * (m * 2 ^ e) := by
  cases s <;> simp [exact, Binary.value, Sign.apply]

theorem value_zero (s : Sign) : (exact (.zero s)).value = 0 := by
  simp [exact, Binary.value]

theorem compare_eq_lt_iff {u v : UnpackedFloat} (hu : Canonical u) (hv : Canonical v) :
    u.compare v = some .lt ↔ (exact u).value < (exact v).value := by
  cases u with
  | infinity | notANumber => cases hu
  | zero s =>
      cases v with
      | infinity | notANumber => cases hv
      | zero => simp [UnpackedFloat.compare, value_zero]
      | finite s' m' e' hm' =>
          have positive : (0 : ℚ) < m' * 2 ^ e' := by positivity
          cases s' <;> simp [UnpackedFloat.compare, value_zero, value_finite, Sign.apply, positive,
            positive.le]
  | finite s m e hm =>
      have positive : (0 : ℚ) < m * 2 ^ e := by positivity
      cases v with
      | infinity | notANumber => cases hv
      | zero s' =>
          cases s <;> simp [UnpackedFloat.compare, value_zero, value_finite, Sign.apply, positive,
            positive.le]
      | finite s' m' e' hm' =>
          have positive' : (0 : ℚ) < m' * 2 ^ e' := by positivity
          cases s with
          | positive =>
              cases s' with
              | positive =>
                  simp [UnpackedFloat.compare, value_finite, Sign.apply, then_eq_lt_iff hu hv]
              | negative =>
                  simp [UnpackedFloat.compare, value_finite, Sign.apply]
                  linarith
          | negative =>
              cases s' with
              | positive =>
                  simp [UnpackedFloat.compare, value_finite, Sign.apply]
                  linarith
              | negative =>
                  have swapped : ((compare e e').then (compare m m')).swap =
                      (compare e' e).then (compare m' m) := by
                    rw [Ordering.swap_then, ← Std.OrientedCmp.eq_swap, ← Std.OrientedCmp.eq_swap]
                  simp [UnpackedFloat.compare, value_finite, Sign.apply, swapped,
                    then_eq_lt_iff hv hu]

theorem lt_iff_value (hx : x.isFinite = true) (hy : y.isFinite = true) :
    x < y ↔ value x < value y := by
  rw [value, value, ← compare_eq_lt_iff (canonical_of_isFinite hx) (canonical_of_isFinite hy)]
  change decide ((x.toModel.unpack.compare y.toModel.unpack == some .lt) = true) = true ↔ _
  simp

end Double

end TurtleGraphics
