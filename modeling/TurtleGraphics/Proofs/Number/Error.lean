import TurtleGraphics.Proofs.Number.Rounding
import TurtleGraphics.Proofs.Number.Value

/-! # The error of a computation in doubles

Each operation is off by at most one unit of the last bit, and finds a finite double unless the
result is very large.
-/

namespace TurtleGraphics

open Float.Model Float.Model.UnpackedFloat

namespace Double

/-- A finite double at most one unit of the last bit away from a rational. Units below one count as
    one. -/
structure Near (z : ℚ) (x : Float) : Prop where
  finite : x.isFinite = true
  close : |value x - z| ≤ (|z| + 1) / 2 ^ 52

/-- Results up to this one are not rounded to infinity. -/
@[irreducible]
def ceiling : ℚ :=
  2 ^ 1010

variable {m : Nat} {e : Int} {z : ℚ}

theorem shiftToTargetExponent_short (hm : m < 2 ^ 53) (he : -1074 ≤ e) :
    shiftToTargetExponent .binary64 m e .exact = (⟨m, false, false⟩, e) := by
  have bits := log2_lt_of_lt hm (by decide)
  have shift : (max (totalExponent m e - 53) (-1074) - e).toNat = 0 := by
    unfold totalExponent
    omega
  simp only [shiftToTargetExponent, shiftToExponent, targetExponent_binary64, shift,
    ExtendedMantissa.ofMantissaAndAccuracy, Int.natCast_zero, Int.add_zero]
  rfl

theorem shiftToTargetExponent_full (he : -1074 ≤ e) :
    shiftToTargetExponent .binary64 (2 ^ 53) e .exact = (⟨2 ^ 52, false, false⟩, e + 1) := by
  have bits : (2 ^ 53).log2 = 52 + 1 := Nat.log2_two_pow
  rw [shiftToTargetExponent_eq bits he]
  rfl

/-- Where rounding ends up: at the chosen exponent, or one above it if that takes one bit more. -/
theorem roundWithAccuracy_eq (s : Sign) (accuracy : Accuracy) {n : Nat} {t : Int}
    (ht : t = max (totalExponent m e - 53) (-1074)) (hn : t = e + n) :
    ∃ r, r = (ExtendedMantissa.ofMantissaAndAccuracy m accuracy >>> n).roundedMantissa ∧
      m / 2 ^ n ≤ r ∧ r ≤ m / 2 ^ n + 1 ∧ r ≤ 2 ^ 53 ∧
      roundWithAccuracy .binary64 s m e accuracy =
        if hr : r = 0 then .zero s
        else if r < 2 ^ 53 then .finite s r t (Nat.pos_of_ne_zero hr)
        else .finite s (2 ^ 52) (t + 1) (by decide) := by
  have first : shiftToTargetExponent .binary64 m e accuracy =
      (ExtendedMantissa.ofMantissaAndAccuracy m accuracy >>> n, t) := by
    have shift : (t - e).toNat = n := by omega
    simp only [shiftToTargetExponent, shiftToExponent, targetExponent_binary64, ← ht, shift, ← hn]
  have near := roundedMantissa_between (ExtendedMantissa.ofMantissaAndAccuracy m accuracy >>> n)
  have kept : (ExtendedMantissa.ofMantissaAndAccuracy m accuracy).mantissa = m := by
    cases accuracy with
    | exact => rfl
    | inexact order => cases order <;> rfl
  rw [mantissa_shiftRight, kept] at near
  have short : m / 2 ^ n < 2 ^ 53 := by
    rw [Nat.div_lt_iff_lt_mul (Nat.pow_pos Nat.two_pos), ← Nat.pow_add]
    unfold totalExponent at ht
    calc m < 2 ^ (m.log2 + 1) := Nat.lt_log2_self
      _ ≤ 2 ^ (53 + n) := Nat.pow_le_pow_right Nat.two_pos (by omega)
  have low : -1074 ≤ t := by omega
  rw [roundWithAccuracy, first]
  dsimp only
  generalize (ExtendedMantissa.ofMantissaAndAccuracy m accuracy >>> n).roundedMantissa = r at near
  refine ⟨r, rfl, near.1, near.2, by omega, ?_⟩
  by_cases fits : r < 2 ^ 53
  · rw [shiftToTargetExponent_short fits low]
    simp only [if_pos fits]
  · obtain rfl : r = 2 ^ 53 := by omega
    rw [shiftToTargetExponent_full low]
    rfl

theorem exponent_lt_of_zpow_le {t : Int} (h : (2 : ℚ) ^ t ≤ ceiling) : t < 1011 := by
  unfold ceiling at h
  rw [← zpow_natCast] at h
  have := (zpow_le_zpow_iff_right₀ one_lt_two).mp h
  omega

theorem le_ceiling : 2 ^ 100 ≤ ceiling := by
  unfold ceiling
  exact pow_le_pow_right₀ one_le_two (by decide)

theorem unit_le {n : Nat} {t : Int} (ht : t = max (totalExponent m e - 53) (-1074)) (hn : t = e + n)
    (hlow : m * 2 ^ e ≤ z) (hz : 0 ≤ z) :
    (2 : ℚ) ^ t ≤ (z + 1) / 2 ^ 52 ∧ (2 ^ 52 ≤ m / 2 ^ n ∨ t = -1074) := by
  by_cases least : t = -1074
  · refine ⟨?_, .inr least⟩
    calc (2 : ℚ) ^ t ≤ 2 ^ (-52 : Int) := zpow_le_zpow_right₀ one_le_two (by omega)
      _ = 1 / 2 ^ 52 := by norm_num
      _ ≤ (z + 1) / 2 ^ 52 := by gcongr; linarith
  · have bits : m.log2 = 52 + n := by
      unfold totalExponent at ht
      omega
    have positive : m ≠ 0 := by
      rintro rfl
      simp at bits
      omega
    have leading : 2 ^ (52 + n) ≤ m := bits ▸ Nat.log2_self_le positive
    refine ⟨?_, .inl ?_⟩
    · rw [le_div_iff₀ (by positivity)]
      calc (2 : ℚ) ^ t * 2 ^ 52 = 2 ^ (52 + n) * 2 ^ e := by
            rw [hn, zpow_add₀ two_ne_zero, zpow_natCast]
            ring
        _ ≤ m * 2 ^ e := by
            apply mul_le_mul_of_nonneg_right _ (by positivity)
            exact_mod_cast leading
        _ ≤ z + 1 := by linarith
    · rwa [Nat.le_div_iff_mul_le (Nat.pow_pos Nat.two_pos), ← Nat.pow_add]

theorem rounded_near {n r : Nat} {t : Int} (hn : t = e + n) (hlow : m * 2 ^ e ≤ z)
    (hhigh : z ≤ (m + 1) * 2 ^ e)
    (hr : m / 2 ^ n ≤ r) (hr' : r ≤ m / 2 ^ n + 1) : |r * 2 ^ t - z| ≤ (2 : ℚ) ^ t := by
  have shifted : (2 : ℚ) ^ t = 2 ^ n * 2 ^ e := by
    rw [hn, zpow_add₀ two_ne_zero, zpow_natCast, mul_comm]
  have below : ((m / 2 ^ n : Nat) : ℚ) * 2 ^ t ≤ z := by
    have whole : m / 2 ^ n * 2 ^ n ≤ m := Nat.div_mul_le_self m _
    calc ((m / 2 ^ n : Nat) : ℚ) * 2 ^ t = (m / 2 ^ n * 2 ^ n : Nat) * 2 ^ e := by
          rw [shifted]
          push_cast
          ring
      _ ≤ m * 2 ^ e := by gcongr
      _ ≤ z := hlow
  have above : z ≤ ((m / 2 ^ n : Nat) + 1) * 2 ^ t := by
    have whole : m + 1 ≤ 2 ^ n * (m / 2 ^ n + 1) := Nat.lt_mul_div_succ m (Nat.pow_pos Nat.two_pos)
    calc z ≤ (m + 1 : Nat) * 2 ^ e := by
          push_cast
          exact hhigh
      _ ≤ (2 ^ n * (m / 2 ^ n + 1) : Nat) * 2 ^ e := by gcongr
      _ = ((m / 2 ^ n : Nat) + 1) * 2 ^ t := by
          rw [shifted]
          push_cast
          ring
  have positive : (0 : ℚ) < 2 ^ t := by positivity
  have least : ((m / 2 ^ n : Nat) : ℚ) * 2 ^ t ≤ r * 2 ^ t := by gcongr
  have greatest : (r : ℚ) * 2 ^ t ≤ ((m / 2 ^ n : Nat) + 1) * 2 ^ t := by
    gcongr
    exact_mod_cast hr'
  rw [abs_le]
  constructor <;> linarith

theorem roundWithAccuracy_near (s : Sign) (accuracy : Accuracy)
    (hexponent : e ≤ max (totalExponent m e - 53) (-1074)) (hlow : m * 2 ^ e ≤ z)
    (hhigh : z ≤ (m + 1) * 2 ^ e) (hz : z ≤ ceiling) :
    Canonical (roundWithAccuracy .binary64 s m e accuracy) ∧
      |(exact (roundWithAccuracy .binary64 s m e accuracy)).value - s.apply 1 * z| ≤
        (z + 1) / 2 ^ 52 := by
  obtain ⟨t, ht⟩ : ∃ t, t = max (totalExponent m e - 53) (-1074) := ⟨_, rfl⟩
  obtain ⟨n, hn⟩ : ∃ n : Nat, t = e + n := ⟨(t - e).toNat, by omega⟩
  obtain ⟨r, -, hr, hr', hfits, rounded⟩ := roundWithAccuracy_eq s accuracy ht hn
  have nonneg : 0 ≤ z := le_trans (by positivity) hlow
  obtain ⟨unit, bits⟩ := unit_le ht hn hlow nonneg
  have fits : t < 970 := by
    have small : (2 : ℚ) ^ (t + 51) ≤ ceiling := by
      calc (2 : ℚ) ^ (t + 51) = 2 ^ t * 2 ^ 51 := by rw [zpow_add₀ two_ne_zero]; norm_num
        _ ≤ (z + 1) / 2 ^ 52 * 2 ^ 51 := by gcongr
        _ = (z + 1) / 2 := by ring
        _ ≤ ceiling := by linarith [le_ceiling]
    have := exponent_lt_of_zpow_le small
    omega
  have near := rounded_near hn hlow hhigh hr hr'
  have signed : |s.apply 1 * (r * 2 ^ t) - s.apply 1 * z| ≤ (z + 1) / 2 ^ 52 := by
    rw [← mul_sub, abs_mul]
    cases s <;> simpa [Sign.apply] using near.trans unit
  rw [rounded]
  split
  · rename_i hzero
    refine ⟨trivial, ?_⟩
    rw [value_zero]
    simpa [hzero] using signed
  · rename_i hpos
    split
    · rename_i hlt
      refine ⟨⟨hlt, by omega, by omega, by omega⟩, ?_⟩
      rwa [value_finite]
    · obtain rfl : r = 2 ^ 53 := by omega
      refine ⟨⟨by decide, by omega, by omega, .inl (by decide)⟩, ?_⟩
      have same : ((2 ^ 52 : Nat) : ℚ) * 2 ^ (t + 1) = (2 ^ 53 : Nat) * 2 ^ t := by
        rw [zpow_add_one₀ two_ne_zero]
        push_cast
        ring
      rwa [value_finite, same]

/-- What an operation gives before it is packed, and how far that is from a rational. -/
def Close (z : ℚ) (u : UnpackedFloat) : Prop :=
  Canonical u ∧ |(exact u).value - z| ≤ (|z| + 1) / 2 ^ 52

variable {u v : UnpackedFloat} {x y : Float}

theorem Close.near (h : Close z u) (hx : x.toModel = Float.Model.pack u) : Near z x := by
  have kept : x.toModel.unpack = u := by
    rw [hx]
    exact h.1.unpack_pack
  refine ⟨?_, ?_⟩
  · change x.toModel.unpack.isFinite = true
    rw [kept]
    exact h.1.isFinite
  · rw [value, kept]
    exact h.2

theorem close_self (h : Canonical u) : Close (exact u).value u := by
  refine ⟨h, ?_⟩
  rw [sub_self, abs_zero]
  positivity

theorem close_zero (s : Sign) : Close 0 (.zero s) :=
  value_zero s ▸ close_self (u := .zero s) trivial

theorem abs_apply_one_mul (s : Sign) (z : ℚ) : |s.apply 1 * z| = |z| := by
  cases s <;> simp [Sign.apply]

theorem roundWithAccuracy_close (s : Sign) (accuracy : Accuracy)
    (hexponent : e ≤ max (totalExponent m e - 53) (-1074)) (hlow : m * 2 ^ e ≤ z)
    (hhigh : z ≤ (m + 1) * 2 ^ e) (hz : z ≤ ceiling) :
    Close (s.apply 1 * z) (roundWithAccuracy .binary64 s m e accuracy) := by
  obtain ⟨canonical, near⟩ := roundWithAccuracy_near s accuracy hexponent hlow hhigh hz
  have nonneg : 0 ≤ z := le_trans (by positivity) hlow
  refine ⟨canonical, ?_⟩
  rwa [abs_apply_one_mul, abs_of_nonneg nonneg]

theorem apply_one_mul (s s' : Sign) : (s * s').apply 1 = s.apply 1 * s'.apply 1 := by
  cases s <;> cases s' <;> rfl

theorem apply_one_div (s s' : Sign) : (s / s').apply 1 = s.apply 1 * s'.apply 1 := by
  cases s <;> cases s' <;> rfl

/-! ## Products -/

theorem exponent_mul_le {m' : Nat} {e' : Int} (hm : 0 < m) (hm' : 0 < m')
    (hbits : 2 ^ 52 ≤ m ∨ e = -1074) (hbits' : 2 ^ 52 ≤ m' ∨ e' = -1074) :
    e + e' ≤ max (totalExponent (m * m') (e + e') - 53) (-1074) := by
  by_cases short : m * m' < 2 ^ 52
  · have low : e = -1074 := hbits.resolve_left fun h => by nlinarith
    have low' : e' = -1074 := hbits'.resolve_left fun h => by nlinarith
    omega
  · have := (Nat.le_log2 (by positivity)).mpr (Nat.le_of_not_lt short)
    unfold totalExponent
    omega

theorem mul_close (hu : Canonical u) (hv : Canonical v)
    (hz : |(exact u).value * (exact v).value| ≤ ceiling) :
    Close ((exact u).value * (exact v).value) (UnpackedFloat.mul .binary64 u v) := by
  cases u with
  | infinity | notANumber => cases hu
  | zero s =>
      rw [value_zero, zero_mul]
      cases v with
      | infinity | notANumber => cases hv
      | zero | finite => exact close_zero _
  | finite s m e hm =>
      cases v with
      | infinity | notANumber => cases hv
      | zero =>
          rw [value_zero, mul_zero]
          exact close_zero _
      | finite s' m' e' hm' =>
          obtain ⟨-, hlow, -, hbits⟩ := hu
          obtain ⟨-, hlow', -, hbits'⟩ := hv
          have product : (exact (.finite s m e hm)).value * (exact (.finite s' m' e' hm')).value =
              (s * s').apply 1 * ((m * m' : Nat) * 2 ^ (e + e')) := by
            rw [value_finite, value_finite, apply_one_mul, zpow_add₀ two_ne_zero]
            push_cast
            ring
          rw [product, abs_apply_one_mul] at hz
          rw [product, mul_finite]
          apply roundWithAccuracy_close
          · exact exponent_mul_le hm hm' hbits hbits'
          · exact le_refl _
          · gcongr
            linarith
          · exact (le_abs_self _).trans hz

theorem Near.mul (hx : x.isFinite = true) (hy : y.isFinite = true)
    (hz : |value x * value y| ≤ ceiling) :
    Near (value x * value y) (x * y) :=
  (mul_close (canonical_of_isFinite hx) (canonical_of_isFinite hy) hz).near rfl

/-! ## Sums -/

theorem exists_shift_of_round (s : Sign) (hm : 0 < m) (e : Int) :
    ∃ n : Nat, UnpackedFloat.round .binary64 s m e =
      roundWithAccuracy .binary64 s (m * 2 ^ n) (e - n) .exact ∧
      ((m * 2 ^ n : Nat) : ℚ) * 2 ^ (e - n) = m * 2 ^ e ∧
      e - n ≤ max (totalExponent (m * 2 ^ n) (e - n) - 53) (-1074) := by
  obtain ⟨n, hn⟩ : ∃ n, n = (e - max (totalExponent m e - 53) (-1074)).toNat := ⟨_, rfl⟩
  have bits : (m * 2 ^ n).log2 = m.log2 + n :=
    log2_mul_two_pow (Nat.log2_self_le (by omega)) Nat.lt_log2_self
  refine ⟨n, ?_, ?_, ?_⟩
  · rw [← Nat.shiftLeft_eq, hn]
    rfl
  · rw [zpow_sub₀ two_ne_zero, zpow_natCast]
    push_cast
    field_simp
  · unfold totalExponent at hn ⊢
    omega

theorem round_close (s : Sign) (hm : 0 < m) (hz : m * 2 ^ e ≤ ceiling) :
    Close (s.apply 1 * (m * 2 ^ e)) (UnpackedFloat.round .binary64 s m e) := by
  obtain ⟨n, shifted, same, exponent⟩ := exists_shift_of_round s hm e
  rw [shifted]
  apply roundWithAccuracy_close
  · exact exponent
  · rw [same]
  · rw [← same]
    gcongr
    linarith
  · exact hz

theorem normalize_close (k : Int) (s : Sign) (hz : |k * (2 : ℚ) ^ e| ≤ ceiling) :
    Close (k * 2 ^ e) (UnpackedFloat.normalize .binary64 k e s) := by
  have unit : (0 : ℚ) < 2 ^ e := by positivity
  rw [abs_mul, abs_of_pos unit] at hz
  unfold UnpackedFloat.normalize
  split
  · rename_i hneg
    have negative : k < 0 := Int.compare_eq_lt.mp hneg
    obtain ⟨m, rfl⟩ : ∃ m : Nat, k = -m := ⟨k.natAbs, by omega⟩
    rw [Int.neg_neg, Int.toNat_natCast]
    have rounded := round_close (e := e) .negative (show 0 < m by omega) (by simpa using hz)
    simpa [Sign.apply] using rounded
  · rename_i hzero
    rw [Int.compare_eq_eq.mp hzero, Int.cast_zero, zero_mul]
    exact close_zero s
  · rename_i hpos
    have positive : 0 < k := Int.compare_eq_gt.mp hpos
    obtain ⟨m, rfl⟩ : ∃ m : Nat, k = m := ⟨k.toNat, by omega⟩
    rw [Int.toNat_natCast]
    have rounded := round_close (e := e) .positive (show 0 < m by omega) (by simpa using hz)
    simpa [Sign.apply] using rounded

theorem value_aligned (s : Sign) (m n : Nat) {e low : Int} (he : e = low + n) :
    ((s.apply (m <<< n : Nat) : Int) : ℚ) * 2 ^ low = s.apply 1 * (m * 2 ^ e) := by
  rw [he, zpow_add₀ two_ne_zero, zpow_natCast, Nat.shiftLeft_eq]
  cases s <;> simp [Sign.apply] <;> ring

theorem add_close (hu : Canonical u) (hv : Canonical v)
    (hz : |(exact u).value + (exact v).value| ≤ ceiling) :
    Close ((exact u).value + (exact v).value) (UnpackedFloat.add .binary64 u v) := by
  cases u with
  | infinity | notANumber => cases hu
  | zero s =>
      rw [value_zero, zero_add]
      cases v with
      | infinity | notANumber => cases hv
      | zero s' =>
          rw [value_zero]
          cases s <;> cases s' <;> exact close_zero _
      | finite => exact close_self hv
  | finite s m e hm =>
      cases v with
      | infinity | notANumber => cases hv
      | zero =>
          rw [value_zero, add_zero]
          exact close_self hu
      | finite s' m' e' hm' =>
          obtain ⟨low, hlow⟩ : ∃ low, low = min e e' := ⟨_, rfl⟩
          obtain ⟨n, hn⟩ : ∃ n, n = (e - low).toNat := ⟨_, rfl⟩
          obtain ⟨n', hn'⟩ : ∃ n, n = (e' - low).toNat := ⟨_, rfl⟩
          have sum : (exact (.finite s m e hm)).value + (exact (.finite s' m' e' hm')).value =
              ((s.apply (m <<< n : Nat) + s'.apply (m' <<< n' : Nat) : Int) : ℚ) * 2 ^ low := by
            rw [value_finite, value_finite, ← value_aligned s m n (show e = low + n by omega),
              ← value_aligned s' m' n' (show e' = low + n' by omega), Int.cast_add, add_mul]
          rw [sum] at hz ⊢
          rw [add_finite hm hm' hlow hn hn']
          exact normalize_close _ _ hz

theorem Near.add (hx : x.isFinite = true) (hy : y.isFinite = true)
    (hz : |value x + value y| ≤ ceiling) :
    Near (value x + value y) (x + y) :=
  (add_close (canonical_of_isFinite hx) (canonical_of_isFinite hy) hz).near rfl

/-! ## Differences -/

theorem neg_apply (s : Sign) (n : Int) : (-s).apply n = -s.apply n := by
  cases s with
  | positive => rfl
  | negative => exact (Int.neg_neg n).symm

theorem canonical_neg (h : Canonical u) : Canonical u.neg := by
  cases u <;> exact h

theorem value_neg (u : UnpackedFloat) : (exact u.neg).value = -(exact u).value := by
  cases u with
  | finite s m e hm =>
      change (exact (.finite (-s) m e hm)).value = _
      rw [value_finite, value_finite, neg_apply]
      push_cast
      ring
  | zero | infinity | notANumber => simp [UnpackedFloat.neg, exact, Binary.value]

theorem sub_eq_add (u v : UnpackedFloat) :
    UnpackedFloat.sub .binary64 u v = UnpackedFloat.add .binary64 u v.neg := by
  cases u with
  | zero | infinity | notANumber => cases v <;> rfl
  | finite s m e hm =>
      cases v with
      | zero | infinity | notANumber => rfl
      | finite =>
          simp [UnpackedFloat.sub, UnpackedFloat.add, UnpackedFloat.neg, neg_apply,
            Int.sub_eq_add_neg]

theorem Near.sub (hx : x.isFinite = true) (hy : y.isFinite = true)
    (hz : |value x - value y| ≤ ceiling) :
    Near (value x - value y) (x - y) := by
  have canonical := canonical_neg (canonical_of_isFinite hy)
  have negated := value_neg y.toModel.unpack
  have difference : value x - value y = (exact x.toModel.unpack).value +
      (exact y.toModel.unpack.neg).value := by
    rw [value, value, negated, sub_eq_add_neg]
  rw [difference] at hz ⊢
  have sum := add_close (canonical_of_isFinite hx) canonical hz
  rw [← sub_eq_add] at sum
  exact sum.near rfl

theorem value_neg_of_isFinite (hx : x.isFinite = true) :
    (-x).isFinite = true ∧ value (-x) = -value x := by
  have canonical := canonical_neg (canonical_of_isFinite hx)
  have packed : (-x).toModel.unpack = x.toModel.unpack.neg := canonical.unpack_pack
  refine ⟨?_, ?_⟩
  · change (-x).toModel.unpack.isFinite = true
    rw [packed]
    exact canonical.isFinite
  · rw [value, packed, value_neg]
    rfl

/-! ## Quotients -/

theorem exponent_div_le {m' : Nat} {e' t : Int} (hm : 0 < m) (hm' : 0 < m')
    (ht : t = min (e - e') (max (totalExponent m e - totalExponent m' e' - 53) (-1074))) {n : Nat}
    (hn : n = (e - e' - t).toNat) : t ≤ max (totalExponent (m * 2 ^ n / m') t - 53) (-1074) := by
  by_cases low : t ≤ -1074
  · omega
  · have longer : m'.log2 + 53 ≤ m.log2 + n := by
      unfold totalExponent at ht
      omega
    have whole : 2 ^ 52 ≤ m * 2 ^ n / m' := by
      rw [Nat.le_div_iff_mul_le hm']
      calc 2 ^ 52 * m' ≤ 2 ^ 52 * 2 ^ (m'.log2 + 1) :=
        Nat.mul_le_mul_left _ (Nat.le_of_lt Nat.lt_log2_self)
        _ = 2 ^ (m'.log2 + 53) := by rw [← Nat.pow_add]; congr 1; omega
        _ ≤ 2 ^ (m.log2 + n) := Nat.pow_le_pow_right Nat.two_pos longer
        _ = 2 ^ m.log2 * 2 ^ n := Nat.pow_add ..
        _ ≤ m * 2 ^ n := Nat.mul_le_mul_right _ (Nat.log2_self_le (by omega))
    have := (Nat.le_log2 (by omega)).mpr whole
    unfold totalExponent
    omega

theorem exists_shift_of_div (s s' : Sign) {m' : Nat} (e e' : Int) (hm : 0 < m) (hm' : 0 < m') :
    ∃ (n : Nat) (t : Int), UnpackedFloat.div .binary64 (.finite s m e hm) (.finite s' m' e' hm') =
        roundWithAccuracy .binary64 (s / s') (m * 2 ^ n / m') t
          (accuracyOfFraction (m * 2 ^ n % m') m') ∧
      (m : ℚ) * 2 ^ e / (m' * 2 ^ e') = (m * 2 ^ n : Nat) / m' * 2 ^ t ∧
      t ≤ max (totalExponent (m * 2 ^ n / m') t - 53) (-1074) := by
  obtain ⟨t, ht⟩ :
    ∃ t, t = min (e - e') (max (totalExponent m e - totalExponent m' e' - 53) (-1074)) := ⟨_, rfl⟩
  obtain ⟨n, hn⟩ : ∃ n, n = (e - e' - t).toNat := ⟨_, rfl⟩
  refine ⟨n, t, ?_, ?_, exponent_div_le hm hm' ht hn⟩
  · rw [← Nat.shiftLeft_eq, hn, ht]
    rfl
  · have shift : e - e' = t + n := by omega
    have split : (2 : ℚ) ^ e = 2 ^ t * 2 ^ n * 2 ^ e' := by
      rw [← zpow_natCast, ← zpow_add₀ two_ne_zero, ← zpow_add₀ two_ne_zero, ← shift, sub_add_cancel]
    rw [split]
    push_cast
    field_simp

theorem div_close (hu : Canonical u) (hv : Canonical v) (hv' : (exact v).value ≠ 0)
    (hz : |(exact u).value / (exact v).value| ≤ ceiling) :
    Close ((exact u).value / (exact v).value) (UnpackedFloat.div .binary64 u v) := by
  cases v with
  | infinity | notANumber => cases hv
  | zero s' => exact absurd (value_zero s') hv'
  | finite s' m' e' hm' =>
      cases u with
      | infinity | notANumber => cases hu
      | zero s =>
          rw [value_zero, zero_div]
          exact close_zero _
      | finite s m e hm =>
          obtain ⟨n, t, divided, scaled, exponent⟩ := exists_shift_of_div s s' e e' hm hm'
          have quotient : (exact (.finite s m e hm)).value / (exact (.finite s' m' e' hm')).value =
              (s / s').apply 1 * (m * 2 ^ e / (m' * 2 ^ e')) := by
            rw [value_finite, value_finite, apply_one_div]
            cases s' <;> simp [Sign.apply] <;> ring
          rw [quotient, abs_apply_one_mul, scaled] at hz
          rw [quotient, divided, scaled]
          have positive : (0 : ℚ) < m' := by exact_mod_cast hm'
          apply roundWithAccuracy_close
          · exact exponent
          · gcongr
            exact Nat.cast_div_le
          · gcongr
            rw [div_le_iff₀ positive]
            have := (Nat.lt_div_mul_add hm' : m * 2 ^ n < m * 2 ^ n / m' * m' + m')
            have := Nat.le_of_lt this
            calc ((m * 2 ^ n : Nat) : ℚ) ≤ (m * 2 ^ n / m' * m' + m' : Nat) := by
                  exact_mod_cast this
              _ = ((m * 2 ^ n / m' : Nat) + 1) * m' := by push_cast; ring
          · exact (le_abs_self _).trans hz

theorem Near.div (hx : x.isFinite = true) (hy : y.isFinite = true) (hy' : value y ≠ 0)
    (hz : |value x / value y| ≤ ceiling) : Near (value x / value y) (x / y) :=
  (div_close (canonical_of_isFinite hx) (canonical_of_isFinite hy) hy' hz).near rfl

/-! ## Integers -/

theorem toFloat_near (n : UInt64) (hn : (n.toNat : ℚ) ≤ ceiling) : Near n.toNat n.toFloat := by
  have rounded := normalize_close (e := 0) n.toNat .positive (by simpa using hn)
  rw [zpow_zero, mul_one, Int.cast_natCast] at rounded
  exact rounded.near rfl

theorem unpack_power_zero : Float.exactlyRepresentablePowersOfTen[0].toModel.unpack =
    .finite .positive (2 ^ 52) (-52) (by decide) := by
  rfl

theorem ofScientific_close {n : Nat} (hn : (n : ℚ) ≤ ceiling) (hlong : 2 ^ 53 ≤ n) :
    Close n (UnpackedFloat.ofScientific .binary64 n 0) := by
  have positive : n ≠ 0 := by omega
  unfold UnpackedFloat.ofScientific
  rw [dif_neg positive]
  split
  · rename_i huge
    change (0 : Int) > 2048 at huge
    omega
  · split
    · rename_i tiny
      change (0 : Int) < -(2048 + (n.log2 : Int)) at tiny
      omega
    · rw [if_pos (Int.le_refl 0), mul_finite, Int.toNat_zero, Nat.pow_zero, Nat.mul_one,
        Int.add_zero]
      have bits : (n * 2 ^ 53).log2 = n.log2 + 53 :=
        log2_mul_two_pow (Nat.log2_self_le positive) Nat.lt_log2_self
      have long := (Nat.le_log2 positive).mpr hlong
      have same : ((n <<< 53 : Nat) : ℚ) * 2 ^ (-53 : Int) = n := by
        rw [Nat.shiftLeft_eq]
        push_cast
        norm_num [mul_assoc]
      have rounded : Close (Sign.positive.apply 1 * n)
          (roundWithAccuracy .binary64 .positive (n <<< 53) (-53) .exact) := by
        apply roundWithAccuracy_close
        · rw [Nat.shiftLeft_eq]
          unfold totalExponent
          omega
        · rw [same]
        · rw [add_mul, same, one_mul]
          linarith [show (0 : ℚ) ≤ 2 ^ (-53 : Int) by positivity]
        · exact hn
      rw [show Sign.positive.apply 1 = 1 from rfl, Int.cast_one, one_mul] at rounded
      exact rounded

theorem ofNat_near {n : Nat} (hn : 2 * (n : ℚ) ≤ ceiling) :
    (Float.ofNat n).isFinite = true ∧ |value (Float.ofNat n) - n| ≤ (n + 1) / 2 ^ 50 := by
  have nonneg : (0 : ℚ) ≤ n := n.cast_nonneg
  change (Float.ofScientific n false 0).isFinite = true ∧
    |value (Float.ofScientific n false 0) - n| ≤ (n + 1) / 2 ^ 50
  unfold Float.ofScientific
  split
  · rename_i hshort
    have same : n.toUInt64.toNat = n := Nat.mod_eq_of_lt (Nat.lt_trans hshort.1 (by decide))
    obtain ⟨finite, near⟩ := toFloat_near n.toUInt64 (by rw [same]; linarith)
    have one : value Float.exactlyRepresentablePowersOfTen[0] = 1 := by
      rw [value, unpack_power_zero, value_finite]
      norm_num [Sign.apply]
    rw [same, abs_of_nonneg nonneg] at near
    -- The product with one is rounded once more.
    have scaled :=
      Near.mul finite (y := Float.exactlyRepresentablePowersOfTen[0]) (by decide +kernel)
    rw [one, mul_one] at scaled
    generalize value n.toUInt64.toFloat = v at near scaled
    have small : (n : ℚ) ≤ 2 ^ 53 := by exact_mod_cast hshort.1.le
    have size : |v| ≤ n + (n + 1) / 2 ^ 52 := by
      have := abs_sub_abs_le_abs_sub v n
      rw [abs_of_nonneg nonneg] at this
      linarith
    obtain ⟨finite', near'⟩ := scaled (by linarith [le_ceiling])
    refine ⟨finite', (abs_sub_le _ v _).trans ?_⟩
    calc _ ≤ (|v| + 1) / 2 ^ 52 + (n + 1) / 2 ^ 52 := add_le_add near' near
      _ ≤ (n + 1) / 2 ^ 50 := by linarith
  · rename_i hlong
    have rounded := ofScientific_close (n := n) (by linarith) (by omega)
    obtain ⟨finite, near⟩ := rounded.near (x := ⟨Float.Model.ofScientific n 0⟩) rfl
    refine ⟨finite, near.trans ?_⟩
    rw [abs_of_nonneg nonneg]
    linarith

/-- Every integer up to a very large one has a double near it. -/
theorem ofInt_near {n : Int} (hn : 2 * |(n : ℚ)| ≤ ceiling) :
    ∃ x, Double.ofInt n = .ok x ∧ x.isFinite = true ∧ |value x - n| ≤ (|(n : ℚ)| + 1) / 2 ^ 50 := by
  have near : (Float.ofInt n).isFinite = true ∧
      |value (Float.ofInt n) - n| ≤ (|(n : ℚ)| + 1) / 2 ^ 50 := by
    cases n with
    | ofNat n =>
        simp only [Int.ofNat_eq_natCast, Int.cast_natCast, Nat.abs_cast] at hn ⊢
        exact ofNat_near hn
    | negSucc n =>
        have same : |((Int.negSucc n : Int) : ℚ)| = (n + 1 : Nat) := by
          rw [Int.cast_negSucc, abs_neg, Nat.abs_cast]
        rw [same] at hn ⊢
        obtain ⟨finite, near⟩ := ofNat_near hn
        obtain ⟨finite', negated⟩ := value_neg_of_isFinite finite
        refine ⟨finite', ?_⟩
        rw [show value (Float.ofInt (Int.negSucc n)) = -value (Float.ofNat (n + 1)) from negated,
          Int.cast_negSucc, neg_sub_neg, abs_sub_comm]
        exact near
  refine ⟨Float.ofInt n, ?_, near⟩
  simp only [Double.ofInt, near.1, if_true]

theorem half_finite : (0.5 : Float).isFinite = true ∧ value 0.5 = 1 / 2 := by
  refine ⟨by decide +kernel, ?_⟩
  rw [value, unpack_half, value_finite]
  norm_num [Sign.apply]

/-! ## Magnitudes -/

/-- A finite double of some magnitude at most. -/
def Within (bound : ℚ) (x : Float) : Prop :=
  x.isFinite = true ∧ |value x| ≤ bound

theorem canonical_abs (h : Canonical u) : Canonical u.abs := by
  cases u <;> exact h

theorem value_abs (u : UnpackedFloat) : (exact u.abs).value = |(exact u).value| := by
  cases u with
  | finite s m e hm =>
      change (exact (.finite .positive m e hm)).value = _
      rw [value_finite, value_finite, abs_apply_one_mul, abs_of_nonneg (by positivity)]
      norm_num [Sign.apply]
  | zero | infinity | notANumber => simp [UnpackedFloat.abs, exact, Binary.value]

namespace Within

variable {a b : ℚ}

theorem abs (h : Within a x) : Within a x.abs := by
  have canonical := canonical_abs (canonical_of_isFinite h.1)
  have packed : x.abs.toModel.unpack = x.toModel.unpack.abs := canonical.unpack_pack
  refine ⟨?_, ?_⟩
  · change x.abs.toModel.unpack.isFinite = true
    rw [packed]
    exact canonical.isFinite
  · rw [value, packed, value_abs, abs_abs]
    exact h.2

theorem mono (h : Within a x) (hle : a ≤ b) : Within b x :=
  ⟨h.1, h.2.trans hle⟩

theorem of_near (h : Near z x) (hz : |z| ≤ a) : Within (2 * a + 1) x := by
  refine ⟨h.finite, ?_⟩
  have := abs_sub_abs_le_abs_sub (value x) z
  linarith [h.close, abs_nonneg z]

theorem add (hx : Within a x) (hy : Within b y) (h : a + b ≤ ceiling) :
    Within (2 * (a + b) + 1) (x + y) := by
  have sum := (abs_add_le (value x) (value y)).trans (add_le_add hx.2 hy.2)
  exact of_near (Near.add hx.1 hy.1 (sum.trans h)) sum

theorem sub (hx : Within a x) (hy : Within b y) (h : a + b ≤ ceiling) :
    Within (2 * (a + b) + 1) (x - y) := by
  have difference := (abs_sub (value x) (value y)).trans (add_le_add hx.2 hy.2)
  exact of_near (Near.sub hx.1 hy.1 (difference.trans h)) difference

theorem mul (hx : Within a x) (hy : Within b y) (h : a * b ≤ ceiling) :
    Within (2 * (a * b) + 1) (x * y) := by
  have product : |value x * value y| ≤ a * b := by
    rw [abs_mul]
    exact mul_le_mul hx.2 hy.2 (abs_nonneg _) ((abs_nonneg _).trans hx.2)
  exact of_near (Near.mul hx.1 hy.1 (product.trans h)) product

theorem ofInt {n : Int} (hn : |(n : ℚ)| ≤ a) (h : 2 * a ≤ ceiling) :
    ∃ x, Double.ofInt n = .ok x ∧ Within (2 * a + 1) x := by
  obtain ⟨x, hx, finite, near⟩ := ofInt_near (n := n) (by linarith)
  refine ⟨x, hx, finite, ?_⟩
  have := abs_sub_abs_le_abs_sub (value x) n
  linarith [abs_nonneg (n : ℚ)]

end Within

end Double

end TurtleGraphics
