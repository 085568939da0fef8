import Mathlib
import TurtleGraphics.Number.Double

/-! # The magnitude of doubles

How much the last bit of a double weighs is known roughly through sums and products: each of them
may add a few bits. That is enough to see where no infinity can come up.
-/

namespace TurtleGraphics

open Float.Model Float.Model.UnpackedFloat

namespace Double

/-- A finite number with at most 53 bits, of which the last weighs at most two to the bound. -/
def Light (bound : Int) : UnpackedFloat → Prop
  | .zero _ => True
  | .finite _ mantissa exponent _ => mantissa < 2 ^ 53 ∧ exponent ≤ bound
  | .infinity _ | .notANumber => False

instance (bound : Int) : (x : UnpackedFloat) → Decidable (Light bound x)
  | .zero _ => .isTrue trivial
  | .finite _ mantissa exponent _ =>
      inferInstanceAs (Decidable (mantissa < 2 ^ 53 ∧ exponent ≤ bound))
  | .infinity _ | .notANumber => .isFalse id

theorem Light.mono {bound wider : Int} {x : UnpackedFloat} (h : Light bound x)
    (hwider : bound ≤ wider) :
    Light wider x := by
  cases x with
  | zero => trivial
  | finite s m e hm => exact ⟨h.1, Int.le_trans h.2 hwider⟩
  | infinity | notANumber => exact h

theorem mantissa_shiftRight (m : ExtendedMantissa) (n : Nat) :
    (m >>> n).mantissa = m.mantissa / 2 ^ n := by
  change (n.repeat ExtendedMantissa.shiftRightOne m).mantissa = _
  induction n with
  | zero => simp [Nat.repeat]
  | succ n ih =>
      rw [Nat.repeat, ExtendedMantissa.shiftRightOne]
      dsimp only
      rw [ih, Nat.div_div_eq_div_mul, Nat.pow_succ]

theorem roundedMantissa_le (m : ExtendedMantissa) : m.roundedMantissa ≤ m.mantissa + 1 := by
  obtain ⟨mantissa, roundBit, stickyBit⟩ := m
  cases roundBit <;> cases stickyBit <;>
    simp only [ExtendedMantissa.roundedMantissa, ExtendedMantissa.accuracy,
      Accuracy.roundToNearestEven] <;>
    omega

theorem targetExponent_binary64 (total : Int) :
    Format.binary64.targetExponent total = max (total - 53) (-1074) := rfl

theorem log2_lt_of_lt {m bits : Nat} (h : m < 2 ^ bits) (hbits : 0 < bits) : m.log2 < bits := by
  by_cases hm : m = 0
  · rw [hm]
    exact hbits
  · exact (Nat.log2_lt hm).mpr h

theorem shiftToTargetExponent_le {m : Nat} {e bound : Int} (htotal : totalExponent m e ≤ bound + 53)
    (he : e ≤ bound) (hbound : -1074 ≤ bound) :
    (shiftToTargetExponent .binary64 m e .exact).1.mantissa < 2 ^ 53 ∧
      (shiftToTargetExponent .binary64 m e .exact).2 ≤ bound := by
  simp only [shiftToTargetExponent, shiftToExponent, targetExponent_binary64, mantissa_shiftRight,
    ExtendedMantissa.ofMantissaAndAccuracy]
  generalize hn : (max (totalExponent m e - 53) (-1074) - e).toNat = n
  unfold totalExponent at hn htotal
  constructor
  · rw [Nat.div_lt_iff_lt_mul (Nat.pow_pos Nat.two_pos), ← Nat.pow_add]
    calc m < 2 ^ (m.log2 + 1) := Nat.lt_log2_self
      _ ≤ 2 ^ (53 + n) := Nat.pow_le_pow_right Nat.two_pos (by omega)
  · omega

/-- Rounding up can take one bit more, so 52 bits are all that the bound may leave. -/
theorem roundWithAccuracy_light {m : Nat} {e bound : Int} (s : Sign)
    (htotal : totalExponent m e ≤ bound + 52) (he : e < bound) (hbound : -1074 < bound) :
    Light bound (roundWithAccuracy .binary64 s m e .exact) := by
  have total : totalExponent m e ≤ bound - 1 + 53 := by omega
  obtain ⟨hmantissa, hexponent⟩ := shiftToTargetExponent_le total (by omega) (by omega)
  unfold roundWithAccuracy
  generalize shiftToTargetExponent .binary64 m e .exact = first at hmantissa hexponent
  obtain ⟨em, e₁⟩ := first
  dsimp only at hmantissa hexponent ⊢
  have bits : em.roundedMantissa.log2 < 54 := by
    apply log2_lt_of_lt _ (by decide)
    have := roundedMantissa_le em
    omega
  have total' : totalExponent em.roundedMantissa e₁ ≤ bound + 53 := by
    unfold totalExponent
    omega
  have second := shiftToTargetExponent_le total' (by omega) (by omega)
  split
  · trivial
  · exact second

theorem log2_shiftLeft_le (m n : Nat) : (m <<< n).log2 ≤ m.log2 + n := by
  have shifted : m <<< n < 2 ^ (m.log2 + 1 + n) := by
    rw [Nat.shiftLeft_eq, Nat.pow_add]
    exact Nat.mul_lt_mul_of_pos_right Nat.lt_log2_self (Nat.pow_pos Nat.two_pos)
  have := log2_lt_of_lt shifted (by omega)
  omega

theorem round_light {m : Nat} {e bound : Int} (s : Sign) (htotal : totalExponent m e ≤ bound + 52)
    (hbound : -1074 < bound) : Light bound (UnpackedFloat.round .binary64 s m e) := by
  obtain ⟨n, hn⟩ : ∃ n, n = (e - max (totalExponent m e - 53) (-1074)).toNat := ⟨_, rfl⟩
  have shifted : UnpackedFloat.round .binary64 s m e =
      roundWithAccuracy .binary64 s (m <<< n) (e - n) .exact := by
    rw [hn]
    rfl
  have longer := log2_shiftLeft_le m n
  rw [shifted]
  unfold totalExponent at hn htotal
  apply roundWithAccuracy_light
  · unfold totalExponent
    omega
  · omega
  · exact hbound

theorem normalize_light {n e bound : Int} (s : Sign)
    (htotal : totalExponent n.natAbs e ≤ bound + 52)
    (hbound : -1074 < bound) : Light bound (UnpackedFloat.normalize .binary64 n e s) := by
  unfold UnpackedFloat.normalize
  split
  · rw [show (-n).toNat = n.natAbs by simp_all [Int.compare_eq_lt]; omega]
    exact round_light _ htotal hbound
  · trivial
  · rw [show n.toNat = n.natAbs by simp_all [Int.compare_eq_gt]; omega]
    exact round_light _ htotal hbound

theorem light_unpack {bits : BitVec Format.binary64.numBits} {bound : Int}
    (hfinite : unpackExponent bits ≠ -1#_) (hlow : -1074 ≤ bound)
    (hexponent : ((unpackExponent bits).toNat : Int) ≤ bound + 1075) :
    Light bound (UnpackedFloat.unpack .binary64 bits) := by
  unfold UnpackedFloat.unpack
  dsimp only
  rw [if_neg hfinite]
  split
  · rename_i hzero
    split
    · trivial
    · have fraction : (unpackMantissa bits).toNat < 2 ^ 52 := (unpackMantissa bits).isLt
      refine ⟨by omega, ?_⟩
      rw [hzero]
      exact hlow
  · have := (1#1 ++ unpackMantissa bits).isLt
    refine ⟨this, ?_⟩
    change ((unpackExponent bits).toNat : Int) - 1075 ≤ bound
    omega

theorem exponent_ne_of_lt {n : Nat} (h : n < 2047) : BitVec.ofNat 11 n ≠ -1#11 := by
  intro same
  have := congrArg BitVec.toNat same
  rw [BitVec.toNat_ofNat] at this
  have greatest : (-1#11).toNat = 2047 := by decide
  omega

theorem pack_finite {s : Sign} {m biased : Nat} {e : Int} {hm : 0 < m}
    (h : biased = (e + 1075).toNat) :
    UnpackedFloat.pack .binary64 (.finite s m e hm) =
      if 2 ^ 11 ≤ biased + 1 then packedInfinity .binary64 s
      else if m.log2 + 1 = 53 then packComponents .binary64 s (BitVec.ofNat 11 biased)
        (BitVec.ofNat 52 m)
      else packComponents .binary64 s 0#11 (BitVec.ofNat 52 m) := by
  have bias : biased = (e + 1023 + 52).toNat := by omega
  rw [bias]
  rfl

/-- A number that is light enough is not packed as an infinity. -/
theorem light_pack {bound : Int} {x : UnpackedFloat} (h : Light bound x) (hlow : -1074 ≤ bound)
    (hhigh : bound ≤ 971) : Light bound (Float.Model.pack x).unpack := by
  change Light bound (UnpackedFloat.unpack .binary64 (UnpackedFloat.pack .binary64 x))
  cases x with
  | zero s =>
      rw [UnpackedFloat.pack, packedZero]
      apply light_unpack
      · rw [unpackExponent_packComponents]
        exact exponent_ne_of_lt (by decide)
      · exact hlow
      · rw [unpackExponent_packComponents]
        change (0 : Int) ≤ bound + 1075
        omega
  | finite s m e hm =>
      obtain ⟨hmantissa, he⟩ := h
      obtain ⟨biased, hbiased⟩ : ∃ biased, biased = (e + 1075).toNat := ⟨_, rfl⟩
      have fits : ¬ 2 ^ 11 ≤ biased + 1 := by omega
      rw [pack_finite hbiased, if_neg fits]
      split
      · apply light_unpack
        · rw [unpackExponent_packComponents]
          exact exponent_ne_of_lt (by omega)
        · exact hlow
        · rw [unpackExponent_packComponents]
          change ((BitVec.ofNat 11 biased).toNat : Int) ≤ bound + 1075
          rw [BitVec.toNat_ofNat, Nat.mod_eq_of_lt (by omega)]
          omega
      · apply light_unpack
        · rw [unpackExponent_packComponents]
          exact exponent_ne_of_lt (by decide)
        · exact hlow
        · rw [unpackExponent_packComponents]
          change (0 : Int) ≤ bound + 1075
          omega
  | infinity | notANumber => cases h

theorem mul_finite {s s' : Sign} {m m' : Nat} {e e' : Int} (hm : 0 < m) (hm' : 0 < m') :
    UnpackedFloat.mul .binary64 (.finite s m e hm) (.finite s' m' e' hm') =
      roundWithAccuracy .binary64 (s * s') (m * m') (e + e') .exact := rfl

theorem mul_light {a b : Int} {x y : UnpackedFloat} (hx : Light a x) (hy : Light b y)
    (hlow : -1127 ≤ a + b) : Light (a + b + 54) (UnpackedFloat.mul .binary64 x y) := by
  cases x with
  | infinity | notANumber => cases hx
  | zero s =>
      cases y with
      | infinity | notANumber => cases hy
      | zero | finite => trivial
  | finite s m e hm =>
      cases y with
      | infinity | notANumber => cases hy
      | zero => trivial
      | finite s' m' e' hm' =>
          obtain ⟨hmantissa, he⟩ := hx
          obtain ⟨hmantissa', he'⟩ := hy
          have product : m * m' < 2 ^ 106 := by
            calc m * m' < 2 ^ 53 * 2 ^ 53 := Nat.mul_lt_mul'' hmantissa hmantissa'
              _ = 2 ^ 106 := by decide
          have bits := log2_lt_of_lt product (by decide)
          rw [mul_finite]
          apply roundWithAccuracy_light
          · unfold totalExponent
            omega
          · omega
          · omega

theorem shiftLeft_lt {m n bits : Nat} (h : m < 2 ^ bits) : m <<< n < 2 ^ (bits + n) := by
  rw [Nat.shiftLeft_eq, Nat.pow_add]
  exact Nat.mul_lt_mul_of_pos_right h (Nat.pow_pos Nat.two_pos)

theorem natAbs_apply (s : Sign) (n : Nat) : (s.apply n).natAbs = n := by
  cases s <;> simp [Sign.apply]

theorem add_finite {s s' : Sign} {m m' n n' : Nat} {e e' low : Int} (hm : 0 < m) (hm' : 0 < m')
    (hlow : low = min e e') (hn : n = (e - low).toNat) (hn' : n' = (e' - low).toNat) :
    UnpackedFloat.add .binary64 (.finite s m e hm) (.finite s' m' e' hm') =
      UnpackedFloat.normalize .binary64 (s.apply (m <<< n : Nat) + s'.apply (m' <<< n' : Nat)) low
        .positive := by
  rw [hn, hn', hlow]
  rfl

theorem add_light {a : Int} {x y : UnpackedFloat} (hx : Light a x) (hy : Light a y)
    (hlow : -1075 ≤ a) : Light (a + 2) (UnpackedFloat.add .binary64 x y) := by
  cases x with
  | infinity | notANumber => cases hx
  | zero s =>
      cases y with
      | infinity | notANumber => cases hy
      | zero s' => cases s <;> cases s' <;> trivial
      | finite => exact hy.mono (by omega)
  | finite s m e hm =>
      cases y with
      | infinity | notANumber => cases hy
      | zero => exact hx.mono (by omega)
      | finite s' m' e' hm' =>
          obtain ⟨hmantissa, he⟩ := hx
          obtain ⟨hmantissa', he'⟩ := hy
          obtain ⟨n, hn⟩ : ∃ n, n = (e - min e e').toNat := ⟨_, rfl⟩
          obtain ⟨n', hn'⟩ : ∃ n, n = (e' - min e e').toNat := ⟨_, rfl⟩
          have wide : m <<< n < 2 ^ (53 + max n n') :=
            Nat.lt_of_lt_of_le (shiftLeft_lt hmantissa)
              (Nat.pow_le_pow_right Nat.two_pos (by omega))
          have wide' : m' <<< n' < 2 ^ (53 + max n n') :=
            Nat.lt_of_lt_of_le (shiftLeft_lt hmantissa')
              (Nat.pow_le_pow_right Nat.two_pos (by omega))
          have sum : (s.apply (m <<< n : Nat) + s'.apply (m' <<< n' : Nat)).natAbs <
              2 ^ (53 + max n n' + 1) := by
            calc (s.apply (m <<< n : Nat) + s'.apply (m' <<< n' : Nat)).natAbs
                ≤ (s.apply (m <<< n : Nat)).natAbs + (s'.apply (m' <<< n' : Nat)).natAbs :=
                  Int.natAbs_add_le _ _
              _ = m <<< n + m' <<< n' := by rw [natAbs_apply, natAbs_apply]
              _ < 2 ^ (53 + max n n') + 2 ^ (53 + max n n') := Nat.add_lt_add wide wide'
              _ = 2 ^ (53 + max n n' + 1) := by rw [Nat.pow_succ, Nat.mul_two]
          have bits := log2_lt_of_lt sum (by omega)
          rw [add_finite hm hm' rfl hn hn']
          apply normalize_light
          · unfold totalExponent
            omega
          · omega

theorem abs_light {a : Int} {x : UnpackedFloat} (hx : Light a x) : Light a x.abs := by
  cases x <;> exact hx

theorem neg_light {a : Int} {x : UnpackedFloat} (hx : Light a x) : Light a x.neg := by
  cases x <;> exact hx

/-- A double that is finite and whose last bit weighs at most two to the bound. -/
def IsLight (bound : Int) (x : Float) : Prop :=
  Light bound x.toModel.unpack

theorem IsLight.isFinite {bound : Int} {x : Float} (h : IsLight bound x) : x.isFinite = true := by
  unfold IsLight at h
  change x.toModel.unpack.isFinite = true
  cases hx : x.toModel.unpack with
  | zero | finite => rfl
  | infinity | notANumber =>
      rw [hx] at h
      cases h

theorem IsLight.mul {a b : Int} {x y : Float} (hx : IsLight a x) (hy : IsLight b y)
    (hlow : -1127 ≤ a + b) (hhigh : a + b ≤ 917) : IsLight (a + b + 54) (x * y) :=
  light_pack (mul_light hx hy hlow) (by omega) (by omega)

theorem IsLight.add {a : Int} {x y : Float} (hx : IsLight a x) (hy : IsLight a y) (hlow : -1075 ≤ a)
    (hhigh : a ≤ 969) : IsLight (a + 2) (x + y) :=
  light_pack (add_light hx hy hlow) (by omega) (by omega)

theorem IsLight.abs {a : Int} {x : Float} (hx : IsLight a x) (hlow : -1074 ≤ a) (hhigh : a ≤ 971) :
    IsLight a x.abs :=
  light_pack (abs_light hx) hlow hhigh

theorem IsLight.neg {a : Int} {x : Float} (hx : IsLight a x) (hlow : -1074 ≤ a) (hhigh : a ≤ 971) :
    IsLight a x.neg :=
  light_pack (neg_light hx) hlow hhigh

theorem isLight_of_isFinite {x : Float} (h : x.toModel.unpack.isFinite = true) : IsLight 971 x := by
  have exponent : @unpackExponent .binary64 x.toModel.toBits.toBitVec ≠ -1#11 := by
    intro greatest
    unfold Float.Model.unpack UnpackedFloat.unpack at h
    dsimp only at h
    rw [if_pos greatest] at h
    split at h <;> cases h
  apply light_unpack exponent (by decide)
  have wide := (@unpackExponent .binary64 x.toModel.toBits.toBitVec).isLt
  have inner : (@unpackExponent .binary64 x.toModel.toBits.toBitVec).toNat ≠ 2047 :=
    fun greatest => exponent (BitVec.eq_of_toNat_eq greatest)
  change _ < 2048 at wide
  omega

theorem compare_of_le {x y : Float} (h : x ≤ y) :
    (x.toModel.unpack.compare y.toModel.unpack).any Ordering.isLE = true :=
  of_decide_eq_true h

theorem unpack_one :
    (1.0 : Float).toModel.unpack = .finite .positive (2 ^ 52) (-52) (by decide) := by
  rfl

theorem unpack_neg_one :
    (-1.0 : Float).toModel.unpack = .finite .negative (2 ^ 52) (-52) (by decide) := by
  rfl

theorem le_of_then_isLE {a b : Int} {o : Ordering} (h : ((compare a b).then o).isLE = true) :
    a ≤ b := by
  cases hab : compare a b with
  | lt => exact Int.le_of_lt (Int.compare_eq_lt.mp hab)
  | eq => exact Int.le_of_eq (Int.compare_eq_eq.mp hab)
  | gt =>
      rw [hab] at h
      cases h

theorem le_of_then_swap_isLE {a b : Int} {o : Ordering}
    (h : ((compare a b).then o).swap.isLE = true) : b ≤ a := by
  cases hab : compare a b with
  | lt =>
      rw [hab] at h
      cases h
  | eq => exact Int.le_of_eq (Int.compare_eq_eq.mp hab).symm
  | gt => exact Int.le_of_lt (Int.compare_eq_gt.mp hab)

theorem isLight_of_le {x : Float} (hlow : -1.0 ≤ x) (hhigh : x ≤ 1.0) : IsLight (-52) x := by
  have above := compare_of_le hhigh
  have below := compare_of_le hlow
  rw [unpack_one] at above
  rw [unpack_neg_one] at below
  unfold IsLight
  cases hx : x.toModel.unpack with
  | zero => trivial
  | notANumber =>
      rw [hx] at above
      cases above
  | infinity s =>
      rw [hx] at above below
      cases s with
      | positive => cases above
      | negative => cases below
  | finite s m e hm =>
      have light : IsLight 971 x := isLight_of_isFinite (by rw [hx]; rfl)
      unfold IsLight at light
      rw [hx] at above below light
      refine ⟨light.1, ?_⟩
      cases s with
      | positive => exact le_of_then_isLE above
      | negative => exact le_of_then_swap_isLE below

theorem isLight_toFloat {n : UInt64} {bits : Nat} (hn : n.toNat < 2 ^ bits) (hlow : 0 < bits)
    (hhigh : bits ≤ 64) : IsLight (bits - 52) n.toFloat := by
  have length := log2_lt_of_lt hn hlow
  have total : totalExponent (n.toNat : Int).natAbs 0 ≤ bits - 52 + 52 := by
    unfold totalExponent
    rw [Int.natAbs_natCast]
    omega
  exact light_pack (normalize_light .positive total (by omega)) (by omega) (by omega)

theorem light_ofScientific {n bits : Nat} (hn : n < 2 ^ bits) (hlow : 66 ≤ bits) (hpos : n ≠ 0) :
    Light (bits - 52) (UnpackedFloat.ofScientific .binary64 n 0) := by
  unfold UnpackedFloat.ofScientific
  rw [dif_neg hpos]
  split
  · rename_i huge
    change (0 : Int) > 2048 at huge
    omega
  · split
    · trivial
    · rw [if_pos (Int.le_refl 0)]
      rw [mul_finite, Int.toNat_zero, Nat.pow_zero, Nat.mul_one, Int.add_zero]
      have longer := log2_shiftLeft_le n Format.binary64.mantissaBits
      have fits := log2_lt_of_lt hn (by omega)
      -- The shifted number is not to be computed.
      generalize n <<< Format.binary64.mantissaBits = shifted at longer
      have implicit : Format.binary64.mantissaBits = 53 := rfl
      rw [implicit] at longer ⊢
      apply roundWithAccuracy_light
      · unfold totalExponent
        omega
      · omega
      · omega

theorem isLight_one : IsLight (-52) Float.exactlyRepresentablePowersOfTen[0] := by
  unfold IsLight
  decide +kernel

theorem isLight_ofNat {n bits : Nat} (hn : n < 2 ^ bits) (hlow : 66 ≤ bits) (hhigh : bits ≤ 1022) :
    IsLight (bits - 52) (Float.ofNat n) := by
  change IsLight _ (Float.ofScientific n false 0)
  unfold Float.ofScientific
  split
  · have whole : IsLight ((64 : Nat) - 52) n.toUInt64.toFloat :=
      isLight_toFloat n.toUInt64.toNat_lt (by decide) (by decide)
    exact (whole.mul isLight_one (by decide) (by decide)).mono (by omega)
  · rename_i hlarge
    exact light_pack (light_ofScientific hn hlow (by omega)) (by omega) (by omega)

theorem isLight_ofInt {n : Int} {bits : Nat} (hn : n.natAbs < 2 ^ bits) (hlow : 66 ≤ bits)
    (hhigh : bits ≤ 1022) : IsLight (bits - 52) (Float.ofInt n) := by
  cases n with
  | ofNat n => exact isLight_ofNat hn hlow hhigh
  | negSucc n => exact (isLight_ofNat hn hlow hhigh).neg (by omega) (by omega)

theorem isLight_ofNat_short {n bits : Nat} (hn : n < 2 ^ bits) (hlow : 0 < bits)
    (hhigh : bits ≤ 53) :
    IsLight (bits - 50) (Float.ofNat n) := by
  have fits : n < 2 ^ 53 := Nat.lt_of_lt_of_le hn (Nat.pow_le_pow_right Nat.two_pos hhigh)
  change IsLight _ (Float.ofScientific n false 0)
  unfold Float.ofScientific
  rw [dif_pos ⟨fits, by decide⟩]
  have same : n.toUInt64.toNat = n := Nat.mod_eq_of_lt (Nat.lt_trans fits (by decide))
  have whole : IsLight (bits - 52) n.toUInt64.toFloat :=
    isLight_toFloat (by rwa [same]) hlow (by omega)
  exact (whole.mul isLight_one (by omega) (by omega)).mono (by omega)

theorem isLight_ofInt_short {n : Int} {bits : Nat} (hn : n.natAbs < 2 ^ bits) (hlow : 0 < bits)
    (hhigh : bits ≤ 53) : IsLight (bits - 50) (Float.ofInt n) := by
  cases n with
  | ofNat n => exact isLight_ofNat_short hn hlow hhigh
  | negSucc n => exact (isLight_ofNat_short hn hlow hhigh).neg (by omega) (by omega)

end Double

end TurtleGraphics
