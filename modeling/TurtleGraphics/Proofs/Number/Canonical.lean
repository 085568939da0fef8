import TurtleGraphics.Proofs.Number.Magnitude

/-! # Doubles as they are kept

A finite double has one spelling as a significand times a power of two. Its bits give this spelling,
and packing the spelling gives back the bits.
-/

namespace TurtleGraphics

open Float.Model Float.Model.UnpackedFloat

namespace Double

/-- A finite number spelled as its bits spell it: the significand has 53 bits, or the exponent is
the least one. -/
def Canonical : UnpackedFloat → Prop
  | .zero _ => True
  | .finite _ m e _ => m < 2 ^ 53 ∧ -1074 ≤ e ∧ e ≤ 971 ∧ (2 ^ 52 ≤ m ∨ e = -1074)
  | .infinity _ | .notANumber => False

def exact : UnpackedFloat → Binary
  | .finite s m e _ => ⟨s.apply m, e⟩
  | .zero _ | .infinity _ | .notANumber => ⟨0, -1074⟩

def sign : UnpackedFloat → Sign
  | .finite s _ _ _ | .zero s | .infinity s => s
  | .notANumber => .positive

/-! ## The fields of a double -/

variable (bits : BitVec 64)

theorem toNat_unpackMantissa : (@unpackMantissa .binary64 bits).toNat = bits.toNat % 2 ^ 52 := by
  rw [unpackMantissa, BitVec.toNat_cast, BitVec.extractLsb_toNat, Nat.shiftRight_eq_div_pow]
  simp

theorem toNat_unpackExponent :
    (@unpackExponent .binary64 bits).toNat = bits.toNat / 2 ^ 52 % 2 ^ 11 := by
  rw [unpackExponent, BitVec.toNat_cast, BitVec.extractLsb_toNat, Nat.shiftRight_eq_div_pow]
  rfl

theorem toNat_unpackSign : (@unpackSign .binary64 bits).toNat = bits.toNat / 2 ^ 63 := by
  rw [unpackSign, BitVec.toNat_cast, BitVec.extractLsb_toNat, Nat.shiftRight_eq_div_pow]
  have := bits.isLt
  change bits.toNat / 2 ^ 63 % 2 ^ 1 = _
  omega

theorem ofBitVec_unpackSign :
    Sign.ofBitVec (@unpackSign .binary64 bits) = if 2 ^ 63 ≤ bits.toNat then .negative
      else .positive := by
  have := bits.isLt
  have field := toNat_unpackSign bits
  unfold Sign.ofBitVec
  split
  · rename_i hzero
    rw [hzero] at field
    change 0 = _ at field
    rw [if_neg (by omega)]
  · rename_i hone
    have : (@unpackSign .binary64 bits).toNat ≠ 0 := fun h => hone (BitVec.eq_of_toNat_eq h)
    rw [if_pos (by omega)]

theorem toNat_one_append (v : BitVec 52) : (1#1 ++ v).toNat = 2 ^ 52 + v.toNat := by
  rw [BitVec.toNat_append, ← Nat.shiftLeft_add_eq_or_of_lt v.isLt, Nat.shiftLeft_eq]
  rfl

variable {bits}

theorem unpack_least (least : @unpackExponent .binary64 bits = 0#11) :
    let s := Sign.ofBitVec (@unpackSign .binary64 bits)
    let u := UnpackedFloat.unpack .binary64 bits
    Canonical u ∧ exact u = ⟨s.apply (@unpackMantissa .binary64 bits).toNat, -1074⟩ ∧
    sign u = s := by
  intro s u
  have fits : (@unpackMantissa .binary64 bits).toNat < 2 ^ 52 :=
    (@unpackMantissa .binary64 bits).isLt
  have inside : @unpackExponent .binary64 bits ≠ -1#11 := by
    rw [least]
    decide
  have low : ((@unpackExponent .binary64 bits).toNat : Int) -
      (Format.binary64.exponentBias + Format.binary64.mantissaBitsWithoutImplicit) + 1 = -1074 := by
    rw [least]
    rfl
  simp only [u]
  unfold UnpackedFloat.unpack
  dsimp only
  rw [if_neg inside, if_pos least]
  by_cases none : @unpackMantissa .binary64 bits = 0#52
  · rw [dif_pos none, none]
    refine ⟨trivial, ?_, rfl⟩
    cases hs : s <;> rfl
  · rw [dif_neg none]
    refine ⟨⟨by omega, ?_, ?_, .inr low⟩, ?_, rfl⟩
    · exact Int.le_of_eq low.symm
    · exact Int.le_trans (Int.le_of_eq low) (by decide)
    · rw [exact, low]

theorem unpack_above (least : @unpackExponent .binary64 bits ≠ 0#11)
    (inside : @unpackExponent .binary64 bits ≠ -1#11) :
    let s := Sign.ofBitVec (@unpackSign .binary64 bits)
    let u := UnpackedFloat.unpack .binary64 bits
    Canonical u ∧ exact u = ⟨s.apply (2 ^ 52 + (@unpackMantissa .binary64 bits).toNat : Nat),
      (@unpackExponent .binary64 bits).toNat - 1075⟩ ∧ sign u = s := by
  intro s u
  have field : (@unpackExponent .binary64 bits).toNat ≠ 0 :=
    fun h => least (BitVec.eq_of_toNat_eq h)
  have finite : (@unpackExponent .binary64 bits).toNat ≠ 2047 :=
    fun h => inside (BitVec.eq_of_toNat_eq h)
  have greatest : (@unpackExponent .binary64 bits).toNat < 2 ^ 11 :=
    (@unpackExponent .binary64 bits).isLt
  have bias : ((@unpackExponent .binary64 bits).toNat : Int) -
      (Format.binary64.exponentBias + Format.binary64.mantissaBitsWithoutImplicit) =
        (@unpackExponent .binary64 bits).toNat - 1075 := rfl
  have whole := toNat_one_append (@unpackMantissa .binary64 bits)
  simp only [u]
  unfold UnpackedFloat.unpack
  dsimp only
  rw [if_neg inside, if_neg least]
  refine ⟨⟨?_, ?_, ?_, .inl ?_⟩, ?_, rfl⟩
  · exact (1#1 ++ @unpackMantissa .binary64 bits).isLt
  · rw [bias]
    omega
  · rw [bias]
    omega
  · rw [whole]
    exact Nat.le_add_right _ _
  · rw [← whole, exact, bias]

theorem unpack_eq (hfinite : bits.toNat / 2 ^ 52 % 2 ^ 11 ≠ 2047) :
    let signed (n : Nat) : Int := if 2 ^ 63 ≤ bits.toNat then -(n : Int) else n
    Canonical (UnpackedFloat.unpack .binary64 bits) ∧
      exact (UnpackedFloat.unpack .binary64 bits) =
        (if bits.toNat / 2 ^ 52 % 2 ^ 11 = 0 then ⟨signed (bits.toNat % 2 ^ 52), -1074⟩
        else ⟨signed (2 ^ 52 + bits.toNat % 2 ^ 52), (bits.toNat / 2 ^ 52 % 2 ^ 11 : Nat) - 1075⟩) ∧
      sign (UnpackedFloat.unpack .binary64 bits) = if 2 ^ 63 ≤ bits.toNat then .negative
        else .positive := by
  intro signed
  have exponent := toNat_unpackExponent bits
  have applied (n : Nat) : (Sign.ofBitVec (@unpackSign .binary64 bits)).apply n = signed n := by
    rw [ofBitVec_unpackSign]
    simp only [signed]
    split <;> rfl
  have inside : @unpackExponent .binary64 bits ≠ -1#11 := by
    intro greatest
    rw [greatest] at exponent
    exact hfinite exponent.symm
  rw [← exponent, ← toNat_unpackMantissa, ← ofBitVec_unpackSign, ← applied, ← applied]
  by_cases least : @unpackExponent .binary64 bits = 0#11
  · have field : (@unpackExponent .binary64 bits).toNat = 0 := by
      rw [least]
      rfl
    rw [if_pos field]
    exact unpack_least least
  · have field : (@unpackExponent .binary64 bits).toNat ≠ 0 :=
      fun h => least (BitVec.eq_of_toNat_eq h)
    rw [if_neg field]
    exact unpack_above least inside

variable {x : Float}

theorem Canonical.isFinite {u : UnpackedFloat} (h : Canonical u) : u.isFinite = true := by
  cases u with
  | zero | finite => rfl
  | infinity | notANumber => cases h

theorem exponent_of_isFinite (h : x.toModel.unpack.isFinite = true) :
    x.toBits.toNat / 2 ^ 52 % 2 ^ 11 ≠ 2047 := by
  have field := toNat_unpackExponent x.toModel.toBits.toBitVec
  intro greatest
  have inside : @unpackExponent .binary64 x.toModel.toBits.toBitVec = -1#11 :=
    BitVec.eq_of_toNat_eq (field.trans greatest)
  unfold Float.Model.unpack UnpackedFloat.unpack at h
  dsimp only at h
  rw [if_pos inside] at h
  split at h <;> cases h

theorem canonical_of_isFinite (h : x.toModel.unpack.isFinite = true) : Canonical x.toModel.unpack :=
  (unpack_eq (exponent_of_isFinite h)).1

/-- The exact value of a double is the one that its bits spell. -/
theorem ofFloat_exact (h : Canonical x.toModel.unpack) :
    Binary.ofFloat x = .ok (exact x.toModel.unpack) := by
  have field := exponent_of_isFinite h.isFinite
  have value : exact x.toModel.unpack = _ := (unpack_eq field).2.1
  rw [value]
  unfold Binary.ofFloat
  simp only [Nat.pow_eq]
  rw [if_neg field]
  exact (apply_ite Except.ok _ _ _).symm

theorem isNegative_iff (h : Canonical x.toModel.unpack) :
    isNegative x = true ↔ sign x.toModel.unpack = .negative := by
  have value : sign x.toModel.unpack = if 2 ^ 63 ≤ x.toBits.toNat then .negative else .positive :=
    (unpack_eq (exponent_of_isFinite h.isFinite)).2.2
  rw [value, isNegative, Nat.pow_eq]
  split <;> simp_all

/-! ## Packing -/

theorem ofBitVec_toBitVec (s : Sign) : Sign.ofBitVec s.toBitVec = s := by
  cases s <;> rfl

theorem toNat_ofNat_of_lt {w n : Nat} (h : n < 2 ^ w) : (BitVec.ofNat w n).toNat = n := by
  rw [BitVec.toNat_ofNat, Nat.mod_eq_of_lt h]

theorem finite_congr {s s' : Sign} {m m' : Nat} {e e' : Int} {hm : 0 < m} {hm' : 0 < m'}
    (hs : s = s')
    (hsame : m = m') (he : e = e') : UnpackedFloat.finite s m e hm = .finite s' m' e' hm' := by
  subst hs hsame he
  rfl

section

variable {s : Sign} {m biased : Nat} {e : Int} {hm : 0 < m}

theorem unpack_pack_whole (hbiased : biased = (e + 1075).toNat) (hbits : m.log2 + 1 = 53)
    (hlow : -1074 ≤ e)
    (hhigh : e ≤ 971) : (Float.Model.pack (.finite s m e hm)).unpack = .finite s m e hm := by
  change UnpackedFloat.unpack .binary64 (UnpackedFloat.pack .binary64 _) = _
  have least : 2 ^ 52 ≤ m := (Nat.le_log2 (by omega)).mp (by omega)
  have greatest : m < 2 ^ 53 := (Nat.log2_lt (by omega)).mp (by omega)
  have exponent : (BitVec.ofNat 11 biased).toNat = biased := toNat_ofNat_of_lt (by omega)
  have inner : BitVec.ofNat 11 biased ≠ -1#11 := exponent_ne_of_lt (by omega)
  have above : BitVec.ofNat 11 biased ≠ 0#11 := by
    intro h
    rw [h] at exponent
    change 0 = biased at exponent
    omega
  have mantissa : (1#1 ++ BitVec.ofNat 52 m).toNat = m := by
    rw [toNat_one_append, BitVec.toNat_ofNat]
    omega
  rw [pack_finite hbiased, if_neg (by omega), if_pos hbits]
  unfold UnpackedFloat.unpack
  simp only [unpackExponent_packComponents, unpackMantissa_packComponents,
    unpackSign_packComponents, if_neg inner, if_neg above, ofBitVec_toBitVec]
  refine finite_congr rfl mantissa ?_
  change ((BitVec.ofNat 11 biased).toNat : Int) - 1075 = e
  omega

theorem unpack_pack_short (hshort : m < 2 ^ 52) :
    (Float.Model.pack (.finite s m (-1074) hm)).unpack = .finite s m (-1074) hm := by
  change UnpackedFloat.unpack .binary64 (UnpackedFloat.pack .binary64 _) = _
  have bits : ¬ m.log2 + 1 = 53 := by
    have := (Nat.log2_lt (by omega : m ≠ 0)).mpr hshort
    omega
  have mantissa : (BitVec.ofNat 52 m).toNat = m := toNat_ofNat_of_lt hshort
  have some : BitVec.ofNat 52 m ≠ 0#52 := by
    intro h
    rw [h] at mantissa
    change 0 = m at mantissa
    omega
  rw [pack_finite rfl, if_neg (by decide), if_neg bits]
  unfold UnpackedFloat.unpack
  simp only [unpackExponent_packComponents, unpackMantissa_packComponents,
    unpackSign_packComponents,
    if_neg (by decide : 0#11 ≠ -1#11), if_true, dif_neg some, ofBitVec_toBitVec]
  exact finite_congr rfl mantissa rfl

end

/-- Packing loses nothing of a number that is spelled as its bits spell it. -/
theorem Canonical.unpack_pack {u : UnpackedFloat} (h : Canonical u) :
    (Float.Model.pack u).unpack = u := by
  cases u with
  | zero s => cases s <;> rfl
  | infinity | notANumber => cases h
  | finite s m e hm =>
      obtain ⟨hmantissa, hlow, hhigh, hbits⟩ := h
      by_cases whole : 2 ^ 52 ≤ m
      · have := (Nat.le_log2 (by omega)).mpr whole
        have := (Nat.log2_lt (by omega)).mpr hmantissa
        exact unpack_pack_whole rfl (by omega) hlow hhigh
      · obtain rfl : e = -1074 := hbits.resolve_left whole
        exact unpack_pack_short (Nat.lt_of_not_le whole)

end Double

end TurtleGraphics
