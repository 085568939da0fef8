import TurtleGraphics.Proofs.Number.Nearest
import TurtleGraphics.Proofs.Number.Sign

/-! # Doubles from powers of ten

An integer times a power of ten is converted to the double that it is rounded to. Where both are
exact doubles they are multiplied or divided as doubles, and else with all their digits.
-/

namespace TurtleGraphics

open Float.Model Float.Model.UnpackedFloat

namespace Double

variable {x y : Float} {m : Nat} {e : Int} {hm : 0 < m}

theorem eq_of_unpack_eq (hx : x.isFinite = true) (h : x.toModel.unpack = y.toModel.unpack) :
    x = y := by
  have hy : y.isFinite = true := by
    change y.toModel.unpack.isFinite = true
    rwa [← h]
  have fieldx := exponent_of_isFinite hx
  have fieldy := exponent_of_isFinite hy
  have spelledx : exact x.toModel.unpack = _ ∧ sign x.toModel.unpack = _ := (unpack_eq fieldx).2
  have spelledy : exact y.toModel.unpack = _ ∧ sign y.toModel.unpack = _ := (unpack_eq fieldy).2
  have same : x.toBits.toNat = y.toBits.toNat := by
    have smallx := x.toBits.toNat_lt
    have smally := y.toBits.toNat_lt
    have exacts := spelledx.1.symm.trans ((congrArg exact h).trans spelledy.1)
    have signs := spelledx.2.symm.trans ((congrArg sign h).trans spelledy.2)
    simp only [UInt64.toNat_toBitVec] at exacts signs
    generalize x.toBits.toNat = a at *
    generalize y.toBits.toNat = b at *
    split_ifs at exacts signs <;> simp only [Binary.mk.injEq] at exacts <;> omega
  obtain ⟨⟨bits, valid⟩⟩ := x
  obtain ⟨⟨bits', valid'⟩⟩ := y
  obtain rfl : bits = bits' := UInt64.toNat_inj.mp same
  rfl

theorem neg_neg_of_isFinite (hx : x.isFinite = true) : -(-x) = x :=
  (eq_of_unpack_eq hx (by rw [unpack_neg, unpack_neg, neg_neg_unpacked])).symm

theorem eq_of_toModel (hx : x.toModel.unpack = .finite .positive m e hm) {u : Float.Model}
    (hu : u = Float.Model.pack (.finite .positive m e hm)) : Float.ofModel u = x := by
  have finite : x.isFinite = true := by
    change x.toModel.unpack.isFinite = true
    rw [hx]
    rfl
  have canonical := canonical_of_isFinite finite
  refine (eq_of_unpack_eq finite ?_).symm
  change x.toModel.unpack = u.unpack
  rw [hu, ← hx, canonical.unpack_pack]

/-! ## Exact doubles -/

theorem zpow_eq_div {b : ℚ} (hb : b ≠ 0) (k : Int) : b ^ k = b ^ k.toNat / b ^ (-k).toNat := by
  rw [← zpow_natCast, ← zpow_natCast, ← zpow_sub₀ hb]
  congr 1
  omega

/-- A positive double with this value. -/
def Spells (x : Float) (z : ℚ) : Prop :=
  ∃ m e hm, x.toModel.unpack = .finite .positive m e hm ∧ Canonical (.finite .positive m e hm) ∧
    (m : ℚ) * 2 ^ e = z

theorem spells_toFloat {n : UInt64} (hpos : 0 < n.toNat) (hn : n.toNat < 2 ^ 53) :
    Spells n.toFloat n.toNat := by
  obtain ⟨k, hk⟩ : ∃ k, k = 52 - n.toNat.log2 := ⟨_, rfl⟩
  have log : n.toNat.log2 < 53 := log2_lt_of_lt hn (by decide)
  have bits : (n.toNat * 2 ^ k).log2 = 52 := by
    rw [log2_mul_two_pow (Nat.log2_self_le (by omega)) Nat.lt_log2_self]
    omega
  have positive : 0 < n.toNat * 2 ^ k := by positivity
  obtain ⟨low, high⟩ := (Nat.log2_eq_iff (by omega)).mp bits
  have canonical : Canonical (.finite .positive (n.toNat * 2 ^ k) (-k) positive) :=
    ⟨high, by omega, by omega, .inl low⟩
  have value : ((n.toNat * 2 ^ k : Nat) : ℚ) * 2 ^ (-(k : Int)) = n.toNat := by
    rw [zpow_neg, zpow_natCast]
    push_cast
    field_simp
  have rounded : UnpackedFloat.normalize .binary64 n.toNat 0 .positive =
      .finite .positive (n.toNat * 2 ^ k) (-k) positive := by
    rw [normalize_natCast hpos]
    refine round_of_roundsTo hpos ?_ canonical
    rw [zpow_zero, mul_one, ← value]
    exact .self _ _
  refine ⟨_, _, positive, ?_, canonical, value⟩
  change (Float.Model.pack (UnpackedFloat.normalize .binary64 n.toNat 0 .positive)).unpack = _
  rw [rounded, canonical.unpack_pack]

theorem powersOfTen_exact : ∀ k : Fin 23,
    (Float.exactlyRepresentablePowersOfTen[k]).isFinite = true ∧
      let b := exact (Float.exactlyRepresentablePowersOfTen[k]).toModel.unpack
      b.significand * 2 ^ b.exponent.toNat = 10 ^ k.val * 2 ^ (-b.exponent).toNat := by
  decide +kernel

theorem spells_powerOfTen {k : Nat} (hk : k < Float.exactlyRepresentablePowersOfTen.size) :
    Spells Float.exactlyRepresentablePowersOfTen[k] (10 ^ k) := by
  obtain ⟨finite, scaled⟩ := powersOfTen_exact ⟨k, hk⟩
  dsimp only [Fin.getElem_fin] at finite scaled
  have canonical := canonical_of_isFinite finite
  generalize Float.exactlyRepresentablePowersOfTen[k] = x at *
  unfold Spells
  generalize x.toModel.unpack = u at *
  have power : 0 < (10 : Int) ^ k := by positivity
  cases u with
  | infinity | notANumber => cases canonical
  | zero s =>
      have : (0 : Int) < 10 ^ k * 2 ^ 1074 := by positivity
      simp only [exact, zero_mul] at scaled
      exact absurd scaled this.ne
  | finite s m e hm =>
      cases s with
      | negative =>
          have : (0 : Int) < 10 ^ k * 2 ^ (-e).toNat := by positivity
          have : (0 : Int) < m * 2 ^ e.toNat := by positivity
          simp only [exact, Sign.apply] at scaled
          linarith
      | positive =>
          refine ⟨m, e, hm, rfl, canonical, ?_⟩
          simp only [exact, Sign.apply] at scaled
          have same : (m : ℚ) * 2 ^ e.toNat = 10 ^ k * 2 ^ (-e).toNat := by exact_mod_cast scaled
          rw [zpow_eq_div two_ne_zero]
          field_simp
          linarith

theorem Spells.mul {a b : ℚ} (ha : Spells x a) (hb : Spells y b) {w : Float}
    (hw : w.toModel.unpack = .finite .positive m e hm) (h : RoundsTo m e (a * b)) : x * y = w := by
  obtain ⟨m₁, e₁, h₁, hx, ⟨-, -, -, bits₁⟩, rfl⟩ := ha
  obtain ⟨m₂, e₂, h₂, hy, ⟨-, -, -, bits₂⟩, rfl⟩ := hb
  have canonical := canonical_of_isFinite (x := w) (by rw [hw]; rfl)
  rw [hw] at canonical
  refine eq_of_toModel hw (congrArg Float.Model.pack ?_)
  rw [hx, hy]
  exact mul_of_roundsTo h₁ h₂ (exponent_mul_le h₁ h₂ bits₁ bits₂) h canonical

theorem Spells.div {a b : ℚ} (ha : Spells x a) (hb : Spells y b) {w : Float}
    (hw : w.toModel.unpack = .finite .positive m e hm) (h : RoundsTo m e (a / b)) : x / y = w := by
  obtain ⟨m₁, e₁, h₁, hx, -, rfl⟩ := ha
  obtain ⟨m₂, e₂, h₂, hy, -, rfl⟩ := hb
  have canonical := canonical_of_isFinite (x := w) (by rw [hw]; rfl)
  rw [hw] at canonical
  refine eq_of_toModel hw (congrArg Float.Model.pack ?_)
  rw [hx, hy]
  exact div_of_roundsTo h₁ h₂ h canonical

/-! ## Powers of ten -/

theorem ofScientific_up {n k : Nat} (hn : 0 < n) (hk : k ≤ 2048) (h : RoundsTo m e (n * 10 ^ k))
    (hcanonical : Canonical (.finite .positive m e hm)) :
    UnpackedFloat.ofScientific .binary64 n k = .finite .positive m e hm := by
  unfold UnpackedFloat.ofScientific
  rw [dif_neg hn.ne', if_neg (by change ¬ (k : Int) > 2048; omega),
    if_neg (by change ¬ (k : Int) < -(2048 + (n.log2 : Int)); omega), if_pos (Int.natCast_nonneg k)]
  have same : ((n <<< 53 : Nat) : ℚ) * 2 ^ (-53 : Int) *
      ((10 ^ (k : Int).toNat : Nat) * 2 ^ (0 : Int)) = n * 10 ^ k := by
    rw [Nat.shiftLeft_eq, Int.toNat_natCast]
    push_cast
    norm_num [mul_assoc]
  rw [← same] at h
  refine mul_of_roundsTo _ _ ?_ h hcanonical
  have power : 0 < 10 ^ (k : Int).toNat := Nat.pow_pos (by decide)
  have bits : 53 ≤ (n <<< 53 * 10 ^ (k : Int).toNat).log2 := by
    rw [Nat.shiftLeft_eq]
    refine (Nat.le_log2 (by positivity)).mpr ?_
    calc 2 ^ 53 ≤ n * 2 ^ 53 := Nat.le_mul_of_pos_left _ hn
      _ ≤ n * 2 ^ 53 * 10 ^ (k : Int).toNat := Nat.le_mul_of_pos_right _ power
  change -53 + 0 ≤ max (totalExponent (n <<< 53 * 10 ^ (k : Int).toNat) (-53 + 0) - 53) (-1074)
  unfold totalExponent
  omega

theorem ofScientific_down {n k : Nat} (hn : 0 < n) (hk : k ≤ 2048) (hpos : 0 < k)
    (h : RoundsTo m e (n / 10 ^ k)) (hcanonical : Canonical (.finite .positive m e hm)) :
    UnpackedFloat.ofScientific .binary64 n (-k) = .finite .positive m e hm := by
  unfold UnpackedFloat.ofScientific
  rw [dif_neg hn.ne', if_neg (by change ¬ -(k : Int) > 2048; omega),
    if_neg (by change ¬ -(k : Int) < -(2048 + (n.log2 : Int)); omega), if_neg (by omega)]
  refine div_of_roundsTo _ _ ?_ hcanonical
  simpa using h

/-- An integer times a power of ten is converted to the double that it is rounded to. -/
theorem ofScientific_of_roundsTo (hx : x.toModel.unpack = .finite .positive m e hm) {n k : Nat}
    {down : Bool}
    (hk : k ≤ 2048) (h : RoundsTo m e (if down then (n : ℚ) / 10 ^ k else n * 10 ^ k)) :
    Float.ofScientific n down k = x := by
  have canonical := canonical_of_isFinite (x := x) (by rw [hx]; rfl)
  rw [hx] at canonical
  have positive : 0 < n := by
    by_contra none
    have := h.pos hm
    simp [show n = 0 by omega] at this
  unfold Float.ofScientific
  split
  · rename_i hshort
    have same : n.toUInt64.toNat = n := Nat.mod_eq_of_lt (Nat.lt_trans hshort.1 (by decide))
    have number : Spells n.toUInt64.toFloat n := by
      have := spells_toFloat (n := n.toUInt64) (by omega) (by omega)
      rwa [same] at this
    have power := spells_powerOfTen (k := k) (by change k < 23; omega)
    cases down with
    | true => exact number.div power hx h
    | false => exact number.mul power hx h
  · refine eq_of_toModel hx (congrArg Float.Model.pack ?_)
    cases down with
    | false => exact ofScientific_up positive hk h canonical
    | true =>
        change UnpackedFloat.ofScientific .binary64 n (Int.negOfNat k) = _
        cases k with
        | zero =>
            rw [if_pos rfl, pow_zero, div_one] at h
            refine ofScientific_up positive (Nat.zero_le _) ?_ canonical
            rwa [pow_zero, mul_one]
        | succ k => exact ofScientific_down positive hk (Nat.succ_pos k) h canonical

end Double

end TurtleGraphics
