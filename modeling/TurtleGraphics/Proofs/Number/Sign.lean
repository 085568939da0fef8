import TurtleGraphics.Proofs.Number.Error

/-! # Doubles of opposite sign

The sign of a double is kept apart from everything else. Multiplying and rounding treat a number and
its negation alike, whatever the number is: a half between two integers, a number beyond all
doubles, or a zero, of which there are two.
-/

namespace TurtleGraphics

open Float.Model Float.Model.UnpackedFloat

namespace Double

variable {x y : Float}

theorem unpack_packComponents_neg (s : Sign) (exponent : BitVec 11) (mantissa : BitVec 52) :
    UnpackedFloat.unpack .binary64 (packComponents .binary64 (-s) exponent mantissa) =
      (UnpackedFloat.unpack .binary64 (packComponents .binary64 s exponent mantissa)).neg := by
  unfold UnpackedFloat.unpack
  simp only [unpackExponent_packComponents, unpackMantissa_packComponents,
    unpackSign_packComponents, ofBitVec_toBitVec]
  split_ifs <;> rfl

/-- What a number loses as it is packed has nothing to do with its sign. -/
theorem unpack_pack_neg (u : UnpackedFloat) :
    (Float.Model.pack u.neg).unpack = (Float.Model.pack u).unpack.neg := by
  change UnpackedFloat.unpack .binary64 (UnpackedFloat.pack .binary64 u.neg) =
    (UnpackedFloat.unpack .binary64 (UnpackedFloat.pack .binary64 u)).neg
  cases u with
  | notANumber => rfl
  | infinity s | zero s => exact unpack_packComponents_neg s _ _
  | finite s m e hm =>
      rw [UnpackedFloat.neg, pack_finite rfl, pack_finite rfl]
      split_ifs <;> exact unpack_packComponents_neg s _ _

theorem unpack_pack_unpack (x : Float) :
    (Float.Model.pack x.toModel.unpack).unpack = x.toModel.unpack := by
  cases hx : x.toModel.unpack with
  | notANumber => rfl
  | infinity s => cases s <;> rfl
  | zero | finite =>
      rw [← hx]
      exact (canonical_of_isFinite (by rw [hx]; rfl)).unpack_pack

theorem unpack_neg (x : Float) : (-x).toModel.unpack = x.toModel.unpack.neg := by
  have packed : (-x).toModel.unpack = (Float.Model.pack x.toModel.unpack.neg).unpack := rfl
  rw [packed, unpack_pack_neg, unpack_pack_unpack]

theorem neg_neg_unpacked (u : UnpackedFloat) : u.neg.neg = u := by
  have signs (s : Sign) : - -s = s := by cases s <;> rfl
  cases u <;> simp only [UnpackedFloat.neg, signs]

theorem roundWithAccuracy_neg (s : Sign) (m : Nat) (e : Int) (accuracy : Accuracy) :
    roundWithAccuracy .binary64 (-s) m e accuracy =
      (roundWithAccuracy .binary64 s m e accuracy).neg := by
  unfold roundWithAccuracy
  dsimp only
  split_ifs <;> rfl

theorem mul_neg_left (u v : UnpackedFloat) :
    UnpackedFloat.mul .binary64 u.neg v = (UnpackedFloat.mul .binary64 u v).neg := by
  have signs (s s' : Sign) : -s * s' = -(s * s') := by
    cases s <;> cases s' <;> rfl
  cases u with
  | notANumber => cases v <;> rfl
  | infinity s | zero s =>
      cases v with
      | notANumber => rfl
      | infinity s' | zero s' | finite s' => first | rfl | exact congrArg _ (signs s s')
  | finite s m e hm =>
      cases v with
      | notANumber => rfl
      | infinity s' | zero s' => exact congrArg _ (signs s s')
      | finite s' m' e' hm' =>
          rw [UnpackedFloat.neg, mul_finite, mul_finite, signs, roundWithAccuracy_neg]

/-- Nothing but a finite number can be rounded. So signs have to be compared for finite numbers
    only. -/
theorem isFinite_of_floor {n : Int} (h : floor (x.abs + 0.5) = .ok n) : x.isFinite = true := by
  have packed : x.abs = Float.ofModel (Float.Model.pack x.toModel.unpack.abs) := rfl
  rw [packed] at h
  change x.toModel.unpack.isFinite = true
  cases hx : x.toModel.unpack with
  | zero | finite => rfl
  | infinity =>
      rw [hx] at h
      have none : floor (Float.ofModel (Float.Model.pack (.infinity .positive)) + 0.5) =
          .error .infinite := by
        decide +kernel
      cases none.symm.trans h
  | notANumber =>
      rw [hx] at h
      have none : floor (Float.ofModel (Float.Model.pack .notANumber) + 0.5) =
          .error .notANumber := by
        decide +kernel
      cases none.symm.trans h

/-- The one is the other with its sign turned around. Of zeros the signs may be any. -/
def Opposite (x y : Float) : Prop :=
  y.toModel.unpack = x.toModel.unpack.neg ∨ ∃ s s', x.toModel.unpack = .zero s ∧
    y.toModel.unpack = .zero s'

theorem opposite_neg (x : Float) : Opposite x (-x) :=
  .inl (unpack_neg x)

namespace Opposite

theorem symm (h : Opposite x y) : Opposite y x := by
  rcases h with h | ⟨s, s', hx, hy⟩
  · left
    rw [h, neg_neg_unpacked]
  · exact .inr ⟨s', s, hy, hx⟩

theorem isFinite (h : Opposite x y) : y.isFinite = x.isFinite := by
  change y.toModel.unpack.isFinite = x.toModel.unpack.isFinite
  rcases h with h | ⟨s, s', hx, hy⟩
  · rw [h]
    cases x.toModel.unpack <;> rfl
  · rw [hx, hy]
    rfl

theorem mul (h : Opposite x y) (z : Float) : Opposite (x * z) (y * z) := by
  have packed (a : Float) : (a * z).toModel.unpack =
      (Float.Model.pack (UnpackedFloat.mul .binary64 a.toModel.unpack z.toModel.unpack)).unpack :=
        rfl
  unfold Opposite
  rw [packed, packed]
  rcases h with h | ⟨s, s', hx, hy⟩
  · left
    rw [h, mul_neg_left, unpack_pack_neg]
  · rw [hx, hy]
    cases z.toModel.unpack with
    | notANumber | infinity =>
        left
        change (Float.Model.pack .notANumber).unpack = (Float.Model.pack .notANumber).unpack.neg
        rfl
    | zero t | finite t =>
        have zero (s : Sign) : (Float.Model.pack (.zero s)).unpack = .zero s :=
          Canonical.unpack_pack (show Canonical (.zero s) from trivial)
        exact .inr ⟨s * t, s' * t, zero _, zero _⟩

theorem isNegative (h : y.toModel.unpack = x.toModel.unpack.neg) (hx : x.isFinite = true) :
    Double.isNegative y = !Double.isNegative x := by
  have canonical := canonical_of_isFinite hx
  have canonical' : Canonical y.toModel.unpack := by
    rw [h]
    exact canonical_neg canonical
  have turned : sign y.toModel.unpack = -sign x.toModel.unpack := by
    rw [h]
    cases hu : x.toModel.unpack with
    | zero | finite => rfl
    | infinity | notANumber =>
        rw [hu] at canonical
        cases canonical
  rw [Bool.eq_iff_iff, isNegative_iff canonical', turned, Bool.not_eq_true', ← Bool.not_eq_true,
    isNegative_iff canonical]
  cases sign x.toModel.unpack with
  | positive => exact ⟨fun _ => nofun, fun _ => rfl⟩
  | negative => exact ⟨nofun, fun h => absurd rfl h⟩

theorem roundHalfAway (h : Opposite x y) :
    Double.roundHalfAway y = (Double.roundHalfAway x).map fun n => -n := by
  unfold Double.roundHalfAway
  rcases h with h | ⟨s, s', hx, hy⟩
  · have same : y.abs = x.abs := by
      change Float.ofModel (Float.Model.pack y.toModel.unpack.abs) =
        Float.ofModel (Float.Model.pack x.toModel.unpack.abs)
      rw [h]
      cases x.toModel.unpack <;> rfl
    rw [same]
    cases hfloor : floor (x.abs + 0.5) with
    | error fault => rfl
    | ok magnitude =>
        rw [isNegative h (isFinite_of_floor hfloor)]
        cases Double.isNegative x
        · rfl
        · exact congrArg Except.ok (Int.neg_neg magnitude).symm
  · rw [floor_abs_add_half_of_zero hx, floor_abs_add_half_of_zero hy]
    cases Double.isNegative x <;> cases Double.isNegative y <;> rfl

end Opposite

theorem opposite_ofInt (n : Int) : Opposite (Float.ofInt n) (Float.ofInt (-n)) := by
  cases n with
  | ofNat n =>
      cases n with
      | zero =>
          have zero : (Float.ofNat 0).toModel.unpack = .zero .positive := rfl
          exact .inr ⟨_, _, zero, zero⟩
      | succ n => exact opposite_neg (Float.ofNat (n + 1))
  | negSucc n => exact (opposite_neg (Float.ofNat (n + 1))).symm

end Double

end TurtleGraphics
