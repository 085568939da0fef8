import TurtleGraphics.Proofs.Number.Canonical
import TurtleGraphics.Proofs.Number.Whole

/-! # Rounding to the nearest integer

Adding one half in doubles and cutting off is not quite rounding: the sum is itself rounded. For
numbers with a fractional part this shows at one magnitude only, the greatest double below one half.
-/

namespace TurtleGraphics

open Float.Model Float.Model.UnpackedFloat

namespace Binary

theorem floor_natCast (m k : Nat) : floor ⟨m, -(k : Int)⟩ = (m / 2 ^ k : Nat) := by
  rw [floor_scaled]
  push_cast
  rfl

theorem nearestEven_natCast (m n : Nat) :
    nearestEven ⟨m, -(n : Int)⟩ = ((if 2 * (m % 2 ^ n) < 2 ^ n then m / 2 ^ n
      else if 2 ^ n < 2 * (m % 2 ^ n) then m / 2 ^ n + 1 else m / 2 ^ n + m / 2 ^ n % 2 :
        Nat) : Int) := by
  cases n with
  | zero => simp [nearestEven, floor, Nat.mod_one]
  | succ n =>
      have below := floor_natCast m (n + 1)
      have whole := Nat.div_add_mod m (2 ^ (n + 1))
      have unit : Int.pow 2 (-(-((n + 1 : Nat) : Int))).toNat = (2 ^ (n + 1) : Nat) := by
        simp
      unfold nearestEven
      rw [if_neg (by dsimp only; omega)]
      dsimp only
      rw [below, unit]
      generalize m / 2 ^ (n + 1) = q at *
      generalize m % 2 ^ (n + 1) = r at *
      generalize 2 ^ (n + 1) = u at *
      have rest : (m : Int) - q * u = r := by
        rw [← whole]
        push_cast
        ring
      rw [rest]
      split_ifs <;> omega

theorem nearestEven_natCast_between {m n r : Nat} (h : (r : Int) = nearestEven ⟨m, -(n : Int)⟩) :
    2 * m ≤ 2 * (r * 2 ^ n) + 2 ^ n ∧ 2 * (r * 2 ^ n) ≤ 2 * m + 2 ^ n := by
  rw [nearestEven_natCast, Int.natCast_inj] at h
  have whole := Nat.div_add_mod m (2 ^ n)
  have rest := Nat.mod_lt m (Nat.pow_pos Nat.two_pos : 0 < 2 ^ n)
  generalize m / 2 ^ n = q at *
  generalize m % 2 ^ n = below at *
  generalize 2 ^ n = unit at *
  have next : (q + 1) * unit = unit * q + unit := by ring
  have same : q * unit = unit * q := Nat.mul_comm _ _
  rcases Nat.mod_two_eq_zero_or_one q with hq | hq
  all_goals
    rw [hq] at h
    split_ifs at h <;> subst h <;> simp only [next, same] <;> omega

def plusHalf (b : Binary) : Binary :=
  if 0 ≤ b.exponent then ⟨2 * b.floor + 1, -1⟩
  else ⟨b.significand + Int.pow 2 (-b.exponent - 1).toNat, b.exponent⟩

/-- The nearest integer; a number halfway between two goes to the greater one. -/
def nearestUp (b : Binary) : Int :=
  b.plusHalf.floor

/-- The nearest integer; a number halfway between two goes to the one of larger magnitude. -/
def nearestAway (b : Binary) : Int :=
  if 0 ≤ b.significand then b.nearestUp else -nearestUp ⟨-b.significand, b.exponent⟩

theorem nearestUp_scaled (n : Int) (k : Nat) :
    nearestUp ⟨n, -((k + 1 : Nat) : Int)⟩ = (n + 2 ^ k) / 2 ^ (k + 1) := by
  have half : (-(-((k + 1 : Nat) : Int)) - 1).toNat = k := by omega
  rw [nearestUp, plusHalf, if_neg (by dsimp only; omega)]
  dsimp only
  rw [half, floor_scaled, Int.pow_eq]

theorem nearestUp_natCast (m k : Nat) :
    nearestUp ⟨m, -((k + 1 : Nat) : Int)⟩ = ((m + 2 ^ k) / 2 ^ (k + 1) : Nat) := by
  rw [nearestUp_scaled]
  push_cast
  rfl

/-- The greatest double below one half, with either sign. -/
def BelowHalf (b : Binary) : Prop :=
  b.significand.natAbs = 2 ^ 53 - 1 ∧ b.exponent = -54

/-- What is left of the number below it is one half. -/
def Halfway (b : Binary) : Prop :=
  b.exponent < 0 ∧ b.significand % Int.pow 2 (-b.exponent).toNat = Int.pow 2 (-b.exponent - 1).toNat

/-- Adding one half to the magnitude, in doubles, does not settle on the integer that adding one
half exactly settles on. -/
def Contested (b : Binary) : Prop :=
  b.BelowHalf ∨ b.significand < 0 ∧ b.Halfway

instance (b : Binary) : Decidable b.BelowHalf :=
  inferInstanceAs (Decidable (_ ∧ _))

instance (b : Binary) : Decidable b.Halfway :=
  inferInstanceAs (Decidable (_ ∧ _))

instance (b : Binary) : Decidable b.Contested :=
  inferInstanceAs (Decidable (_ ∨ _))

/-- The integer on which adding one half to the magnitude, in doubles, settles. -/
def settled (b : Binary) : Int :=
  if b.BelowHalf then b.significand.sign else b.nearestAway

theorem neg_ediv_eq (n : Int) {half : Int} (hpos : 0 < half) :
    -((-n + half) / (2 * half)) = (n + half) / (2 * half) + if n % (2 * half) = half then -1
      else 0 := by
  have unit : 0 < 2 * half := by omega
  have low := Int.emod_nonneg n (Int.ne_of_gt unit)
  have high := Int.emod_lt_of_pos n unit
  have whole := Int.mul_ediv_add_emod n (2 * half)
  generalize n / (2 * half) = q at *
  generalize n % (2 * half) = rest at *
  have up : (n + half) / (2 * half) = if rest < half then q else q + 1 := by
    rw [Int.ediv_eq_iff_of_pos unit]
    split <;> constructor <;> linarith
  have down : (-n + half) / (2 * half) = if rest ≤ half then -q else -q - 1 := by
    rw [Int.ediv_eq_iff_of_pos unit]
    split <;> constructor <;> linarith
  rw [up, down]
  split_ifs <;> omega

theorem nearestAway_eq {b : Binary} (h : b.exponent < 0) :
    b.nearestAway = b.nearestUp + if b.significand < 0 ∧ b.Halfway then -1 else 0 := by
  obtain ⟨n, e⟩ := b
  obtain ⟨k, rfl⟩ : ∃ k : Nat, e = -((k + 1 : Nat) : Int) :=
    ⟨(-e - 1).toNat, by dsimp only at h; omega⟩
  have half : (-(-((k + 1 : Nat) : Int)) - 1).toNat = k := by omega
  have unit : (-(-((k + 1 : Nat) : Int))).toNat = k + 1 := by omega
  simp only [nearestAway, Halfway, nearestUp_scaled, half, unit, Int.pow_eq, h, true_and, pow_succ']
  by_cases hn : 0 ≤ n
  · rw [if_pos hn, if_neg (by omega), Int.add_zero]
  · rw [if_neg hn, neg_ediv_eq n (by positivity)]
    simp only [(by omega : n < 0), true_and]

theorem nearestUp_of_belowHalf {b : Binary} (h : b.BelowHalf) :
    b.nearestUp = 0 ∧ b.significand.sign ≠ 0 := by
  obtain ⟨n, e⟩ := b
  obtain ⟨hn, rfl⟩ : n.natAbs = 2 ^ 53 - 1 ∧ e = -54 := h
  rcases Int.natAbs_eq n with hpos | hneg
  · rw [hpos, hn]
    decide
  · rw [hneg, hn]
    decide

theorem settled_eq {b : Binary} (h : b.exponent < 0) :
    b.settled = b.nearestUp + if b.BelowHalf then b.significand.sign
      else if b.significand < 0 ∧ b.Halfway then -1 else 0 := by
  rw [settled]
  split
  · rename_i below
    rw [(nearestUp_of_belowHalf below).1, Int.zero_add]
  · exact nearestAway_eq h

theorem natAbs_nearestUp_le {b : Binary} (hsignificand : b.significand.natAbs < 2 ^ 53)
    (h : b.exponent < 0) :
    b.nearestUp.natAbs ≤ 2 ^ 52 := by
  obtain ⟨n, e⟩ := b
  obtain ⟨k, rfl⟩ : ∃ k : Nat, e = -((k + 1 : Nat) : Int) :=
    ⟨(-e - 1).toNat, by dsimp only at h; omega⟩
  have unit : (0 : Int) < 2 ^ k := by positivity
  dsimp only at hsignificand
  rw [nearestUp_scaled, pow_succ']
  generalize (2 : Int) ^ k = half at *
  have low : -2 ^ 52 ≤ (n + half) / (2 * half) := (Int.le_ediv_iff_mul_le (by omega)).mpr (by omega)
  have high : (n + half) / (2 * half) < 2 ^ 52 + 1 :=
    (Int.ediv_lt_iff_lt_mul (by omega)).mpr (by omega)
  omega

/-- The two settle on different integers at the contested numbers and nowhere else. -/
theorem settled_eq_nearestUp_iff {b : Binary} (h : b.exponent < 0) :
    b.settled = b.nearestUp ↔ ¬ b.Contested := by
  rw [settled_eq h, Contested, add_eq_left]
  split
  · rename_i below
    simp [below, (nearestUp_of_belowHalf below).2]
  · rename_i below
    simp [below]

theorem natAbs_settled_sub_le {b : Binary} (h : b.exponent < 0) :
    (b.settled - b.nearestUp).natAbs ≤ 1 := by
  rw [settled_eq h, add_sub_cancel_left]
  split
  · rw [Int.natAbs_sign]
    split <;> decide
  · split <;> decide

end Binary

namespace Double

/-! ## The bits that are shifted out -/

theorem shiftRight_exact (m n : Nat) :
    (ExtendedMantissa.mk m false false) >>> (n + 1) =
      ⟨m / 2 ^ (n + 1), m / 2 ^ n % 2 != 0, m % 2 ^ n != 0⟩ := by
  change (n + 1).repeat ExtendedMantissa.shiftRightOne ⟨m, false, false⟩ = _
  induction n with
  | zero => simp [Nat.repeat, ExtendedMantissa.shiftRightOne, Nat.mod_one]
  | succ n ih =>
      have split : m % 2 ^ (n + 1) = m % 2 ^ n + 2 ^ n * (m / 2 ^ n % 2) := by
        rw [Nat.pow_succ, Nat.mod_mul]
      rw [Nat.repeat, ih, ExtendedMantissa.shiftRightOne]
      simp only [Nat.div_div_eq_div_mul, ← Nat.pow_succ, ExtendedMantissa.mk.injEq, true_and]
      rw [split]
      rcases Nat.mod_two_eq_zero_or_one (m / 2 ^ n) with hbit | hbit <;> simp [hbit]

theorem roundedMantissa_mk (q : Nat) (first more : Bool) :
    (ExtendedMantissa.mk q first more).roundedMantissa =
      if first then if more then q + 1 else q + q % 2 else q := by
  cases first <;> cases more <;> rfl

theorem roundedMantissa_between (m : ExtendedMantissa) :
    m.mantissa ≤ m.roundedMantissa ∧ m.roundedMantissa ≤ m.mantissa + 1 := by
  obtain ⟨mantissa, first, more⟩ := m
  rw [roundedMantissa_mk]
  dsimp only
  split_ifs <;> omega

theorem roundedMantissa_shiftRight (m n : Nat) :
    ((ExtendedMantissa.mk m false false >>> n).roundedMantissa : Int) =
      Binary.nearestEven ⟨m, -(n : Int)⟩ := by
  rw [Binary.nearestEven_natCast]
  cases n with
  | zero =>
      change (m : Int) = _
      simp [Nat.mod_one]
  | succ n =>
      have split : m % 2 ^ (n + 1) = m % 2 ^ n + 2 ^ n * (m / 2 ^ n % 2) := by
        rw [Nat.pow_succ, Nat.mod_mul]
      have small : m % 2 ^ n < 2 ^ n := Nat.mod_lt _ (Nat.pow_pos Nat.two_pos)
      have double : 2 ^ (n + 1) = 2 * 2 ^ n := Nat.pow_succ'
      rw [shiftRight_exact, roundedMantissa_mk, split]
      generalize m / 2 ^ (n + 1) = q
      generalize m % 2 ^ n = rest at *
      rcases Nat.mod_two_eq_zero_or_one (m / 2 ^ n) with hbit | hbit
      · simp only [hbit, bne_self_eq_false, Bool.false_eq_true, if_false]
        rw [if_pos (by omega)]
      · simp only [hbit, bne_iff_ne, ne_eq, one_ne_zero, not_false_eq_true, if_true, ite_not]
        split_ifs <;> omega

theorem shiftToTargetExponent_eq {m n : Nat} {e : Int} (hm : m.log2 = 52 + n) (he : -1074 ≤ e) :
    shiftToTargetExponent .binary64 m e .exact =
      (ExtendedMantissa.mk m false false >>> n, e + n) := by
  have shift : (max (totalExponent m e - 53) (-1074) - e).toNat = n := by
    unfold totalExponent
    omega
  simp only [shiftToTargetExponent, shiftToExponent, targetExponent_binary64, shift,
    ExtendedMantissa.ofMantissaAndAccuracy]

/-- A number of 53 bits or more is rounded to 53 bits. If that takes one bit more, the last one is
    dropped. -/
theorem round_eq {m n : Nat} {e : Int} (s : Sign) (hm : m.log2 = 52 + n) (he : -1074 ≤ e) :
    ∃ r : Nat, (r : Int) = Binary.nearestEven ⟨m, -(n : Int)⟩ ∧ 2 ^ 52 ≤ r ∧ r ≤ 2 ^ 53 ∧
      ((∃ hr, r < 2 ^ 53 ∧ UnpackedFloat.round .binary64 s m e = .finite s r (e + n) hr) ∨
        r = 2 ^ 53 ∧ UnpackedFloat.round .binary64 s m e =
          .finite s (2 ^ 52) (e + n + 1) (by decide)) := by
  have kept : UnpackedFloat.round .binary64 s m e = roundWithAccuracy .binary64 s m e .exact := by
    have none : (e - max (totalExponent m e - 53) (-1074)).toNat = 0 := by
      unfold totalExponent
      omega
    simp only [UnpackedFloat.round, decreaseExponent, targetExponent_binary64, none,
      Nat.shiftLeft_zero, Int.natCast_zero, Int.sub_zero]
  have whole : 2 ^ 52 ≤ m / 2 ^ n ∧ m / 2 ^ n < 2 ^ 53 := by
    obtain ⟨low, high⟩ := (Nat.log2_eq_iff (by rintro rfl; simp at hm; omega)).mp hm
    constructor
    · rwa [Nat.le_div_iff_mul_le (Nat.pow_pos Nat.two_pos), ← Nat.pow_add]
    · rwa [Nat.div_lt_iff_lt_mul (Nat.pow_pos Nat.two_pos), ← Nat.pow_add, show 53 + n =
        52 + n + 1 by omega]
  have near := roundedMantissa_between (ExtendedMantissa.mk m false false >>> n)
  rw [mantissa_shiftRight] at near
  dsimp only at near
  refine ⟨_, roundedMantissa_shiftRight m n, by omega, by omega, ?_⟩
  rw [kept, roundWithAccuracy, shiftToTargetExponent_eq hm he]
  dsimp only
  generalize (ExtendedMantissa.mk m false false >>> n).roundedMantissa = r at near
  by_cases fits : r < 2 ^ 53
  · have bits : r.log2 = 52 + 0 := (Nat.log2_eq_iff (by omega)).mpr ⟨by omega, fits⟩
    rw [shiftToTargetExponent_eq bits (by omega)]
    refine .inl ⟨by omega, fits, ?_⟩
    rw [dif_neg (by rw [mantissa_shiftRight]; dsimp only; omega)]
    refine finite_congr rfl ?_ (Int.add_zero _)
    rw [mantissa_shiftRight, Nat.pow_zero, Nat.div_one]
  · obtain rfl : r = 2 ^ 53 := by omega
    have bits : (2 ^ 53).log2 = 52 + 1 := Nat.log2_two_pow
    rw [shiftToTargetExponent_eq bits (by omega)]
    refine .inr ⟨rfl, ?_⟩
    rw [dif_neg (by rw [mantissa_shiftRight]; decide)]
    refine finite_congr rfl ?_ rfl
    rw [mantissa_shiftRight]
    decide

/-! ## Adding one half -/

theorem normalize_natCast {m : Nat} (hm : 0 < m) (e : Int) (s : Sign) :
    UnpackedFloat.normalize .binary64 m e s = UnpackedFloat.round .binary64 .positive m e := by
  have positive : compare (m : Int) 0 = .gt := Int.compare_eq_gt.mpr (by omega)
  rw [UnpackedFloat.normalize, positive]
  rfl

theorem add_half_eq {m a b : Nat} {e low : Int} {hm : 0 < m} (ha : e = low + a) (hb : -53 = low + b)
    (haligned : a = 0 ∨ b = 0) :
    UnpackedFloat.add .binary64 (.finite .positive m e hm)
      (.finite .positive (2 ^ 52) (-53) (by decide)) =
      UnpackedFloat.round .binary64 .positive (m * 2 ^ a + 2 ^ 52 * 2 ^ b) low := by
  have least : min e (-53) = low := by omega
  have shift : (e - min e (-53)).toNat = a := by omega
  have shift' : (-53 - min e (-53)).toNat = b := by omega
  have sum : UnpackedFloat.add .binary64 (.finite .positive m e hm)
      (.finite .positive (2 ^ 52) (-53) (by decide)) =
      UnpackedFloat.normalize .binary64 ((m <<< (e - min e (-53)).toNat : Nat) +
        ((2 ^ 52) <<< (-53 - min e (-53)).toNat : Nat)) (min e (-53)) .positive := rfl
  rw [sum, shift, shift', least, Nat.shiftLeft_eq, Nat.shiftLeft_eq, ← Int.natCast_add]
  apply normalize_natCast
  have : 0 < 2 ^ 52 * 2 ^ b := by positivity
  omega

theorem log2_mul_two_pow {m bits : Nat} (hlow : 2 ^ bits ≤ m) (hhigh : m < 2 ^ (bits + 1))
    {k : Nat} :
    (m * 2 ^ k).log2 = bits + k := by
  have unit : 0 < 2 ^ k := Nat.pow_pos Nat.two_pos
  have positive : 0 < 2 ^ bits := Nat.pow_pos Nat.two_pos
  refine (Nat.log2_eq_iff (Nat.mul_ne_zero (by omega) (by omega))).mpr ⟨?_, ?_⟩
  · rw [Nat.pow_add]
    exact Nat.mul_le_mul_right _ hlow
  · rw [Nat.add_right_comm, Nat.pow_add]
    exact Nat.mul_lt_mul_of_pos_right hhigh unit

/-- A number of 53 bits that are not all behind the bit of one half. The sum may have one bit more,
but that does not reach the next integer. -/
theorem add_half_of_large {m k : Nat} {e : Int} (hk : k ≤ 52) (he : e = -53 + k) (hlow : 2 ^ 52 ≤ m)
    (hhigh : m < 2 ^ 53) {hm : 0 < m} {u : UnpackedFloat}
    (hu : UnpackedFloat.add .binary64 (.finite .positive m e hm)
      (.finite .positive (2 ^ 52) (-53) (by decide)) =
      u) : Canonical u ∧ (exact u).floor = Binary.nearestUp ⟨m, e⟩ := by
  obtain ⟨w, hw⟩ : ∃ w, w = 2 ^ (52 - k) := ⟨_, rfl⟩
  have unit : w * 2 ^ k = 2 ^ 52 := by rw [hw, ← Nat.pow_add, Nat.sub_add_cancel hk]
  have positive : 0 < 2 ^ k := Nat.pow_pos Nat.two_pos
  have wpos : 0 < w := by
    rw [hw]
    exact Nat.pow_pos Nat.two_pos
  have wide : w ≤ 2 ^ 52 := by
    rw [hw]
    exact Nat.pow_le_pow_right Nat.two_pos (Nat.sub_le 52 k)
  have sum : m * 2 ^ k + 2 ^ 52 * 2 ^ 0 = (m + w) * 2 ^ k := by
    rw [Nat.add_mul, unit, Nat.pow_zero, Nat.mul_one]
  have target : Binary.nearestUp ⟨m, e⟩ = ((m + w) / (2 * w) : Nat) := by
    rw [show e = -((52 - k + 1 : Nat) : Int) by omega, Binary.nearestUp_natCast, ← hw,
      Nat.pow_succ', ← hw]
  rw [add_half_eq he (show (-53 : Int) = -53 + (0 : Nat) by rfl) (.inr rfl), sum] at hu
  rw [target]
  by_cases carry : m + w < 2 ^ 53
  · have bits : ((m + w) * 2 ^ k).log2 = 52 + k := log2_mul_two_pow (by omega) carry
    obtain ⟨r, hr, -, -, rounded⟩ := round_eq .positive bits (show -1074 ≤ (-53 : Int) by decide)
    obtain ⟨low, high⟩ := Binary.nearestEven_natCast_between hr
    have same : r = m + w := by
      have :=
        Nat.le_of_mul_le_mul_right (by linarith : 2 * (m + w) * 2 ^ k ≤ (2 * r + 1) * 2 ^ k)
          positive
      have :=
        Nat.le_of_mul_le_mul_right (by linarith : 2 * r * 2 ^ k ≤ (2 * (m + w) + 1) * 2 ^ k)
          positive
      omega
    subst same
    obtain ⟨hpos, -, hround⟩ | ⟨full, -⟩ := rounded
    · rw [← hu, hround]
      refine ⟨⟨carry, by omega, by omega, .inl (by omega)⟩, ?_⟩
      rw [exact, show (-53 + k : Int) = -((52 - k + 1 : Nat) : Int) by omega]
      exact (Binary.floor_natCast (m + w) (52 - k + 1)).trans (by rw [Nat.pow_succ', hw])
    · omega
  · have bits : ((m + w) * 2 ^ k).log2 = 52 + (k + 1) := by
      rw [show 52 + (k + 1) = 53 + k by omega]
      exact log2_mul_two_pow (by omega) (by omega)
    obtain ⟨r, hr, -, -, rounded⟩ := round_eq .positive bits (show -1074 ≤ (-53 : Int) by decide)
    obtain ⟨low, high⟩ := Binary.nearestEven_natCast_between hr
    rw [Nat.pow_succ'] at low high
    have near : m + w ≤ 2 * r + 1 :=
      Nat.le_of_mul_le_mul_right (by linarith : (m + w) * 2 ^ k ≤ (2 * r + 1) * 2 ^ k) positive
    have near' : 2 * r ≤ m + w + 1 :=
      Nat.le_of_mul_le_mul_right (by linarith : 2 * r * 2 ^ k ≤ (m + w + 1) * 2 ^ k) positive
    obtain ⟨hpos, -, hround⟩ | ⟨full, -⟩ := rounded
    · rw [← hu, hround]
      refine ⟨⟨by omega, by omega, by omega, .inl (by omega)⟩, ?_⟩
      have cut : r / w = 2 ^ k := Nat.div_eq_of_lt_le (by linarith) (by linarith)
      have cut' : (m + w) / (2 * w) = 2 ^ k := Nat.div_eq_of_lt_le (by linarith) (by linarith)
      rw [exact, show (-53 + (k + 1 : Nat) : Int) = -((52 - k : Nat) : Int) by omega, cut',
        ← cut, hw]
      exact Binary.floor_natCast r (52 - k)
    · omega

/-- A number below one half. Its sum stays below one, but the greatest of these numbers has a sum
that is halfway between one and the double before, and goes to one. -/
theorem add_half_of_small {m n : Nat} {e : Int} (hn : 0 < n) (he : e = -53 - n) (hlow : -1074 ≤ e)
    (hhigh : m < 2 ^ 53) {hm : 0 < m} {u : UnpackedFloat}
    (hu : UnpackedFloat.add .binary64 (.finite .positive m e hm)
      (.finite .positive (2 ^ 52) (-53) (by decide)) =
      u) :
    Canonical u ∧ (exact u).floor = if m = 2 ^ 53 - 1 ∧ e = -54 then 1
      else Binary.nearestUp ⟨m, e⟩ := by
  have grows : 2 ^ (52 + n) = 2 ^ 52 * 2 ^ n := Nat.pow_add 2 52 n
  have wide : 2 ^ 1 ≤ 2 ^ n := Nat.pow_le_pow_right Nat.two_pos hn
  have sum : m * 2 ^ 0 + 2 ^ 52 * 2 ^ n = m + 2 ^ (52 + n) := by
    rw [Nat.pow_zero, Nat.mul_one, grows]
  have target : Binary.nearestUp ⟨m, e⟩ = 0 := by
    rw [show e = -((52 + n + 1 : Nat) : Int) by omega, Binary.nearestUp_natCast, Nat.pow_succ',
      Nat.div_eq_of_lt (by omega)]
    rfl
  have bits : (m + 2 ^ (52 + n)).log2 = 52 + n := by
    refine (Nat.log2_eq_iff (by omega)).mpr ⟨Nat.le_add_left _ _, ?_⟩
    rw [Nat.pow_succ']
    omega
  rw [add_half_eq (show e = e + (0 : Nat) by omega) (show -53 = e + (n : Nat) by omega) (.inl rfl),
    sum] at hu
  obtain ⟨r, hr, hr', -, rounded⟩ := round_eq .positive bits hlow
  obtain ⟨low, high⟩ := Binary.nearestEven_natCast_between hr
  have edge : e + n = -53 := by omega
  rw [edge] at rounded
  rw [target]
  obtain ⟨hpos, fits, hround⟩ | ⟨full, hround⟩ := rounded
  · rw [← hu, hround]
    refine ⟨⟨fits, by omega, by omega, .inl hr'⟩, ?_⟩
    have other : ¬ (m = 2 ^ 53 - 1 ∧ e = -54) := by
      rintro ⟨rfl, hedge⟩
      obtain rfl : n = 1 := by omega
      have : r = 2 ^ 53 := Int.natCast_inj.mp (hr.trans (by decide))
      omega
    rw [if_neg other]
    exact (Binary.floor_natCast r 53).trans (by rw [Nat.div_eq_of_lt fits]; rfl)
  · rw [← hu, hround]
    refine ⟨⟨by decide, by decide, by decide, .inl (by decide)⟩, ?_⟩
    have only : m = 2 ^ 53 - 1 ∧ e = -54 := by
      rw [full, grows] at high
      have short : n = 1 := by
        by_contra hlong
        have : 2 ^ 2 ≤ 2 ^ n := Nat.pow_le_pow_right Nat.two_pos (by omega)
        omega
      subst short
      omega
    rw [if_pos only]
    decide

variable {x : Float}

theorem unpack_half :
    (0.5 : Float).toModel.unpack = .finite .positive (2 ^ 52) (-53) (by decide) := by
  rfl

theorem floor_abs_add_half_of_sum {s : Sign} {m : Nat} {e : Int} {hm : 0 < m} {u : UnpackedFloat}
    (hx : x.toModel.unpack = .finite s m e hm)
    (hu : UnpackedFloat.add .binary64 (.finite .positive m e hm)
      (.finite .positive (2 ^ 52) (-53) (by decide)) = u)
    (hcanonical : Canonical u) : floor (x.abs + 0.5) = .ok (exact u).floor := by
  have canonical := canonical_of_isFinite (x := x) (by rw [hx]; rfl)
  rw [hx] at canonical
  have magnitude : x.abs.toModel.unpack = .finite .positive m e hm := by
    have packed : x.abs.toModel.unpack = (Float.Model.pack x.toModel.unpack.abs).unpack := rfl
    rw [packed, hx]
    exact Canonical.unpack_pack (show Canonical (.finite .positive m e hm) from canonical)
  have added : (x.abs + 0.5).toModel.unpack = u := by
    have packed : (x.abs + 0.5).toModel.unpack = (Float.Model.pack
      (UnpackedFloat.add .binary64 x.abs.toModel.unpack (0.5 : Float).toModel.unpack)).unpack := rfl
    rw [packed, magnitude, unpack_half, hu, hcanonical.unpack_pack]
  rw [floor, ofFloat_exact (by rw [added]; exact hcanonical), added]
  rfl

theorem floor_abs_add_half {s : Sign} {m : Nat} {e : Int} {hm : 0 < m}
    (hx : x.toModel.unpack = .finite s m e hm) (he : e < 0) :
    floor (x.abs + 0.5) =
      .ok (if m = 2 ^ 53 - 1 ∧ e = -54 then 1 else Binary.nearestUp ⟨m, e⟩) := by
  have canonical := canonical_of_isFinite (x := x) (by rw [hx]; rfl)
  rw [hx] at canonical
  obtain ⟨hmantissa, hlow, hhigh, hbits⟩ := canonical
  obtain ⟨u, hu⟩ : ∃ u, UnpackedFloat.add .binary64 (.finite .positive m e hm)
      (.finite .positive (2 ^ 52) (-53) (by decide)) = u := ⟨_, rfl⟩
  have value : Canonical u ∧ (exact u).floor =
      if m = 2 ^ 53 - 1 ∧ e = -54 then 1 else Binary.nearestUp ⟨m, e⟩ := by
    by_cases large : -53 ≤ e
    · obtain ⟨k, hk⟩ : ∃ k : Nat, e = -53 + k := ⟨(e + 53).toNat, by omega⟩
      rw [if_neg (by omega)]
      exact add_half_of_large (by omega) hk (by omega) hmantissa hu
    · obtain ⟨n, hn⟩ : ∃ n : Nat, e = -53 - n := ⟨(-53 - e).toNat, by omega⟩
      exact add_half_of_small (by omega) hn hlow hmantissa hu
  rw [floor_abs_add_half_of_sum hx hu value.1, value.2]

theorem floor_abs_add_half_of_zero {s : Sign} (hx : x.toModel.unpack = .zero s) :
    floor (x.abs + 0.5) = .ok 0 := by
  have magnitude : x.abs.toModel.unpack = .zero .positive := by
    have packed : x.abs.toModel.unpack = (Float.Model.pack x.toModel.unpack.abs).unpack := rfl
    rw [packed, hx]
    exact Canonical.unpack_pack (show Canonical (.zero .positive) from trivial)
  have half : Canonical (.finite .positive (2 ^ 52) (-53) (by decide)) := by
    refine ⟨?_, ?_, ?_, .inl ?_⟩ <;> decide
  have sum : (x.abs + 0.5).toModel.unpack = .finite .positive (2 ^ 52) (-53) (by decide) := by
    have packed : (x.abs + 0.5).toModel.unpack = (Float.Model.pack
      (UnpackedFloat.add .binary64 x.abs.toModel.unpack (0.5 : Float).toModel.unpack)).unpack := rfl
    rw [packed, magnitude, unpack_half]
    exact half.unpack_pack
  rw [floor, ofFloat_exact (by rw [sum]; exact half), sum]
  rfl

theorem settled_apply (s : Sign) {m : Nat} (hm : 0 < m) (e : Int) :
    Binary.settled ⟨s.apply m, e⟩ =
      s.apply (if m = 2 ^ 53 - 1 ∧ e = -54 then 1 else Binary.nearestUp ⟨m, e⟩) := by
  have below : Binary.BelowHalf ⟨s.apply m, e⟩ ↔ m = 2 ^ 53 - 1 ∧ e = -54 := by
    rw [Binary.BelowHalf, natAbs_apply]
  simp only [Binary.settled, below, Binary.nearestAway]
  cases s with
  | positive =>
      simp only [Sign.apply, Int.natCast_nonneg, if_true]
      rw [Int.sign_eq_one_of_pos (by omega)]
  | negative =>
      simp only [Sign.apply, Int.neg_neg]
      rw [Int.sign_eq_neg_one_of_neg (by omega), if_neg (by omega : ¬ 0 ≤ -(m : Int))]
      split <;> rfl

theorem roundHalfAway_eq {b : Binary} (hx : Canonical x.toModel.unpack)
    (hb : exact x.toModel.unpack = b)
    (hexponent : b.exponent < 0) : roundHalfAway x = .ok b.settled := by
  have negative := isNegative_iff hx
  unfold roundHalfAway
  cases hu : x.toModel.unpack with
  | infinity | notANumber =>
      rw [hu] at hx
      cases hx
  | zero s =>
      rw [hu] at hb
      subst hb
      have none : Binary.settled ⟨0, -1074⟩ = 0 := by decide +kernel
      rw [floor_abs_add_half_of_zero hu, exact, none]
      cases isNegative x <;> rfl
  | finite s m e hm =>
      rw [hu] at hb negative
      subst hb
      rw [floor_abs_add_half hu hexponent, exact, settled_apply s hm]
      cases s with
      | positive =>
          have unsigned : isNegative x = false := by simpa [sign] using negative
          rw [unsigned]
          rfl
      | negative =>
          have signed : isNegative x = true := negative.mpr rfl
          rw [signed]
          rfl

/-- Rounding settles on an integer if the last bit stands for a fraction. -/
theorem IsLight.settles {bound : Int} (h : IsLight bound x) (hbound : bound < 0) :
    ∃ b, Binary.ofFloat x = .ok b ∧ b.significand.natAbs < 2 ^ 53 ∧ b.exponent < 0 ∧
      roundHalfAway x = .ok b.settled := by
  have canonical := canonical_of_isFinite h.isFinite
  have fraction : (exact x.toModel.unpack).significand.natAbs < 2 ^ 53 ∧
      (exact x.toModel.unpack).exponent < 0 := by
    unfold IsLight at h
    cases hu : x.toModel.unpack with
    | zero => exact ⟨(by decide : (0 : Int).natAbs < 2 ^ 53), (by decide : (-1074 : Int) < 0)⟩
    | infinity | notANumber =>
        rw [hu] at h
        cases h
    | finite s m e hm =>
        rw [hu] at h
        obtain ⟨hmantissa, hexponent⟩ := h
        rw [exact, natAbs_apply]
        exact ⟨hmantissa, Int.lt_of_le_of_lt hexponent hbound⟩
  exact ⟨_, ofFloat_exact canonical, fraction.1, fraction.2,
    roundHalfAway_eq canonical rfl fraction.2⟩

end Double

end TurtleGraphics
