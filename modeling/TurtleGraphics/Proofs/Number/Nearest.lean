import TurtleGraphics.Proofs.Number.Error

/-! # The nearest double

A rational is rounded to the nearest double, of two to the one with the even significand. So each
double has an interval of rationals that are rounded to it, and an operation whose exact result lies
there finds this double.
-/

namespace TurtleGraphics

open Float.Model Float.Model.UnpackedFloat

/-- No integer is nearer to the number, and of two that are equally near this is the even one. -/
structure NearestEven (q : ℚ) (n : Int) : Prop where
  near : |q - n| ≤ 1 / 2
  even : |q - n| = 1 / 2 → Even n

theorem NearestEven.unique {q : ℚ} {m n : Int} (hm : NearestEven q m) (hn : NearestEven q n) :
    m = n := by
  have half {m n : Int} (hm : NearestEven q m) (hn : NearestEven q n) (hless : m < n) : False := by
    have next : (m : ℚ) + 1 ≤ n := by exact_mod_cast hless
    obtain ⟨-, above⟩ := abs_le.mp hm.near
    obtain ⟨below, -⟩ := abs_le.mp hn.near
    have left : |q - m| = 1 / 2 := by
      rw [abs_of_nonneg (by linarith)]
      linarith
    have right : |q - n| = 1 / 2 := by
      rw [abs_of_nonpos (by linarith)]
      linarith
    have gap : n = m + 1 := by
      have : (n : ℚ) = m + 1 := by linarith
      exact_mod_cast this
    have odd := hn.even right
    rw [gap, Int.even_add_one] at odd
    exact odd (hm.even left)
  rcases Int.lt_trichotomy m n with hless | hsame | hless
  · exact (half hm hn hless).elim
  · exact hsame
  · exact (half hn hm hless).elim

namespace Double

/-! ## The bits that are kept -/

/-- A significand and its two extra bits say where a number lies: how many halves it has, and
whether there is more. -/
structure Tells (m : ExtendedMantissa) (q : ℚ) : Prop where
  low : m.mantissa ≤ q
  high : q < m.mantissa + 1
  half : m.roundBit = true ↔ (m.mantissa : ℚ) + 1 / 2 ≤ q
  more : m.stickyBit = true ↔ q ≠ m.mantissa ∧ q ≠ m.mantissa + 1 / 2

namespace Tells

variable {m : ExtendedMantissa} {q : ℚ}

theorem inexact (h : Tells m q) : (m.roundBit || m.stickyBit) = true ↔ q ≠ m.mantissa := by
  rw [Bool.or_eq_true, h.half, h.more]
  constructor
  · rintro (hhalf | hmore)
    · linarith
    · exact hmore.1
  · intro other
    by_cases hhalf : (m.mantissa : ℚ) + 1 / 2 ≤ q
    · exact .inl hhalf
    · exact .inr ⟨other, fun middle => hhalf middle.ge⟩

theorem shiftRightOne (h : Tells m q) : Tells m.shiftRightOne (q / 2) := by
  have inexact := h.inexact
  obtain ⟨low, high, -, -⟩ := h
  unfold ExtendedMantissa.shiftRightOne
  generalize m.mantissa = n at *
  obtain ⟨k, rfl | rfl⟩ := Nat.even_or_odd' n
  · have whole : 2 * k / 2 = k := by omega
    have bit : 2 * k % 2 = 0 := by omega
    push_cast at low high inexact
    constructor <;> dsimp only
    · rw [whole]
      linarith
    · rw [whole]
      linarith
    · rw [whole, bit]
      simp only [bne_self_eq_false, Bool.false_eq_true, false_iff]
      linarith
    · rw [whole, inexact]
      refine ⟨fun other => ⟨fun same => other (by linarith), ?_⟩, fun ⟨other, _⟩ same =>
        other (by linarith)⟩
      linarith
  · have whole : (2 * k + 1) / 2 = k := by omega
    have bit : (2 * k + 1) % 2 = 1 := by omega
    push_cast at low high inexact
    constructor <;> dsimp only
    · rw [whole]
      linarith
    · rw [whole]
      linarith
    · rw [whole, bit]
      simp only [bne_iff_ne, ne_eq, one_ne_zero, not_false_eq_true, true_iff]
      linarith
    · rw [whole, inexact]
      refine ⟨fun other => ⟨?_, fun same => other (by linarith)⟩, fun ⟨_, other⟩ same =>
        other (by linarith)⟩
      linarith

theorem shiftRight (h : Tells m q) (n : Nat) : Tells (m >>> n) (q / 2 ^ n) := by
  change Tells (n.repeat ExtendedMantissa.shiftRightOne m) _
  induction n with
  | zero => simpa [Nat.repeat] using h
  | succ n ih =>
      rw [pow_succ, ← div_div]
      exact ih.shiftRightOne

theorem nearestEven (h : Tells m q) : NearestEven q m.roundedMantissa := by
  obtain ⟨low, high, half, more⟩ := h
  obtain ⟨n, first, rest⟩ := m
  rw [roundedMantissa_mk]
  dsimp only at *
  cases first with
  | false =>
      have below : q < n + 1 / 2 := by simpa using half
      rw [if_neg Bool.false_ne_true]
      constructor <;> push_cast <;> rw [abs_of_nonneg (by linarith)]
      · linarith
      · intro; linarith
  | true =>
      have above : (n : ℚ) + 1 / 2 ≤ q := half.mp rfl
      rw [if_pos rfl]
      cases rest with
      | true =>
          obtain ⟨-, other⟩ := more.mp rfl
          rw [if_pos rfl]
          constructor <;> push_cast <;> rw [abs_of_nonpos (by linarith)]
          · linarith
          · exact fun middle => absurd (by linarith) other
      | false =>
          have middle : q = n + 1 / 2 := by
            by_contra other
            exact Bool.false_ne_true (more.mpr ⟨by linarith, other⟩)
          rw [if_neg Bool.false_ne_true]
          subst middle
          obtain ⟨k, rfl | rfl⟩ := Nat.even_or_odd' n
          · refine ⟨?_, fun _ => ⟨k, by push_cast; omega⟩⟩
            rw [show 2 * k + 2 * k % 2 = 2 * k by omega]
            push_cast
            rw [abs_of_nonneg] <;> linarith
          · refine ⟨?_, fun _ => ⟨k + 1, by push_cast; omega⟩⟩
            rw [show 2 * k + 1 + (2 * k + 1) % 2 = 2 * k + 2 by omega]
            push_cast
            rw [abs_of_nonpos] <;> linarith

theorem exact (n : Nat) : Tells (.ofMantissaAndAccuracy n .exact) n := by
  constructor <;> simp [ExtendedMantissa.ofMantissaAndAccuracy]

theorem ofFraction (n r d : Nat) :
    ExtendedMantissa.ofMantissaAndAccuracy n (accuracyOfFraction r d) =
      ⟨n, decide (r ≠ 0 ∧ d ≤ 2 * r), decide (r ≠ 0 ∧ 2 * r ≠ d)⟩ := by
  unfold accuracyOfFraction
  split
  · rename_i hr
    simp [hr, ExtendedMantissa.ofMantissaAndAccuracy]
  · rename_i hr
    cases horder : compare (2 * r) d with
    | lt =>
        have := Nat.compare_eq_lt.mp horder
        simp [ExtendedMantissa.ofMantissaAndAccuracy, hr, this, this.ne]
    | eq =>
        have := Nat.compare_eq_eq.mp horder
        simp [ExtendedMantissa.ofMantissaAndAccuracy, hr, this]
    | gt =>
        have := Nat.compare_eq_gt.mp horder
        simp [ExtendedMantissa.ofMantissaAndAccuracy, hr, this.le, this.ne']

theorem quotient (n : Nat) {d : Nat} (hd : 0 < d) :
    Tells (.ofMantissaAndAccuracy (n / d) (accuracyOfFraction (n % d) d)) (n / d) := by
  have positive : (0 : ℚ) < d := by exact_mod_cast hd
  have split : (n : ℚ) / d = (n / d : Nat) + (n % d : Nat) / d := by
    rw [eq_comm, ← mul_right_inj' positive.ne', mul_add, mul_div_cancel₀ _ positive.ne',
      mul_div_cancel₀ _ positive.ne']
    exact_mod_cast Nat.div_add_mod n d
  have rest : ((n % d : Nat) : ℚ) < d := by exact_mod_cast Nat.mod_lt n hd
  rw [split, ofFraction]
  generalize n / d = q
  generalize n % d = r at *
  have none : (r : ℚ) / d = 0 ↔ r = 0 := by simp [positive.ne']
  have half : (1 : ℚ) / 2 ≤ r / d ↔ d ≤ 2 * r := by
    rw [div_le_div_iff₀ two_pos positive, one_mul, mul_comm]
    exact_mod_cast Iff.rfl
  have middle : (r : ℚ) / d = 1 / 2 ↔ 2 * r = d := by
    rw [div_eq_div_iff positive.ne' two_ne_zero, one_mul, mul_comm]
    exact_mod_cast Iff.rfl
  constructor <;> dsimp only
  · have : (0 : ℚ) ≤ r / d := by positivity
    linarith
  · have := (div_lt_one positive).mpr rest
    linarith
  · rw [decide_eq_true_iff, add_le_add_iff_left, half]
    omega
  · rw [decide_eq_true_iff, Ne, Ne, Ne, Ne, add_eq_left, add_right_inj, none, middle]

end Tells

/-! ## The numbers that are rounded to a double -/

/-- How far below a significand the numbers that are rounded to it begin. Below a power of two the
next double is only half as far away. -/
def reachBelow (m : Nat) (e : Int) : ℚ :=
  if m = 2 ^ 52 ∧ -1074 < e then 1 / 4 else 1 / 2

/-- A number is rounded to a significand times a power of two. Of the two ends only an even
    significand has them. -/
structure RoundsTo (m : Nat) (e : Int) (z : ℚ) : Prop where
  low : (m - reachBelow m e) * 2 ^ e ≤ z
  high : z ≤ (m + 1 / 2) * 2 ^ e
  ends : z = (m - reachBelow m e) * 2 ^ e ∨ z = (m + 1 / 2) * 2 ^ e → Even m

variable {m n : Nat} {e t : Int} {z : ℚ}

theorem reachBelow_pos (m : Nat) (e : Int) : 0 < reachBelow m e := by
  unfold reachBelow
  split <;> norm_num

theorem reachBelow_le (m : Nat) (e : Int) : reachBelow m e ≤ 1 / 2 := by
  unfold reachBelow
  split <;> norm_num

namespace RoundsTo

theorem self (m : Nat) (e : Int) : RoundsTo m e (m * 2 ^ e) := by
  have unit : (0 : ℚ) < 2 ^ e := by positivity
  have below := mul_pos (reachBelow_pos m e) unit
  refine ⟨by linarith, by linarith, ?_⟩
  rintro (same | same) <;> linarith

theorem pos (h : RoundsTo m e z) (hm : 0 < m) : 0 < z := by
  have whole : (1 : ℚ) ≤ m := by exact_mod_cast hm
  have := reachBelow_le m e
  have : 0 < (m - reachBelow m e) * 2 ^ e := mul_pos (by linarith) (by positivity)
  exact this.trans_le h.low

theorem lt (h : RoundsTo m e z) (hm : m < 2 ^ 53) : z < 2 ^ (e + 53) := by
  have unit : (0 : ℚ) < 2 ^ e := by positivity
  have whole : (m : ℚ) + 1 ≤ 2 ^ 53 := by exact_mod_cast hm
  calc z ≤ (m + 1 / 2) * 2 ^ e := h.high
    _ < 2 ^ 53 * 2 ^ e := mul_lt_mul_of_pos_right (by linarith) unit
    _ = 2 ^ (e + 53) := by rw [zpow_add₀ two_ne_zero, mul_comm]; norm_num

theorem nearestEven (h : RoundsTo m e z) : NearestEven (z / 2 ^ e) m := by
  have unit : (0 : ℚ) < 2 ^ e := by positivity
  obtain ⟨q, rfl⟩ : ∃ q, z = q * 2 ^ e := ⟨z / 2 ^ e, by field_simp⟩
  obtain ⟨low, high, ends⟩ := h
  simp only [mul_left_inj' unit.ne'] at ends
  have low := le_of_mul_le_mul_right low unit
  have high := le_of_mul_le_mul_right high unit
  have reach := reachBelow_le m e
  rw [mul_div_cancel_right₀ _ unit.ne']
  refine ⟨abs_le.mpr ⟨by push_cast; linarith, by push_cast; linarith⟩, fun edge => ?_⟩
  rw [Int.even_coe_nat]
  apply ends
  push_cast at edge
  rcases abs_eq (by norm_num : (0 : ℚ) ≤ 1 / 2) |>.mp edge with above | below
  · right
    linarith
  · left
    linarith

theorem two_zpow_add (e : Int) : (2 : ℚ) ^ (e + 52) = 2 ^ 52 * 2 ^ e := by
  rw [zpow_add₀ two_ne_zero, mul_comm]
  norm_num

theorem eq_least_of_short (h : RoundsTo m e z) (hwhole : 2 ^ 52 ≤ m) (hshort : z < 2 ^ (e + 52)) :
    m = 2 ^ 52 := by
  rw [two_zpow_add] at hshort
  have reach := reachBelow_le m e
  have less : (m : ℚ) - reachBelow m e < 2 ^ 52 :=
    lt_of_mul_lt_mul_right (h.low.trans_lt hshort) (by positivity : (0 : ℚ) ≤ 2 ^ e)
  by_contra other
  have : 2 ^ 52 + 1 ≤ m := by omega
  have : (2 : ℚ) ^ 52 + 1 ≤ m := by exact_mod_cast this
  linarith

theorem nearestEven_of_short (h : RoundsTo (2 ^ 52) (t + 1) z) (ht : -1074 ≤ t)
    (hshort : z < 2 ^ (t + 1 + 52)) :
    NearestEven (z / 2 ^ t) (2 ^ 53 : Nat) := by
  rw [two_zpow_add] at hshort
  have halved : (2 : ℚ) ^ (t + 1) = 2 * 2 ^ t := by rw [zpow_add_one₀ two_ne_zero, mul_comm]
  have positive : (0 : ℚ) < 2 ^ t := by positivity
  have low := h.low
  rw [reachBelow, if_pos ⟨rfl, by omega⟩] at low
  push_cast at low
  have lower : (2 : ℚ) ^ 53 - 1 / 2 ≤ z / 2 ^ t := by
    rw [le_div_iff₀ positive]
    linarith
  have upper : z / 2 ^ t < 2 ^ 53 := by
    rw [div_lt_iff₀ positive]
    linarith
  refine ⟨?_, fun _ => by decide⟩
  push_cast
  rw [abs_le]
  constructor <;> linarith

/-- In units that leave a number 53 bits the nearest integer is the significand, or it is the power
of two above 53 bits. -/
theorem significand (h : RoundsTo m e z) {s : Sign} {hm : 0 < m}
    (hcanonical : Canonical (.finite s m e hm))
    (hlow : -1074 ≤ t) (hhigh : z < 2 ^ (t + 53)) (hbits : 2 ^ (t + 52) ≤ z ∨ t = -1074) {r : Nat}
    (hr : NearestEven (z / 2 ^ t) r) : (r = m ∧ t = e) ∨ (r = 2 ^ 53 ∧ m = 2 ^ 52 ∧ t + 1 = e) := by
  obtain ⟨hmantissa, hleast, -, hwhole⟩ := hcanonical
  have below : t ≤ e := by
    rcases hbits with hbits | rfl
    · have := (zpow_lt_zpow_iff_right₀ one_lt_two).mp (hbits.trans_lt (h.lt hmantissa))
      omega
    · exact hleast
  by_cases full : 2 ^ (e + 52) ≤ z ∨ e = -1074
  · have same : t = e := by
      rcases full with full | rfl
      · have := (zpow_lt_zpow_iff_right₀ one_lt_two).mp (full.trans_lt hhigh)
        omega
      · omega
    subst same
    exact .inl ⟨Int.natCast_inj.mp (hr.unique h.nearestEven), rfl⟩
  · rw [not_or, not_le] at full
    obtain ⟨short, hexponent⟩ := full
    obtain rfl := h.eq_least_of_short (hwhole.resolve_right hexponent) short
    have above : (2 : ℚ) ^ (e + 51) ≤ z := by
      have low := h.low
      rw [reachBelow, if_pos ⟨rfl, by omega⟩] at low
      push_cast at low
      have : (0 : ℚ) < 2 ^ e := by positivity
      rw [show e + 51 = e + 52 - 1 by omega, zpow_sub_one₀ two_ne_zero, two_zpow_add]
      linarith
    obtain rfl : t + 1 = e := by
      have := (zpow_lt_zpow_iff_right₀ one_lt_two).mp (above.trans_lt hhigh)
      rcases hbits with hbits | rfl
      · have := (zpow_lt_zpow_iff_right₀ one_lt_two).mp (hbits.trans_lt short)
        omega
      · omega
    exact .inr ⟨Int.natCast_inj.mp (hr.unique (h.nearestEven_of_short hlow short)), rfl, rfl⟩

end RoundsTo

theorem targetExponent_spec (ht : t = max (totalExponent n e - 53) (-1074)) (hle : e ≤ t)
    (hlow : n * 2 ^ e ≤ z)
    (hhigh : z < (n + 1) * 2 ^ e) : z < 2 ^ (t + 53) ∧ (2 ^ (t + 52) ≤ z ∨ t = -1074) := by
  have unit : (0 : ℚ) < 2 ^ e := by positivity
  have total : totalExponent n e = e + n.log2 + 1 := by
    unfold totalExponent
    omega
  have bits : ((n : ℚ) + 1) * 2 ^ e ≤ 2 ^ (totalExponent n e) := by
    have whole : n + 1 ≤ 2 ^ (n.log2 + 1) := Nat.lt_log2_self
    calc ((n : ℚ) + 1) * 2 ^ e ≤ (2 ^ (n.log2 + 1) : Nat) * 2 ^ e := by
          gcongr
          exact_mod_cast whole
      _ = 2 ^ (totalExponent n e) := by
          rw [total, add_assoc, zpow_add₀ two_ne_zero, mul_comm]
          push_cast
          rw [← zpow_natCast]
          push_cast
          rfl
  refine ⟨hhigh.trans_le (bits.trans (zpow_le_zpow_right₀ one_le_two (by omega))), ?_⟩
  by_cases least : t = -1074
  · exact .inr least
  · have positive : n ≠ 0 := by
      rintro rfl
      simp [totalExponent] at ht
      omega
    have leading : 2 ^ n.log2 ≤ n := Nat.log2_self_le positive
    left
    calc (2 : ℚ) ^ (t + 52) = (2 ^ n.log2 : Nat) * 2 ^ e := by
          rw [show t + 52 = n.log2 + e by omega, zpow_add₀ two_ne_zero]
          push_cast
          rw [zpow_natCast]
      _ ≤ n * 2 ^ e := by gcongr
      _ ≤ z := hlow

/-- Rounding finds a double if the number that is told lies in its interval. -/
theorem roundWithAccuracy_of_tells {n : Nat} {e' : Int} {accuracy : Accuracy}
    (htells : Tells (.ofMantissaAndAccuracy n accuracy) (z / 2 ^ e'))
    (hexponent : e' ≤ max (totalExponent n e' - 53) (-1074)) (h : RoundsTo m e z) (s : Sign)
    {hm : 0 < m} (hcanonical : Canonical (.finite s m e hm)) :
    roundWithAccuracy .binary64 s n e' accuracy = .finite s m e hm := by
  obtain ⟨t, ht⟩ : ∃ t, t = max (totalExponent n e' - 53) (-1074) := ⟨_, rfl⟩
  obtain ⟨k, hk⟩ : ∃ k : Nat, t = e' + k := ⟨(t - e').toNat, by omega⟩
  obtain ⟨r, hr, -, -, -, rounded⟩ := roundWithAccuracy_eq s accuracy ht hk
  have unit : (0 : ℚ) < 2 ^ e' := by positivity
  have kept : (ExtendedMantissa.ofMantissaAndAccuracy n accuracy).mantissa = n := by
    cases accuracy with
    | exact => rfl
    | inexact order => cases order <;> rfl
  obtain ⟨below, bits⟩ :=
    targetExponent_spec ht (by omega) (kept ▸ (le_div_iff₀ unit).mp htells.low)
    (kept ▸ (div_lt_iff₀ unit).mp htells.high)
  have nearest := (htells.shiftRight k).nearestEven
  rw [← hr, div_div, ← zpow_natCast, ← zpow_add₀ two_ne_zero, ← hk] at nearest
  rw [rounded]
  obtain ⟨rfl, rfl⟩ | ⟨rfl, rfl, rfl⟩ := h.significand hcanonical (by omega) below bits nearest
  · rw [dif_neg (by omega), if_pos hcanonical.1]
  · rfl

/-! ## Operations -/

section

variable {m₁ m₂ : Nat} {e₁ e₂ : Int} {hm : 0 < m} {s s' : Sign}

theorem mul_of_roundsTo (h₁ : 0 < m₁) (h₂ : 0 < m₂)
    (hexponent : e₁ + e₂ ≤ max (totalExponent (m₁ * m₂) (e₁ + e₂) - 53) (-1074))
    (h : RoundsTo m e (m₁ * 2 ^ e₁ * (m₂ * 2 ^ e₂)))
    (hcanonical : Canonical (.finite (s * s') m e hm)) :
    UnpackedFloat.mul .binary64 (.finite s m₁ e₁ h₁) (.finite s' m₂ e₂ h₂) =
      .finite (s * s') m e hm := by
  rw [mul_finite]
  refine roundWithAccuracy_of_tells ?_ hexponent h _ hcanonical
  have scaled : (m₁ * 2 ^ e₁ * (m₂ * 2 ^ e₂) : ℚ) / 2 ^ (e₁ + e₂) = (m₁ * m₂ : Nat) := by
    rw [zpow_add₀ two_ne_zero]
    push_cast
    field_simp
  rw [scaled]
  exact Tells.exact _

theorem div_of_roundsTo (h₁ : 0 < m₁) (h₂ : 0 < m₂) (h : RoundsTo m e (m₁ * 2 ^ e₁ / (m₂ * 2 ^ e₂)))
    (hcanonical : Canonical (.finite (s / s') m e hm)) :
    UnpackedFloat.div .binary64 (.finite s m₁ e₁ h₁) (.finite s' m₂ e₂ h₂) =
      .finite (s / s') m e hm := by
  obtain ⟨k, t, divided, scaled, exponent⟩ := exists_shift_of_div s s' e₁ e₂ h₁ h₂
  rw [divided]
  refine roundWithAccuracy_of_tells ?_ exponent h _ hcanonical
  rw [scaled, mul_div_cancel_right₀ _ (by positivity)]
  exact Tells.quotient _ h₂

theorem round_of_roundsTo (hn : 0 < n) (h : RoundsTo m e (n * 2 ^ t))
    (hcanonical : Canonical (.finite s m e hm)) :
    UnpackedFloat.round .binary64 s n t = .finite s m e hm := by
  obtain ⟨k, shifted, scaled, exponent⟩ := exists_shift_of_round s hn t
  rw [shifted]
  refine roundWithAccuracy_of_tells ?_ exponent h s hcanonical
  rw [← scaled, mul_div_cancel_right₀ _ (by positivity)]
  exact Tells.exact _

end

end Double

end TurtleGraphics
