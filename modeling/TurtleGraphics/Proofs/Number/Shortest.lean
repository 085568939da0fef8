import TurtleGraphics.Number.Shortest
import TurtleGraphics.Proofs.Number.Digits

/-! # Shortest decimals

The search for the shortest decimal of a double ends, at seventeen digits at the latest, and the
decimal that it finds is rounded to the double.
-/

namespace TurtleGraphics

open Float.Model Float.Model.UnpackedFloat

namespace Decimal

open Double

/-- The number that a decimal writes. -/
def value (d : Decimal) : ℚ :=
  naturalOf d.digits * 10 ^ (d.point - d.digits.length)

/-! ## Trailing zeros -/

theorem toDigits_ofScaled (n : Nat) (scale : Int) :
    ∃ k, Nat.toDigits 10 n = (ofScaled n scale).digits ++ List.replicate k '0' := by
  refine ⟨((Nat.toDigits 10 n).rtakeWhile (· = '0')).length, ?_⟩
  have zeros :=
    List.eq_replicate_of_mem fun c (hc : c ∈ (Nat.toDigits 10 n).rtakeWhile (· = '0')) =>
    (by simpa using List.mem_rtakeWhile_imp hc : c = '0')
  rw [← zeros]
  exact List.rdropWhile_append_rtakeWhile.symm

theorem value_ofScaled (n : Nat) (scale : Int) : (ofScaled n scale).value = n * 10 ^ scale := by
  obtain ⟨k, hk⟩ := toDigits_ofScaled n scale
  have number := congrArg naturalOf hk
  have length := congrArg List.length hk
  rw [naturalOf_toDigits, naturalOf_append, naturalOf_replicate, List.length_replicate,
    Nat.add_zero] at number
  rw [List.length_append, List.length_replicate] at length
  have point : (ofScaled n scale).point = scale + (Nat.toDigits 10 n).length := rfl
  rw [value, point, length]
  generalize (ofScaled n scale).digits = digits at *
  rw [number, show scale + (digits.length + k : Nat) - digits.length = scale + k by
    push_cast; omega, zpow_add₀ (by norm_num), zpow_natCast]
  push_cast
  ring

/-! ## Where the point stands -/

theorem digitCount_spec {n : Nat} (hn : 0 < n) :
    ∃ k, digitCount n = k + 1 ∧ 10 ^ k ≤ n ∧ n < 10 ^ (k + 1) := by
  have some : 0 < (Nat.toDigits 10 n).length := Nat.length_toDigits_pos
  obtain ⟨k, hk⟩ : ∃ k, (Nat.toDigits 10 n).length = k + 1 :=
    ⟨(Nat.toDigits 10 n).length - 1, by omega⟩
  refine ⟨k, by rw [digitCount, if_neg hn.ne', hk], ?_, ?_⟩
  · cases k with
    | zero => exact hn
    | succ k =>
        have := Nat.length_toDigits_le_iff (n := n) (b := 10) (by decide) (Nat.succ_pos k)
        omega
  · exact (Nat.length_toDigits_le_iff (by decide) (Nat.succ_pos k)).mp hk.le

theorem pointOf_spec {num den : Nat} (hnum : 0 < num) (hden : 0 < den) :
    (10 : ℚ) ^ (pointOf num den - 1) ≤ num / den ∧ (num : ℚ) / den < 10 ^ pointOf num den := by
  have positive : (0 : ℚ) < den := by exact_mod_cast hden
  have positive' : (0 : ℚ) < num := by exact_mod_cast hnum
  unfold pointOf
  split
  · rename_i hle
    obtain ⟨k, hk, low, high⟩ := digitCount_spec (Nat.div_pos hle hden)
    rw [hk, Nat.le_div_iff_mul_le hden] at *
    rw [Nat.div_lt_iff_lt_mul hden] at high
    rw [le_div_iff₀ positive, div_lt_iff₀ positive, Nat.cast_add_one, add_sub_cancel_right,
      ← Nat.cast_add_one, zpow_natCast, zpow_natCast]
    exact ⟨by exact_mod_cast low, by exact_mod_cast high⟩
  · rename_i hlt
    obtain ⟨c, hc⟩ : ∃ c, (den + num - 1) / num = c + 1 :=
      ⟨(den + num - 1) / num - 1, by
        have := Nat.div_pos (show num ≤ den + num - 1 by omega) hnum; omega⟩
    have below : c * num < den := by
      have := Nat.div_mul_le_self (den + num - 1) num
      rw [hc, Nat.add_mul] at this
      omega
    have above : den ≤ (c + 1) * num := by
      have := Nat.lt_div_mul_add hnum (a := den + num - 1)
      rw [hc] at this
      omega
    have some : 0 < c := by
      by_contra none
      simp only [show c = 0 by omega, Nat.zero_add, Nat.one_mul] at above
      omega
    obtain ⟨k, hk, low, high⟩ := digitCount_spec some
    rw [hc, Nat.add_sub_cancel, hk, div_lt_iff₀ positive, le_div_iff₀ positive,
      show (1 : Int) - (k + 1 : Nat) - 1 = -(k + 1 : Nat) by push_cast; omega,
      show (1 : Int) - (k + 1 : Nat) = -k by
        push_cast; omega, zpow_neg, zpow_neg, zpow_natCast, zpow_natCast,
      inv_mul_le_iff₀ (by positivity), lt_inv_mul_iff₀ (by positivity)]
    constructor
    · exact_mod_cast above.trans (Nat.mul_le_mul_right _ high)
    · exact_mod_cast (Nat.mul_le_mul_right _ low).trans_lt below

/-! ## The interval of a double -/

namespace Interval

variable {i : Interval} {n m : Nat} {scale e : Int}

theorem holds_iff (hden : 0 < i.den) :
    i.holds n scale = true ↔
      if i.closed then (i.low : ℚ) / i.den ≤ n * 10 ^ scale ∧ (n : ℚ) * 10 ^ scale ≤ i.high / i.den
      else (i.low : ℚ) / i.den < n * 10 ^ scale ∧ (n : ℚ) * 10 ^ scale < i.high / i.den := by
  have positive : (0 : ℚ) < i.den := by exact_mod_cast hden
  have shrink : (0 : ℚ) < 10 ^ (-scale).toNat := by positivity
  have point : (n : ℚ) * 10 ^ scale = n * 10 ^ scale.toNat / 10 ^ (-scale).toNat := by
    rw [zpow_eq_div (by norm_num), mul_div_assoc]
  unfold holds
  simp only [Nat.pow_eq]
  split
  · rw [Bool.and_eq_true, decide_eq_true_iff, decide_eq_true_iff, point,
      div_le_div_iff₀ positive shrink, div_le_div_iff₀ shrink positive]
    exact_mod_cast Iff.rfl
  · rw [Bool.and_eq_true, decide_eq_true_iff, decide_eq_true_iff, point,
      div_lt_div_iff₀ positive shrink, div_lt_div_iff₀ shrink positive]
    exact_mod_cast Iff.rfl

theorem around_den_pos (m : Nat) (e : Int) : 0 < (around m e).den :=
  Nat.mul_pos (by decide) (Nat.pow_pos Nat.two_pos)

theorem around_spec (hm : 0 < m) (e : Int) :
    ((around m e).value : ℚ) / (around m e).den = m * 2 ^ e ∧
      ((around m e).low : ℚ) / (around m e).den = (m - reachBelow m e) * 2 ^ e ∧
      ((around m e).high : ℚ) / (around m e).den = (m + 1 / 2) * 2 ^ e := by
  have power := zpow_eq_div (two_ne_zero (α := ℚ)) e
  have low : ((4 * m - (if m = 2 ^ 52 ∧ -1074 < e then 1 else 2) : Nat) : ℚ) =
      4 * (m - reachBelow m e) := by
    rw [Nat.cast_sub (by split <;> omega), reachBelow]
    push_cast
    split <;> ring
  refine ⟨?_, ?_, ?_⟩
  · simp only [around, Nat.pow_eq, power]
    push_cast
    field_simp
  · simp only [around, Nat.pow_eq, power, Nat.cast_mul, low]
    push_cast
    field_simp
  · simp only [around, Nat.pow_eq, power]
    push_cast
    field_simp
    ring

/-- What belongs to the interval of a double is rounded to it. -/
theorem roundsTo_of_holds (hm : 0 < m) (h : (around m e).holds n scale = true) :
    RoundsTo m e (n * 10 ^ scale) := by
  obtain ⟨-, low, high⟩ := around_spec hm e
  rw [holds_iff (around_den_pos m e), low, high] at h
  split at h
  · rename_i hclosed
    have even : Even m := Nat.even_iff.mpr (by simpa [around] using hclosed)
    exact ⟨h.1, h.2, fun _ => even⟩
  · refine ⟨h.1.le, h.2.le, ?_⟩
    rintro (same | same)
    · exact absurd same h.1.ne'
    · exact absurd same h.2.ne

theorem holds_of_near (hm : 0 < m)
    (h : |(n : ℚ) * 10 ^ scale - m * 2 ^ e| < reachBelow m e * 2 ^ e) :
    (around m e).holds n scale = true := by
  obtain ⟨-, low, high⟩ := around_spec hm e
  have unit : (0 : ℚ) < 2 ^ e := by positivity
  have reach := mul_le_mul_of_nonneg_right (reachBelow_le m e) unit.le
  obtain ⟨left, right⟩ := abs_lt.mp h
  rw [holds_iff (around_den_pos m e), low, high]
  split <;> constructor <;> linarith

theorem holds_of_hit (h : i.hit? scale = some n) : i.holds n scale = true := by
  unfold hit? at h
  dsimp only at h
  split at h
  · rename_i hbelow habove
    split at h <;> cases h <;> assumption
  · cases h
    assumption
  · cases h
    assumption
  · cases h

/-- One of the neighbours on a grid is hit if the grid is fine enough. -/
theorem hit_of_fine (hm : 0 < m) (hfine : (10 : ℚ) ^ scale / 2 < reachBelow m e * 2 ^ e) :
    ∃ n, (around m e).hit? scale = some n := by
  obtain ⟨value, -, -⟩ := around_spec hm e
  have hden := around_den_pos m e
  obtain ⟨below, hbelow⟩ : ∃ below, below =
      (around m e).value * 10 ^ (-scale).toNat / ((around m e).den * 10 ^ scale.toNat) := ⟨_, rfl⟩
  have grid : (0 : ℚ) < 10 ^ scale := by positivity
  have quotient : ((around m e).value * 10 ^ (-scale).toNat : Nat) /
      ((around m e).den * 10 ^ scale.toNat : Nat) =
      (m * 2 ^ e : ℚ) / 10 ^ scale := by
    rw [← value, zpow_eq_div (by norm_num)]
    push_cast
    field_simp
  have least : (below : ℚ) * 10 ^ scale ≤ m * 2 ^ e := by
    rw [← le_div_iff₀ grid, ← quotient, hbelow]
    exact Nat.cast_div_le
  have greatest : (m : ℚ) * 2 ^ e < (below + 1) * 10 ^ scale := by
    rw [← div_lt_iff₀ grid, ← quotient, div_lt_iff₀ (by positivity), hbelow]
    exact_mod_cast Nat.lt_mul_of_div_lt (Nat.lt_succ_self _) (by positivity)
  have hit : (around m e).holds below scale = true ∨
      (around m e).holds (below + 1) scale = true := by
    by_cases middle : (m : ℚ) * 2 ^ e ≤ below * 10 ^ scale + 10 ^ scale / 2
    · left
      apply holds_of_near hm
      rw [abs_lt]
      constructor <;> linarith
    · right
      apply holds_of_near hm
      push_cast
      rw [abs_lt]
      constructor <;> linarith
  unfold hit?
  simp only [Nat.pow_eq, ← hbelow]
  split
  · split <;> exact ⟨_, rfl⟩
  · exact ⟨_, rfl⟩
  · exact ⟨_, rfl⟩
  · simp_all

end Interval

/-! ## The search -/

section

variable {m n : Nat} {e scale : Int} {hm : 0 < m}

/-- A decimal of moderate length that is rounded to a double. -/
structure Restores (m : Nat) (e : Int) (d : Decimal) : Prop where
  digits : ∀ c ∈ d.digits, c.isDigit = true
  some : d.digits ≠ []
  rounds : RoundsTo m e d.value
  length : d.digits.length ≤ 820
  least : -399 < d.point
  greatest : d.point < 400

theorem fine_of_pointOf (hmantissa : m < 2 ^ 53) {point : Int}
    (hpoint : (10 : ℚ) ^ (point - 1) ≤ m * 2 ^ e) :
    (10 : ℚ) ^ (point - (17 : Nat)) / 2 < reachBelow m e * 2 ^ e := by
  have unit : (0 : ℚ) < 2 ^ e := by positivity
  have reach : (m : ℚ) / 2 ^ 54 ≤ reachBelow m e := by
    have whole : (m : ℚ) + 1 ≤ 2 ^ 53 := by exact_mod_cast hmantissa
    unfold reachBelow
    split
    · rename_i hpower
      rw [hpower.1]
      norm_num
    · rw [div_le_div_iff₀ (by positivity) two_pos]
      linarith
  have split : (10 : ℚ) ^ (point - (17 : Nat)) = 10 ^ (point - 1) / 10 ^ 16 := by
    rw [show point - ((17 : Nat) : Int) = point - 1 - 16 by push_cast; omega,
      zpow_sub₀ (by norm_num) (point - 1)]
    norm_num
  have some : (0 : ℚ) < 10 ^ (point - 1) := by positivity
  calc (10 : ℚ) ^ (point - (17 : Nat)) / 2 = 10 ^ (point - 1) / (2 * 10 ^ 16) := by
        rw [split]
        field_simp
    _ < 10 ^ (point - 1) / 2 ^ 54 := div_lt_div_of_pos_left some (by positivity) (by norm_num)
    _ ≤ m * 2 ^ e / 2 ^ 54 := by gcongr
    _ = m / 2 ^ 54 * 2 ^ e := by ring
    _ ≤ reachBelow m e * 2 ^ e := by gcongr

theorem restores_ofScaled (hcanonical : Canonical (.finite .positive m e hm))
    (hrounds : RoundsTo m e (n * 10 ^ scale))
    (hscale : -420 ≤ scale) : Restores m e (ofScaled n scale) := by
  have positive : 0 < n := by
    by_contra none
    have := hrounds.pos hm
    simp [show n = 0 by omega] at this
  obtain ⟨k, hk⟩ := toDigits_ofScaled n scale
  obtain ⟨count, hcount, few, many⟩ := digitCount_spec positive
  rw [digitCount, if_neg positive.ne'] at hcount
  have point : (ofScaled n scale).point = scale + (count + 1) := by
    rw [ofScaled, hcount]
    rfl
  obtain ⟨less, more⟩ := hrounds.scale_between hcanonical few many
  have shorter : (ofScaled n scale).digits.length ≤ count + 1 := by
    rw [← hcount, hk, List.length_append]
    exact Nat.le_add_right _ _
  refine ⟨fun c hc => ?_, fun none => ?_, ?_, by omega, by omega, by omega⟩
  · exact Nat.isDigit_of_mem_toDigits (by decide) (by decide) (hk ▸ List.mem_append_left _ hc)
  · have number := naturalOf_toDigits n
    rw [hk, none, List.nil_append, naturalOf_replicate] at number
    omega
  · rwa [value_ofScaled]

/-- The shortest decimal of a double is rounded to the double. -/
theorem restores_shortest (hcanonical : Canonical (.finite .positive m e hm)) :
    Restores m e (shortest m e) := by
  obtain ⟨low, high⟩ := (RoundsTo.self m e).between hcanonical
  obtain ⟨value, -, -⟩ := Interval.around_spec hm e
  have number : 0 < (Interval.around m e).value := by
    simp only [Interval.around, Nat.pow_eq]
    positivity
  obtain ⟨least, greatest⟩ := pointOf_spec number (Interval.around_den_pos m e)
  rw [value] at least greatest
  have point : -399 < pointOf (Interval.around m e).value (Interval.around m e).den :=
    (zpow_lt_zpow_iff_right₀ (by norm_num : (1 : ℚ) < 10)).mp (low.trans_lt greatest)
  unfold shortest
  dsimp only
  generalize pointOf (Interval.around m e).value (Interval.around m e).den = p at *
  generalize hfound : List.findSome? _ _ = found
  cases found with
  | none =>
      obtain ⟨n, hn⟩ := Interval.hit_of_fine hm (fine_of_pointOf hcanonical.1 least)
      have := List.findSome?_eq_none_iff.mp hfound 17 (by decide)
      simp only [hn, Option.map_some, reduceCtorEq] at this
  | some d =>
      obtain ⟨count, hcount, hgrid⟩ := List.exists_of_findSome?_eq_some hfound
      obtain ⟨n, hn, rfl⟩ := Option.map_eq_some_iff.mp hgrid
      have few : count < 18 := List.mem_range.mp (List.mem_of_mem_drop hcount)
      exact restores_ofScaled hcanonical (Interval.roundsTo_of_holds hm (Interval.holds_of_hit hn))
        (by omega)

end

end Decimal

end TurtleGraphics
