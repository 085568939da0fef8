import Mathlib.Algebra.Group.Int.Defs
import Mathlib.Algebra.Group.Nat.Defs
import TurtleGraphics.Number.Double

/-! # Integers among the doubles

An integer of less than 54 bits is a double itself. Beyond that the nearest double is another
integer, but never twice as large.
-/

namespace TurtleGraphics

namespace Binary

theorem nearestEven_cases (b : Binary) : b.nearestEven = b.floor ∨ b.nearestEven = b.floor + 1 := by
  unfold nearestEven
  split
  · exact .inl rfl
  · dsimp only
    split
    · exact .inl rfl
    · split
      · exact .inr rfl
      · split
        · exact .inl rfl
        · exact .inr rfl

theorem floor_eq (b : Binary) :
    b.floor = if 0 ≤ b.exponent then b.significand * 2 ^ b.exponent.toNat
      else b.significand / 2 ^ (-b.exponent).toNat := rfl

theorem floor_scaled (n : Int) (k : Nat) : floor ⟨n, -(k : Int)⟩ = n / 2 ^ k := by
  cases k with
  | zero => simp [floor_eq]
  | succ k => rw [floor_eq, if_neg (by dsimp only; omega)]; simp

theorem rounded_of_lt {bits : Nat} {n : Int} (h : n.natAbs < 2 ^ bits) (hn : n ≠ 0) :
    rounded bits ⟨n, 0⟩ = ⟨n, 0⟩ := by
  have fits : n.natAbs.log2 < bits := (Nat.log2_lt (by omega)).mpr h
  have spare : n.natAbs.log2 + 1 - bits = 0 := by omega
  simp [rounded, spare, nearestEven, floor_eq]

theorem floor_rounded_of_lt {bits : Nat} (hbits : 0 < bits) {n : Int} (h : n.natAbs < 2 ^ bits) :
    (rounded bits ⟨n, 0⟩).floor = n := by
  by_cases hn : n = 0
  · have spare : 1 - bits = 0 := by omega
    simp [hn, rounded, spare, nearestEven, floor_eq]
  · rw [rounded_of_lt h hn]
    simp [floor_eq]

/-- The spare bits of an integer weigh no more than the integer itself. -/
theorem natAbs_floor_rounded_le {bits : Nat} (hbits : 0 < bits) {n : Int} (hn : n ≠ 0) :
    (rounded bits ⟨n, 0⟩).floor.natAbs ≤ 2 * n.natAbs := by
  let spare := n.natAbs.log2 + 1 - bits
  have value : (rounded bits ⟨n, 0⟩).floor = nearestEven ⟨n, -(spare : Int)⟩ * 2 ^ spare := by
    simp only [rounded, floor_eq, Int.zero_add, spare]
    rw [if_pos (Int.natCast_nonneg _), Int.toNat_natCast]
  have light : ((2 ^ spare : Nat) : Int) ≤ n.natAbs := by
    have : 2 ^ spare ≤ n.natAbs := by
      calc 2 ^ spare ≤ 2 ^ n.natAbs.log2 := Nat.pow_le_pow_right Nat.two_pos (by omega)
        _ ≤ n.natAbs := Nat.log2_self_le (by omega)
    exact Int.ofNat_le.mpr this
  have unit : (0 : Int) < 2 ^ spare := Int.pow_pos (by decide)
  have whole := Int.mul_ediv_add_emod n (2 ^ spare)
  have low := Int.emod_nonneg n (Int.ne_of_gt unit)
  have high := Int.emod_lt_of_pos n unit
  rw [Int.natCast_pow, Int.cast_ofNat_Int] at light
  rw [value]
  rcases nearestEven_cases ⟨n, -(spare : Int)⟩ with hdown | hup
  · rw [hdown, floor_scaled, Int.mul_comm]
    omega
  · rw [hup, floor_scaled, Int.add_mul, Int.one_mul, Int.mul_comm]
    omega

end Binary

namespace Double

theorem natAbs_add_lt {bits : Nat} {n m : Int} (hn : n.natAbs < 2 ^ bits)
    (hm : m.natAbs < 2 ^ bits) :
    (n + m).natAbs < 2 ^ (bits + 1) := by
  rw [Nat.pow_succ]
  omega

theorem lt_limit {n bits : Nat} (h : n < 2 ^ bits) (hbits : bits ≤ 1024) : n < limit := by
  apply Nat.lt_of_lt_of_le h
  apply Nat.pow_le_pow_right Nat.two_pos
  exact hbits

theorem wholeOfInt_of_lt {n : Int} (h : n.natAbs < 2 ^ 53) : wholeOfInt n = .ok n := by
  rw [wholeOfInt]
  simp only [Binary.floor_rounded_of_lt (by decide) h]
  exact if_pos (lt_limit h (by decide))

theorem exists_wholeOfInt {bits : Nat} (hbits : bits < 1024) {n : Int} (h : n.natAbs < 2 ^ bits) :
    ∃ whole, wholeOfInt n = .ok whole := by
  refine ⟨(Binary.rounded 53 ⟨n, 0⟩).floor, ?_⟩
  rw [wholeOfInt]
  refine if_pos (lt_limit ?_ (Nat.succ_le_of_lt hbits))
  by_cases hn : n = 0
  · rw [hn]
    exact Nat.pow_pos Nat.two_pos
  · calc (Binary.rounded 53 ⟨n, 0⟩).floor.natAbs
        ≤ 2 * n.natAbs := Binary.natAbs_floor_rounded_le (by decide) hn
      _ < 2 * 2 ^ bits := by omega
      _ = 2 ^ (bits + 1) := Nat.pow_succ'.symm

end Double

end TurtleGraphics
