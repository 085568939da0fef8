import TurtleGraphics.Number.Literal
import TurtleGraphics.Proofs.Number.Scientific
import TurtleGraphics.Proofs.Text.Characters

/-! # Digits

Digits write a natural number, and digits with a power of ten are read as the double that this
number is rounded to.
-/

namespace TurtleGraphics.Double

open Float.Model Float.Model.UnpackedFloat

variable {digits : List Char}

/-! ## Natural numbers in digits -/

theorem naturalOf_append (digits more : List Char) :
    naturalOf (digits ++ more) = naturalOf digits * 10 ^ more.length + naturalOf more := by
  change Nat.ofDigitChars 10 (digits ++ more) 0 = Nat.ofDigitChars 10 digits 0 * _ +
    Nat.ofDigitChars 10 more 0
  rw [Nat.ofDigitChars_append, Nat.ofDigitChars_eq_ofDigitChars_zero, Nat.mul_comm]

theorem naturalOf_replicate (n : Nat) : naturalOf (List.replicate n '0') = 0 := by
  change Nat.ofDigitChars 10 _ 0 = 0
  rw [Nat.ofDigitChars_replicate_zero, Nat.mul_zero]

theorem naturalOf_toDigits (n : Nat) : naturalOf (Nat.toDigits 10 n) = n :=
  Nat.ofDigitChars_ten_toDigits

theorem naturalOf_cons (c : Char) (rest : List Char) :
    naturalOf (c :: rest) = (c.toNat - '0'.toNat) * 10 ^ rest.length + naturalOf rest := by
  have := naturalOf_append [c] rest
  simpa [naturalOf] using this

theorem naturalOf_lt (h : ∀ c ∈ digits, c.isDigit = true) :
    naturalOf digits < 10 ^ digits.length := by
  induction digits with
  | nil => decide
  | cons c rest ih =>
      rw [List.forall_mem_cons] at h
      obtain ⟨-, high⟩ := Text.toNat_of_isDigit h.1
      have small := ih h.2
      have digit : c.toNat - '0'.toNat ≤ 9 := by
        change c.toNat - 48 ≤ 9
        omega
      have := Nat.mul_le_mul_right (10 ^ rest.length) digit
      rw [naturalOf_cons, List.length_cons, Nat.pow_succ]
      omega

theorem le_naturalOf {c : Char} {rest : List Char} (hc : c.isDigit = true) (hzero : c ≠ '0') :
    10 ^ rest.length ≤ naturalOf (c :: rest) := by
  have digit : 1 ≤ c.toNat - '0'.toNat := by
    obtain ⟨low, -⟩ := Text.toNat_of_isDigit hc
    have : c.toNat ≠ '0'.toNat := fun same => hzero (Char.toNat_inj.mp same)
    change c.toNat ≠ 48 at this
    change 1 ≤ c.toNat - 48
    omega
  rw [naturalOf_cons]
  have := Nat.mul_le_mul_right (10 ^ rest.length) digit
  omega

theorem naturalOf_dropWhile_zero (digits : List Char) :
    naturalOf (digits.dropWhile (· = '0')) = naturalOf digits := by
  induction digits with
  | nil => rfl
  | cons c rest ih =>
      by_cases hc : c = '0'
      · rw [List.dropWhile_cons_of_pos (by simpa using hc), ih, naturalOf_cons, hc]
        simp
      · rw [List.dropWhile_cons_of_neg (by simpa using hc)]

/-! ## Doubles in digits -/

variable {x : Float} {m : Nat} {e : Int} {hm : 0 < m} {z : ℚ}

theorem two_zpow_le_ten : (2 : ℚ) ^ (1197 : Int) ≤ 10 ^ (399 : Int) := by
  rw [show (1197 : Int) = 9 * 133 by rfl, show (399 : Int) = 3 * 133 by rfl, zpow_mul, zpow_mul]
  exact zpow_le_zpow_left₀ (by norm_num) (by norm_num) (by norm_num)

theorem RoundsTo.between (h : RoundsTo m e z) (hcanonical : Canonical (.finite .positive m e hm)) :
    10 ^ (-399 : Int) ≤ z ∧ z < 10 ^ (399 : Int) := by
  obtain ⟨hmantissa, hleast, hgreatest, -⟩ := hcanonical
  have unit : (0 : ℚ) < 2 ^ e := by positivity
  have whole : (1 : ℚ) ≤ m := by exact_mod_cast hm
  have reach := reachBelow_le m e
  constructor
  · calc (10 : ℚ) ^ (-399 : Int) ≤ 2 ^ (-1197 : Int) := by
          rw [zpow_neg, zpow_neg]
          exact inv_anti₀ (by positivity) two_zpow_le_ten
      _ ≤ 2 ^ (e - 1) := zpow_le_zpow_right₀ one_le_two (by omega)
      _ = 1 / 2 * 2 ^ e := by rw [zpow_sub_one₀ two_ne_zero]; ring
      _ ≤ (m - reachBelow m e) * 2 ^ e := mul_le_mul_of_nonneg_right (by linarith) unit.le
      _ ≤ z := h.low
  · calc z < 2 ^ (e + 53) := h.lt hmantissa
      _ ≤ 2 ^ (1197 : Int) := zpow_le_zpow_right₀ one_le_two (by omega)
      _ ≤ 10 ^ (399 : Int) := two_zpow_le_ten

theorem RoundsTo.scale_between {n k : Nat} {scale : Int} (h : RoundsTo m e (n * 10 ^ scale))
    (hcanonical : Canonical (.finite .positive m e hm)) (hfew : 10 ^ k ≤ n)
    (hmany : n < 10 ^ (k + 1)) :
    scale + k < 399 ∧ -399 < scale + (k + 1) := by
  obtain ⟨low, high⟩ := h.between hcanonical
  have unit : (0 : ℚ) < 10 ^ scale := by positivity
  have least : (10 : ℚ) ^ (scale + k) < 10 ^ (399 : Int) := by
    rw [zpow_add₀ (by norm_num), zpow_natCast, mul_comm]
    refine lt_of_le_of_lt ?_ high
    gcongr
    exact_mod_cast hfew
  have greatest : (10 : ℚ) ^ (-399 : Int) < 10 ^ (scale + (k + 1)) := by
    rw [zpow_add₀ (by norm_num), mul_comm]
    refine low.trans_lt ?_
    gcongr
    exact_mod_cast hmany
  exact ⟨(zpow_lt_zpow_iff_right₀ (by norm_num)).mp least,
    (zpow_lt_zpow_iff_right₀ (by norm_num)).mp greatest⟩

/-- Digits are read as the double that their number is rounded to. -/
theorem ofDigits_of_roundsTo (hx : x.toModel.unpack = .finite .positive m e hm)
    (hdigits : ∀ c ∈ digits, c.isDigit = true) {scale : Int} (hscale : scale.natAbs ≤ 2048)
    (h : RoundsTo m e (naturalOf digits * 10 ^ scale)) : ofDigits digits scale = x := by
  have canonical := canonical_of_isFinite (x := x) (by rw [hx]; rfl)
  rw [hx] at canonical
  rw [← naturalOf_dropWhile_zero] at h
  unfold ofDigits
  dsimp only
  cases hsignificant : digits.dropWhile (· = '0') with
  | nil =>
      have := h.pos hm
      simp [hsignificant, naturalOf] at this
  | cons c rest =>
      have significant : ∀ b ∈ c :: rest, b.isDigit = true := fun b hb =>
        hdigits b (List.dropWhile_subset _ (hsignificant ▸ hb))
      have leading : c ≠ '0' := by
        simpa [hsignificant] using List.head_dropWhile_not (· = '0') (l := digits)
          (by simp [hsignificant])
      rw [hsignificant] at h
      obtain ⟨less, more⟩ :=
        h.scale_between canonical (le_naturalOf (significant c List.mem_cons_self) leading)
        (naturalOf_lt significant)
      rw [List.length_cons, if_neg (by simp; omega), if_neg (by push_cast; omega)]
      refine ofScientific_of_roundsTo hx hscale ?_
      by_cases down : scale < 0
      · have same : (10 : ℚ) ^ scale = (10 ^ scale.natAbs)⁻¹ := by
          rw [← zpow_natCast, ← zpow_neg]
          congr 1
          omega
        rwa [if_pos (by simpa using down), div_eq_mul_inv, ← same]
      · have same : (10 : ℚ) ^ scale = 10 ^ scale.natAbs := by
          rw [← zpow_natCast]
          congr 1
          omega
        rwa [if_neg (by simpa using down), ← same]

end TurtleGraphics.Double
