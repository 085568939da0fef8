import Mathlib.Data.String.Basic

/-! # Characters of a text

A text is known by the characters it consists of. Printed numbers consist of digits and a sign.
-/

namespace TurtleGraphics.Text

theorem toNat_of_isDigit {c : Char} (h : c.isDigit = true) : 48 ≤ c.toNat ∧ c.toNat ≤ 57 := by
  simpa [Char.isDigit, UInt32.le_iff_toNat_le, ← Char.toNat_val] using h

theorem isDigit_of_mem_natText {n : Nat} {c : Char} (h : c ∈ (toString n).toList) :
    c.isDigit = true := by
  rw [show (toString n).toList = Nat.toDigits 10 n from Nat.toList_repr] at h
  apply Nat.isDigit_of_mem_toDigits _ _ h <;> decide

theorem digit_or_sign_of_mem_intText {n : Int} {c : Char} (h : c ∈ (toString n).toList) :
    c.isDigit = true ∨ c = '-' := by
  cases n with
  | ofNat n => exact .inl (isDigit_of_mem_natText h)
  | negSucc n =>
      rw [show toString (Int.negSucc n) = "-" ++ toString (n + 1) from rfl, String.toList_append,
        List.mem_append] at h
      exact h.symm.imp isDigit_of_mem_natText List.mem_singleton.mp

/-- All characters of the text satisfy a condition. -/
def Consists (p : Char → Bool) (text : String) : Prop :=
  ∀ c ∈ text.toList, p c = true

namespace Consists

variable {p : Char → Bool} {s t : String}

theorem ofList {chars : List Char} (h : chars.all p = true) : Consists p (String.ofList chars) := by
  intro c hc
  rw [String.toList_ofList] at hc
  exact List.all_eq_true.mp h c hc

theorem append (hs : Consists p s) (ht : Consists p t) : Consists p (s ++ t) := by
  intro c hc
  rw [String.toList_append] at hc
  exact (List.mem_append.mp hc).elim (hs c) (ht c)

theorem nat (hdigits : ∀ c : Char, c.isDigit = true → p c = true) (n : Nat) :
    Consists p (toString n) :=
  fun c hc => hdigits c (isDigit_of_mem_natText hc)

theorem int (hdigits : ∀ c : Char, c.isDigit = true → p c = true) (hsign : p '-' = true) (n : Int) :
    Consists p (toString n) := by
  intro c hc
  obtain digit | rfl := digit_or_sign_of_mem_intText hc
  · exact hdigits c digit
  · exact hsign

theorem notMem {c : Char} (h : Consists p s) (hc : p c = false) : c ∉ s.toList := by
  intro inside
  rw [h c inside] at hc
  cases hc

end Consists

end TurtleGraphics.Text
