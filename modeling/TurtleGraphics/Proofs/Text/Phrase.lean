import Mathlib.Data.List.TakeWhile
import TurtleGraphics.Files.Name

/-! # Phrases and text

A phrase without halves of surrogate pairs is text. A name with such a half has one on every path
that is made of it, so that no file system takes it.
-/

namespace TurtleGraphics

namespace CodePoint

theorem isHalf_ofChar (c : Char) : (ofChar c).isHalf = false := by
  have valid := c.valid
  simp only [UInt32.isValidChar, Nat.isValidChar] at valid
  simp only [isHalf, Bool.and_eq_false_imp, decide_eq_true_eq, decide_eq_false_iff_not]
  change 0xd800 ≤ c.val.toNat → ¬c.val.toNat < 0xe000
  omega

theorem char?_ofChar (c : Char) : (ofChar c).char? = some c := by
  rw [char?, isHalf_ofChar]
  simp [ofChar]

theorem number_of_char? {p : CodePoint} (h : p.char? = none) :
    0xd800 ≤ p.number ∧ p.number < 0xe000 := by
  unfold char? at h
  split at h
  · rename_i half
    simpa [isHalf] using half
  · cases h

theorem ofChar_of_char? {p : CodePoint} {c : Char} (h : p.char? = some c) : ofChar c = p := by
  unfold char? at h
  split at h
  · cases h
  · rename_i whole
    cases h
    obtain ⟨n, hn⟩ := p
    have valid : n.isValidChar := by
      simp only [isHalf, Bool.and_eq_true, decide_eq_true_eq] at whole
      simp only [Nat.isValidChar]
      omega
    have number : (Char.ofNat n).toNat = n := by
      rw [Char.ofNat, dif_pos valid]
      rfl
    simp [ofChar, number]

theorem ofChar_eq_iff {p : CodePoint} {c : Char} : ofChar c = p ↔ p.char? = some c :=
  ⟨fun h => h ▸ char?_ofChar c, ofChar_of_char?⟩

theorem ofChar_injective : Function.Injective ofChar := fun c d h => by
  simpa [char?_ofChar] using congrArg char? h

end CodePoint

namespace Phrase

variable {phrase other : Phrase} {p : CodePoint}

def IsText (phrase : Phrase) : Prop :=
  ∀ p ∈ phrase, p.isHalf = false

theorem isText_ofString (text : String) : IsText (ofString text) := by
  intro p hp
  obtain ⟨c, -, rfl⟩ := List.mem_map.mp hp
  exact CodePoint.isHalf_ofChar c

end Phrase

end TurtleGraphics
