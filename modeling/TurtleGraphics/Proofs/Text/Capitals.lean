import Mathlib
import TurtleGraphics.Color
import TurtleGraphics.Keyword
import TurtleGraphics.Proofs.Text.Phrase

/-! # Letters of either size

Keywords, colors and the states of the pen are looked up by their capitals. So they are found alike
in all texts that have the same capitals, and in particular where letters of ASCII are exchanged for
their capitals.
-/

namespace TurtleGraphics

namespace Text

/-- The characters have the same capitals as those that they are exchanged for. -/
def KeepsCapitals (f : Char → Char) : Prop :=
  ∀ c, capitalOf (f c) = capitalOf c

theorem toNat_lt_of_isAlpha {c : Char} (h : c.isAlpha) : c.toNat < 0x80 := by
  have capital : 'Z'.val.toNat = 90 := rfl
  have small : 'z'.val.toNat = 122 := rfl
  simp only [Char.isAlpha, Char.isUpper, Char.isLower, Bool.or_eq_true, Bool.and_eq_true,
    decide_eq_true_eq, UInt32.le_iff_toNat_le, ge_iff_le] at h
  rw [Char.toNat]
  omega

theorem isAlpha_of_isLower {c : Char} (h : c.isLower) : c.isAlpha ∧ c.toUpper.isAlpha := by
  have letter : c.isAlpha := by simp [Char.isAlpha, h]
  exact ⟨letter, by rwa [Char.isAlpha_toUpper_eq_isAlpha]⟩

theorem keepsCapitals_toUpper : KeepsCapitals Char.toUpper := by
  intro c
  by_cases hlower : c.isLower
  · obtain ⟨letter, capital⟩ := isAlpha_of_isLower hlower
    rw [capitalOf, capitalOf, if_pos (toNat_lt_of_isAlpha letter),
      if_pos (toNat_lt_of_isAlpha capital), Char.toUpper_toUpper_eq_toUpper]
  · rw [Char.toUpper_eq_of_not_isLower hlower]

variable {f : Char → Char}

theorem uppercase_map (hf : KeepsCapitals f) (text : String) :
    uppercase (String.ofList (text.toList.map f)) = uppercase text := by
  rw [uppercase, uppercase, String.toList_ofList, List.flatMap_map]
  simp only [hf _]

theorem uppercase_toUpper (text : String) : uppercase text.toUpper = uppercase text := by
  rw [uppercase, uppercase, String.toUpper, String.toList_map, List.flatMap_map]
  simp only [keepsCapitals_toUpper _]

end Text

variable {f : Char → Char}

theorem Keyword.ofName?_map (hf : Text.KeepsCapitals f) (text : String) :
    ofName? (String.ofList (text.toList.map f)) = ofName? text := by
  rw [ofName?, ofName?, Text.uppercase_map hf]

theorem Color.ofName?_map (hf : Text.KeepsCapitals f) (text : String) :
    ofName? (String.ofList (text.toList.map f)) = ofName? text := by
  rw [ofName?, ofName?, Text.uppercase_map hf]

theorem penState?_map (hf : Text.KeepsCapitals f) (text : String) :
    penState? (String.ofList (text.toList.map f)) = penState? text := by
  rw [penState?, penState?, Text.uppercase_map hf]

/-! ## Names in phrases -/

/-- The phrase is a name in letters of either size, which is known by its capitals. -/
def Phrase.Spells (phrase : Phrase) (capitals : String) : Prop :=
  ∃ text : String, phrase = Phrase.ofString text ∧ text.toUpper = capitals

namespace Phrase

theorem toString?_ofString (text : String) : toString? (ofString text) = some text := by
  have chars (cs : List Char) : (cs.map CodePoint.ofChar).mapM CodePoint.char? = some cs := by
    induction cs with
    | nil => rfl
    | cons c cs ih => simp [CodePoint.char?_ofChar, ih]
  rw [toString?, ofString, chars, Option.map_some, String.ofList_toList]

theorem uppercase_ofString (text : String) :
    uppercase (ofString text) = ofString (Text.uppercase text) := by
  rw [uppercase, ofString, List.flatMap_map, ofString, Text.uppercase, String.toList_ofList,
    List.map_flatMap]
  refine List.flatMap_congr fun c _ => ?_
  rw [CodePoint.capital, CodePoint.char?_ofChar]

variable {phrase : Phrase}

theorem Spells.color {color : Color} (h : phrase.Spells color.name) :
    phrase.toString?.bind Color.ofName? = some color := by
  obtain ⟨text, rfl, hcapitals⟩ := h
  have found : Color.ofName? color.name = some color := by cases color <;> decide +kernel
  rw [toString?_ofString, Option.bind_some, Color.ofName?, ← Text.uppercase_toUpper, hcapitals]
  exact found

end Phrase

end TurtleGraphics
