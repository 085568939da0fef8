/-! # Phrases

Text from files is made of characters. Escapes may also write the two halves of a surrogate pair,
which have code points but are no characters. A phrase is text in which such a half may stand.
-/

namespace TurtleGraphics

/-- A character, or half of a surrogate pair. -/
structure CodePoint where
  number : Nat
  number_lt : number < 0x110000
  deriving Repr, DecidableEq

namespace CodePoint

theorem toNat_lt (c : Char) : c.toNat < 0x110000 := by
  have valid := c.valid
  simp only [UInt32.isValidChar, Nat.isValidChar] at valid
  simp only [Char.toNat]
  omega

def ofChar (c : Char) : CodePoint :=
  ⟨c.toNat, toNat_lt c⟩

/-- The code point of a number, if there is one. -/
def ofNat? (n : Nat) : Option CodePoint :=
  if h : n < 0x110000 then some ⟨n, h⟩ else none

def isHalf (p : CodePoint) : Bool :=
  0xd800 ≤ p.number && p.number < 0xe000

/-- The character; half of a pair is none. -/
def char? (p : CodePoint) : Option Char :=
  if p.isHalf then none else some (Char.ofNat p.number)

end CodePoint

/-- Text in which halves of surrogate pairs may stand. -/
abbrev Phrase := List CodePoint

namespace Phrase

def ofString (text : String) : Phrase :=
  text.toList.map .ofChar

/-- The characters of the phrase, if it has no half of a pair. -/
def toString? (phrase : Phrase) : Option String :=
  (phrase.mapM CodePoint.char?).map String.ofList

instance : Coe String Phrase := ⟨ofString⟩

end Phrase

end TurtleGraphics
