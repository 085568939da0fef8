/-! # Hexadecimal digits -/

namespace TurtleGraphics.Text

/-- Digits filled up with zeros on the left to at least `width` characters. -/
def padLeft (fill : Char) (width : Nat) (digits : List Char) : List Char :=
  List.replicate (width - digits.length) fill ++ digits

/-- A number in lower-case hexadecimal digits, at least `width` of them. -/
def hexadecimal (width : Nat) (n : Nat) : String :=
  String.ofList (padLeft '0' width (Nat.toDigits 16 n))

def hexDigit? (c : Char) : Option Nat :=
  if '0' ≤ c ∧ c ≤ '9' then some (c.toNat - '0'.toNat)
  else if 'a' ≤ c ∧ c ≤ 'f' then some (c.toNat - 'a'.toNat + 10)
  else if 'A' ≤ c ∧ c ≤ 'F' then some (c.toNat - 'A'.toNat + 10)
  else none

end TurtleGraphics.Text
