import TurtleGraphics.Number.Shortest

/-! # Rounded decimals

A double is exactly a decimal, but often one of many digits. Here it is rounded to a number of
significant digits, or to a number of decimals, and the even neighbour is taken halfway between two.
-/

namespace TurtleGraphics.Decimal

/-- The integer nearest to `num / den`, the even one of two. -/
def nearestQuotient (num den : Nat) : Nat :=
  let below := num / den
  let twiceRest := 2 * (num % den)
  if twiceRest < den ∨ (twiceRest = den ∧ below % 2 = 0) then below else below + 1

/-- No double has more significant digits than this. -/
def significantDigits : Nat := 767

/-- Exactly `count` significant digits nearest to `significand * 2 ^ exponent`, for a double. Zero
    counts as a number with one digit before the point. -/
def rounded (count significand : Nat) (exponent : Int) : Decimal :=
  let num := significand * Nat.pow 2 exponent.toNat
  let den := Nat.pow 2 (-exponent).toNat
  if significand = 0 then ⟨List.replicate count '0', 1⟩
  else
    let kept := min count significantDigits
    let point := pointOf num den
    let scale := point - kept
    let n := nearestQuotient (num * Nat.pow 10 (-scale).toNat) (den * Nat.pow 10 scale.toNat)
    -- Rounding up may reach the next power of ten.
    let (digits, point) :=
      if n = Nat.pow 10 kept then ('1' :: List.replicate (kept - 1) '0', point + 1)
      else (Nat.toDigits 10 n, point)
    ⟨digits ++ List.replicate (count - kept) '0', point⟩

/-- The digits before the point, and `count` digits after it, nearest to `significand * 2 ^
    exponent`. There are no more decimals than halvings. -/
def withDecimals (count significand : Nat) (exponent : Int) : List Char × List Char :=
  let kept := min count (-exponent).toNat
  let num := significand * Nat.pow 2 exponent.toNat * Nat.pow 10 kept
  let n := nearestQuotient num (Nat.pow 2 (-exponent).toNat)
  let digits := Text.padLeft '0' (kept + 1) (Nat.toDigits 10 n)
  (digits.take (digits.length - kept),
    digits.drop (digits.length - kept) ++ List.replicate (count - kept) '0')

/-- The digits before the point, at least one, and those after it. The point lies between the first
    digit and the last, or before the first. -/
def split (d : Decimal) : List Char × List Char :=
  if d.point ≤ 0 then (['0'], List.replicate (-d.point).toNat '0' ++ d.digits)
  else (d.digits.take d.point.toNat, d.digits.drop d.point.toNat)

def dropZeros (digits : List Char) : List Char :=
  (digits.reverse.dropWhile (· = '0')).reverse

end TurtleGraphics.Decimal
