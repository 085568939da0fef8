/-! # Sets of code points as sorted ranges

Each range gives its first and last code point; a character belongs to the set when some range
holds it.
-/

namespace TurtleGraphics.Text

/-- A set of code points, written as inclusive ranges in increasing order. -/
abbrev Ranges := Array (Nat × Nat)

def Ranges.holds (set : Ranges) (point : Nat) : Bool :=
  set.any fun (first, last) => first ≤ point && point ≤ last

end TurtleGraphics.Text
