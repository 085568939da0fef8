/-! # Runs of letters

Most letters have one counterpart in the other case. It lies at the same distance for a whole run of
letters, or for every second letter of the run.
-/

namespace TurtleGraphics.Text

/-- The letters `first`, `first + stride`, … `last`, whose counterparts lie `offset` further on. -/
structure LetterRun where
  /-- Code point of the first letter. -/
  first : Nat
  /-- Code point of the last letter. -/
  last : Nat
  /-- Distance from one letter of the run to the next. -/
  stride : Nat
  /-- Distance from a letter to its counterpart. -/
  offset : Int
  deriving Repr, DecidableEq

namespace LetterRun

def holds (run : LetterRun) (point : Nat) : Bool :=
  run.first ≤ point && point ≤ run.last && (point - run.first) % run.stride == 0

/-- The counterpart of a letter in one of several runs. -/
def counterpart? (runs : Array LetterRun) (c : Char) : Option Char :=
  (runs.find? fun run => run.holds c.toNat).map fun run =>
    Char.ofNat ((c.toNat : Int) + run.offset).toNat

end LetterRun

end TurtleGraphics.Text
