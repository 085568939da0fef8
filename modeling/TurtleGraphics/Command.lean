import TurtleGraphics.Color
import TurtleGraphics.Keyword

/-! # Commands -/

namespace TurtleGraphics

/-- A keyword with its parameter. -/
inductive Command where
  /-- Go to the home position and clear the drawing. -/
  | home
  /-- Choose the background color. -/
  | paper (color : Color)
  /-- Choose the pen's color. -/
  | ink (color : Color)
  /-- Lower or raise the pen. -/
  | pen (down : Bool)
  /-- Run what follows, up to the loop's end, `count` times. -/
  | «repeat» (count : Int)
  /-- The end of a loop. -/
  | loop
  /-- Move along the heading. -/
  | forward (step : Int)
  /-- Move against the heading. -/
  | back (step : Int)
  /-- Turn counter-clockwise. -/
  | left (degrees : Int)
  /-- Turn clockwise. -/
  | right (degrees : Int)
  deriving Repr, DecidableEq

namespace Command

def keyword : Command → Keyword
  | .home => .home
  | .paper _ => .paper
  | .ink _ => .ink
  | .pen _ => .pen
  | .repeat _ => .repeat
  | .loop => .loop
  | .forward _ => .forward
  | .back _ => .back
  | .left _ => .left
  | .right _ => .right

end Command

namespace Keyword

def takesParameter : Keyword → Bool
  | .home => false
  | .loop => false
  | _ => true

end Keyword

end TurtleGraphics
