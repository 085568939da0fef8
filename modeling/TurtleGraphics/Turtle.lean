import TurtleGraphics.Number.Double
import TurtleGraphics.Settings

/-! # The turtle

The turtle stands on a pixel and looks along a heading in whole degrees. A move is computed in
doubles and lands on the nearest pixel.
-/

namespace TurtleGraphics

/-- A straight line between two pixels. -/
structure Segment where
  /-- Start from the left. -/
  x1 : Int
  /-- Start from the top. -/
  y1 : Int
  /-- End from the left. -/
  x2 : Int
  /-- End from the top. -/
  y2 : Int
  deriving Repr, DecidableEq

/-- Position, heading, pen and colors. -/
structure Turtle where
  /-- Position from the left. -/
  x : Int := 320
  /-- Position from the top. -/
  y : Int := 240
  /-- Heading in degrees from the positive x axis towards the positive y axis. -/
  angle : Int := 0
  /-- Whether moves draw. -/
  penDown : Bool := false
  paper : Color := .black
  /-- The pen's color. -/
  ink : Color := .white
  deriving Repr, DecidableEq

/-- The ratio of a circle to its diameter, as a double. -/
def circleRatio : Float := 3.141592653589793

def radians (degrees : Int) : Except NumberFault Float :=
  return (← Double.ofInt degrees) * (circleRatio / 180.0)

/-- How far a move of so many pixels along a heading leads in both directions. -/
abbrev Stride := Int → Int → Except NumberFault (Int × Int)

/-- The functions of an angle that moves are computed with. -/
structure Trigonometry where
  /-- The part of a move that goes along the x axis. -/
  cos : Float → Float
  /-- The part of a move that goes along the y axis. -/
  sin : Float → Float

namespace Trigonometry

/-- The functions of the machine. -/
def standard : Trigonometry :=
  ⟨Float.cos, Float.sin⟩

/-- Moves along a heading in whole degrees, to the nearest pixel. -/
def stride (trigonometry : Trigonometry) : Stride := fun angle step => do
  let direction ← radians angle
  let length ← Double.ofInt step
  let dx ← Double.roundHalfAway (length * trigonometry.cos direction)
  let dy ← Double.roundHalfAway (length * trigonometry.sin direction)
  return (dx, dy)

end Trigonometry

namespace Turtle

def initial (settings : TurtleSettings) : Turtle :=
  { x := settings.homeX, y := settings.homeY, paper := settings.paper, ink := settings.ink }

/-- The turtle at home, with heading zero and the pen up. It keeps its colors. -/
def home (settings : TurtleSettings) (turtle : Turtle) : Turtle :=
  { turtle with x := settings.homeX, y := settings.homeY, angle := 0, penDown := false }

/-- How far a move along a heading leads in both directions. -/
def displacement : Stride :=
  Trigonometry.standard.stride

def moveBy (turtle : Turtle) (dx dy : Int) : Turtle :=
  { turtle with x := turtle.x + dx, y := turtle.y + dy }

/-- The line from where the turtle stands to where a move leads. -/
def segmentBy (turtle : Turtle) (dx dy : Int) : Segment :=
  ⟨turtle.x, turtle.y, turtle.x + dx, turtle.y + dy⟩

/-- The turtle turned counter-clockwise. Headings are kept within a full turn: from zero up if
    `normalize` is set, else as the remainder that doubles leave, on the side of zero on which the
    turn ended. -/
def turn (normalize : Bool) (turtle : Turtle) (degrees : Int) : Except NumberFault Turtle :=
  let angle := turtle.angle + degrees
  if normalize then .ok { turtle with angle := angle % 360 }
  else
    match Double.wholeOfInt angle with
    | .error fault => .error fault
    | .ok whole => .ok { turtle with angle := Int.tmod whole 360 }

/-- The pixel at a distance from the turtle in a direction, cut off towards zero. -/
def pointAt (turtle : Turtle) (radius direction : Float)
    (trigonometry : Trigonometry := .standard) :
    Except NumberFault (Int × Int) := do
  let x ← Double.truncate ((← Double.ofInt turtle.x) + radius * trigonometry.cos direction)
  let y ← Double.truncate ((← Double.ofInt turtle.y) + radius * trigonometry.sin direction)
  return (x, y)

/-- The lines of the turtle's marker: a triangle whose apex lies along the heading, and a tick from
    the apex towards the middle. -/
def glyph (turtle : Turtle) (size : Float) (trigonometry : Trigonometry := .standard) :
    Except NumberFault (List Segment) := do
  let heading ← radians turtle.angle
  let third := 2.0 * circleRatio / 3.0
  let apex ← turtle.pointAt size heading trigonometry
  let nose ← turtle.pointAt (size / 8.0) heading trigonometry
  let left ← turtle.pointAt size (heading + third) trigonometry
  let right ← turtle.pointAt size (heading - third) trigonometry
  let join (start stop : Int × Int) : Segment := ⟨start.1, start.2, stop.1, stop.2⟩
  return [join apex left, join apex right, join left right, join apex nose]

end Turtle

end TurtleGraphics
