import TurtleGraphics.Canvas

/-! # Drawing surfaces

Running a program makes drawing calls. A surface takes them one by one: it forgets them, remembers
them, or paints them on a canvas.
-/

namespace TurtleGraphics

/-- What a running program asks a surface to do. -/
inductive DrawCall where
  | clear (paper : Color)
  | line (segment : Segment) (ink : Color)
  deriving Repr, DecidableEq

namespace DrawCall

def isLine : DrawCall → Bool
  | .clear _ => false
  | .line _ _ => true

/-- The line that the call draws, with its color. -/
def line? : DrawCall → Option (Segment × Color)
  | .clear _ => none
  | .line segment ink => some (segment, ink)

end DrawCall

/-- Where drawing calls go. -/
inductive Surface where
  /-- Every call is forgotten. -/
  | discard
  /-- Every call is remembered, in order. -/
  | record (calls : Array DrawCall)
  /-- Every call is painted, as far as there is memory for the samples of lines. -/
  | raster (palette : Palette) (canvas : Canvas) (memory : Memory)

namespace Surface

/-- The surface after a call, and why the call could not be painted, if it could not. -/
def draw : Surface → DrawCall → Surface × Option DrawFault
  | .discard, _ => (.discard, none)
  | .record calls, call => (.record (calls.push call), none)
  | .raster palette canvas memory, .clear paper =>
    (.raster palette (canvas.clear (palette paper)) memory, none)
  | .raster palette canvas memory, .line segment ink =>
    match canvas.drawLine memory (palette ink) segment with
    | (canvas, fault) => (.raster palette canvas memory, fault)

def calls : Surface → Array DrawCall
  | .record calls => calls
  | _ => #[]

def reset : Surface → Surface
  | .record _ => .record #[]
  | surface => surface

def canvas? : Surface → Option Canvas
  | .raster _ canvas _ => some canvas
  | _ => none

def rasterOf (settings : Settings) (memory : Memory) : Except TableFault Surface :=
  return .raster settings.palette (← Canvas.ofSettings settings memory) memory

def drawGlyph (settings : TurtleSettings) (turtle : Turtle) (size : Float) (surface : Surface)
    (trigonometry : Trigonometry := .standard) : Surface × Option DrawFault :=
  match surface with
  | .raster palette canvas memory =>
    match turtle.glyph size trigonometry with
    | .error fault => (.raster palette canvas memory, some (.number fault))
    | .ok segments =>
      match canvas.drawLines memory (palette settings.glyphColor) segments with
      | (canvas, fault) => (.raster palette canvas memory, fault)
  | surface => (surface, none)

def drawTurtle (settings : TurtleSettings) (turtle : Turtle) (surface : Surface)
    (trigonometry : Trigonometry := .standard) : Surface × Option DrawFault :=
  match Double.ofInt settings.glyphSize with
  | .error fault => (surface, some (.number fault))
  | .ok size => surface.drawGlyph settings turtle size trigonometry

end Surface

end TurtleGraphics
