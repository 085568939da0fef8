import TurtleGraphics.Canvas

/-! # Pictures

A picture is a rectangle of pixels that is to be saved, in gray or in color.
-/

namespace TurtleGraphics

/-- What a pixel of a picture says. -/
inductive PictureMode where
  | gray
  | rgb
  deriving Repr, DecidableEq

namespace PictureMode

def name : PictureMode → String
  | .gray => "L"
  | .rgb => "RGB"

end PictureMode

/-- A rectangle of pixels; a gray pixel has three equal amounts. -/
structure Picture where
  /-- What a pixel says. -/
  mode : PictureMode
  width : Nat
  height : Nat
  rows : List (List Rgb)
  deriving Repr, DecidableEq

namespace Picture

def ofCanvas (canvas : Canvas) : Picture :=
  ⟨.rgb, canvas.width, canvas.height, canvas.rows⟩

end Picture

end TurtleGraphics
