import TurtleGraphics.Color
import TurtleGraphics.Text.Phrase

/-! # Settings

Everything that can be adjusted, with the values that apply where nothing else is said.
-/

namespace TurtleGraphics

/-- The size of the drawing area in pixels. -/
structure CanvasSettings where
  width : Int := 640
  height : Int := 480
  deriving Repr, DecidableEq

/-- How the turtle starts, and the marker that shows where it ends. -/
structure TurtleSettings where
  /-- Home position from the left. -/
  homeX : Int := 320
  /-- Home position from the top. -/
  homeY : Int := 240
  /-- The first background color. -/
  paper : Color := .black
  /-- The pen's first color. -/
  ink : Color := .white
  /-- Distance from the turtle to the corners of its marker. -/
  glyphSize : Int := 10
  glyphColor : Color := .red
  deriving Repr, DecidableEq

/-- How source text is read. -/
structure LexerSettings where
  /-- What starts a comment; only a single character can be used. -/
  commentSymbol : Phrase := Phrase.ofString "#"
  /-- Whether each token is reported. -/
  debug : Bool := false
  deriving Repr, DecidableEq

/-- Limits and switches for running and compiling. -/
structure EngineSettings where
  /-- Slots of the loop stack, two for each open loop. -/
  stackCapacity : Int := 256
  /-- How often a loop may run at most. -/
  maxRepeat : Int := 65535
  /-- Whether each command is reported. -/
  trace : Bool := false
  /-- Whether headings stay within a full turn from zero up. -/
  normalizeAngle : Bool := true
  deriving Repr, DecidableEq

/-- What is written to the log, and where. -/
structure LogSettings where
  /-- The name of the least severe level that is written. -/
  level : String := "INFO"
  /-- Whether the log file holds JSON. -/
  json : Bool := false
  /-- Whether a terminal shows colors. -/
  color : Bool := true
  /-- The log file, if there is one. -/
  file : Option Phrase := none
  deriving Repr, DecidableEq

/-- All settings. -/
structure Settings where
  /-- The drawing area. -/
  canvas : CanvasSettings := {}
  turtle : TurtleSettings := {}
  lexer : LexerSettings := {}
  /-- Running and compiling. -/
  engine : EngineSettings := {}
  /-- The pixels of each color. -/
  palette : Palette := Palette.standard
  logging : LogSettings := {}

end TurtleGraphics
