import TurtleGraphics.Color
import TurtleGraphics.Datum.Printer

/-! # Faults in settings -/

namespace TurtleGraphics

/-- Why data cannot be used as settings. -/
inductive SettingsFault where
  | rootNotMapping (got : Datum)
  | sectionNotMapping (name : String) (got : Datum)
  | notAnInteger (place : String) (got : Datum)
  | notABoolean (place : String) (got : Datum)
  | unknownColor (place : String) (got : Datum)
  | symbolNotSingle (got : Datum)
  | symbolReserved (symbol : Phrase)
  | unknownPaletteColor (name : Phrase)
  | notRgb (name : String) (got : Datum)
  | unknownLevel (name : Phrase)
  | canvasNotPositive (width height : Int)
  | homeOutside (x y width height : Int)
  | glyphNotPositive (size : Int)
  | capacityNotEven (capacity : Int)
  | repeatNotPositive (limit : Int)

namespace SettingsFault

/-- The names of all colors, as messages list them. -/
def colorNames : String :=
  (Datum.list (Color.all.map fun color => Datum.text color.css)).quoted

def size (width height : Int) : String :=
  toString width ++ "x" ++ toString height

def message : SettingsFault → String
  | .rootNotMapping got => "Configuration root must be a mapping, got " ++ got.kindName
  | .sectionNotMapping name got =>
    "Section '" ++ name ++ "' must be a mapping, got " ++ got.kindName
  | .notAnInteger place got => place ++ " must be an integer, got " ++ got.quoted
  | .notABoolean place got => place ++ " must be a boolean, got " ++ got.quoted
  | .unknownColor place got =>
    place ++ ": unknown color " ++ got.quoted ++ ". Available: " ++ colorNames
  | .symbolNotSingle got =>
    "lexer.comment_symbol must be a single character, got " ++ got.quoted
  | .symbolReserved symbol =>
    "lexer.comment_symbol cannot be a letter, digit, blank or quote, got " ++ symbol.quoted
  | .unknownPaletteColor name => "palette: unknown color " ++ name.quoted
  | .notRgb name got =>
    "palette." ++ name ++ " must be a list of three integers in [0, 255], got " ++ got.quoted
  | .unknownLevel name => "logging.level: unknown level " ++ name.quoted
  | .canvasNotPositive width height =>
    "canvas size must be positive, got " ++ size width height
  | .homeOutside x y width height =>
    "turtle home (" ++ toString x ++ ", " ++ toString y ++ ") lies outside the " ++
      size width height ++ " canvas"
  | .glyphNotPositive size => "turtle.glyph_size_px must be > 0, got " ++ toString size
  | .capacityNotEven capacity =>
    "engine.stack_capacity must be a positive even number, got " ++ toString capacity
  | .repeatNotPositive limit => "engine.max_repeat must be > 0, got " ++ toString limit

end SettingsFault

end TurtleGraphics
