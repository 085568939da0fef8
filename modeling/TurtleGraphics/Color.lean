import TurtleGraphics.Text.Uppercase

/-! # The eight colors -/

namespace TurtleGraphics

/-- The named colors. -/
inductive Color where
  | black
  | white
  | red
  | green
  | blue
  | yellow
  | gray
  | magenta
  deriving Repr, DecidableEq

namespace Color

def all : List Color :=
  [.black, .white, .red, .green, .blue, .yellow, .gray, .magenta]

def index : Color → Nat
  | .black => 0
  | .white => 1
  | .red => 2
  | .green => 3
  | .blue => 4
  | .yellow => 5
  | .gray => 6
  | .magenta => 7

/-- The name in capitals, by which the color is looked up. -/
def name : Color → String
  | .black => "BLACK"
  | .white => "WHITE"
  | .red => "RED"
  | .green => "GREEN"
  | .blue => "BLUE"
  | .yellow => "YELLOW"
  | .gray => "GRAY"
  | .magenta => "MAGENTA"

/-- The name in small letters, as style sheets and scripts spell it. -/
def css : Color → String
  | .black => "black"
  | .white => "white"
  | .red => "red"
  | .green => "green"
  | .blue => "blue"
  | .yellow => "yellow"
  | .gray => "gray"
  | .magenta => "magenta"

/-- The color of a name in any mixture of capitals and small letters. -/
def ofName? (text : String) : Option Color :=
  all.find? fun color => color.name = Text.uppercase text

end Color

/-- A color as amounts of light. -/
structure Rgb where
  red : UInt8
  green : UInt8
  blue : UInt8
  deriving Repr, DecidableEq, Inhabited

/-- The pixels that stand for each color. -/
abbrev Palette := Color → Rgb

namespace Palette

/-- The palette that applies where settings give no other. -/
def standard : Palette
  | .black => ⟨0, 0, 0⟩
  | .white => ⟨255, 255, 255⟩
  | .red => ⟨255, 0, 0⟩
  | .green => ⟨0, 255, 0⟩
  | .blue => ⟨0, 0, 255⟩
  | .yellow => ⟨255, 255, 0⟩
  | .gray => ⟨136, 136, 136⟩
  | .magenta => ⟨255, 0, 255⟩

def set (palette : Palette) (color : Color) (rgb : Rgb) : Palette :=
  fun other => if other = color then rgb else palette other

end Palette

end TurtleGraphics
