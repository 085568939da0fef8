import TurtleGraphics.Text.Uppercase

/-! # Keywords

Ten words name the commands, and two more name the states of the pen.
-/

namespace TurtleGraphics

/-- The words that start a command. -/
inductive Keyword where
  | home
  | paper
  | ink
  | pen
  | «repeat»
  | loop
  | forward
  | back
  | left
  | right
  deriving Repr, DecidableEq

namespace Keyword

def all : List Keyword :=
  [.home, .paper, .ink, .pen, .repeat, .loop, .forward, .back, .left, .right]

def name : Keyword → String
  | .home => "HOME"
  | .paper => "PAPER"
  | .ink => "INK"
  | .pen => "PEN"
  | .repeat => "REPEAT"
  | .loop => "LOOP"
  | .forward => "FORWARD"
  | .back => "BACK"
  | .left => "LEFT"
  | .right => "RIGHT"

/-- The keyword that a word spells in any mixture of capitals and small letters. -/
def ofName? (text : String) : Option Keyword :=
  all.find? fun keyword => keyword.name = Text.uppercase text

end Keyword

/-- Whether the pen is down after the word, for the two words that name a state of the pen. -/
def penState? (text : String) : Option Bool :=
  if Text.uppercase text = "UP" then some false
  else if Text.uppercase text = "DOWN" then some true
  else none

end TurtleGraphics
