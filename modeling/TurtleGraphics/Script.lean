import TurtleGraphics.Command

/-! # Script statements

A compiled program is a script with one statement a line. Loops count with variables of their own,
numbered in the order in which the loops open.
-/

namespace TurtleGraphics

/-- One statement of a script. -/
inductive Statement where
  | home
  | paper (color : Color)
  | ink (color : Color)
  | pen (down : Bool)
  | forward (step : Int)
  | back (step : Int)
  | left (degrees : Int)
  | right (degrees : Int)
  /-- Open a block that runs `count` times and counts with variable number `counter`. -/
  | openLoop (counter : Nat) (count : Int)
  | closeLoop
  deriving Repr, DecidableEq

namespace Statement

def counterName (counter : Nat) : String :=
  "v" ++ toString counter

def call (function : String) (argument : Int) : String :=
  function ++ "(" ++ toString argument ++ ");"

/-- The statement as a line, without its end. -/
def text : Statement → String
  | .home => "home();"
  | .paper color => "paper = '" ++ color.css ++ "';"
  | .ink color => "ink = '" ++ color.css ++ "';"
  | .pen true => "pendown = true;"
  | .pen false => "pendown = false;"
  | .forward step => call "forward" step
  | .back step => call "back" step
  | .left degrees => call "left" degrees
  | .right degrees => call "right" degrees
  | .openLoop counter count =>
    let v := counterName counter
    "for (let " ++ v ++ " = 0; " ++ v ++ " < " ++ toString count ++ "; ++" ++ v ++ ") \x7b"
  | .closeLoop => "\x7d"

/-- The statement of a command, where `opened` loops were opened before it. -/
def ofCommand (opened : Nat) : Command → Statement
  | .home => .home
  | .paper color => .paper color
  | .ink color => .ink color
  | .pen down => .pen down
  | .forward step => .forward step
  | .back step => .back step
  | .left degrees => .left degrees
  | .right degrees => .right degrees
  | .repeat count => .openLoop (opened + 1) count
  | .loop => .closeLoop

/-- How many loops the statement opens. -/
def opens : Statement → Nat
  | .openLoop _ _ => 1
  | _ => 0

def line (statement : Statement) : String :=
  statement.text ++ "\n"

end Statement

/-- Statements in order. -/
abbrev Script := List Statement

namespace Script

/-- The script of commands, where `opened` loops were opened before them. -/
def ofCommands (opened : Nat) : List Command → Script
  | [] => []
  | command :: rest =>
    let statement := Statement.ofCommand opened command
    statement :: ofCommands (opened + statement.opens) rest

/-- The text of a script, one line for each statement. -/
def text (script : Script) : String :=
  String.join (script.map Statement.line)

end Script

end TurtleGraphics
