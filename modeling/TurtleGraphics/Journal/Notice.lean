import TurtleGraphics.Journal.Level
import TurtleGraphics.Keyword
import TurtleGraphics.Turtle

/-! # Notices

A notice says one thing about the work on a program. Its level, the part of the toolchain that
speaks, and the wording all follow from what it says.
-/

namespace TurtleGraphics

/-- The three command-line tools. -/
inductive ToolName where
  /-- Writes a page that draws a program. -/
  | compile
  /-- Reports what a program does. -/
  | trace
  /-- Writes an image of what a program draws. -/
  | render
  deriving Repr, DecidableEq

namespace ToolName

def name : ToolName → String
  | .compile => "compile"
  | .trace => "trace"
  | .render => "render"

def all : List ToolName :=
  [.compile, .trace, .render]

def ofName? (name : String) : Option ToolName :=
  all.find? fun tool => tool.name = name

def speaker : ToolName → String
  | .compile => "logo_toolchain.scripts.compile_html"
  | .trace => "logo_toolchain.scripts.trace"
  | .render => "logo_toolchain.scripts.render_png"

end ToolName

/-- One thing to say about the work on a program. -/
inductive Notice where
  | token (remark : String)
  | built (steps lines : Nat)
  | began (keyword : Keyword)
  | compiled (commands statements : Nat)
  | ran (commands lines : Nat)
  | readSource (length : Nat)
  | gaveUp (tool : ToolName) (message : String)
  | wrotePage (path : String)
  | drew (segment : Segment) (ink : Color)
  | endedAt (turtle : Turtle)
  | totals (commands lines clears : Nat)
  | saved (width height : Int) (path : String)
  | rendered (lines : Nat)
  deriving Repr, DecidableEq

namespace Notice

def level : Notice → Level
  | .token _ => .debug
  | .built _ _ => .debug
  | .began _ => .info
  | .compiled _ _ => .debug
  | .ran _ _ => .debug
  | .readSource _ => .debug
  | .gaveUp _ _ => .error
  | .wrotePage _ => .info
  | .drew _ _ => .info
  | .endedAt _ => .info
  | .totals _ _ _ => .info
  | .saved _ _ _ => .info
  | .rendered _ => .info

def speaker : Notice → String
  | .token _ => "logo_toolchain.lang.lexer"
  | .built _ _ => "logo_toolchain.lang.program"
  | .began _ => "logo_toolchain.engine.walker"
  | .compiled _ _ => "logo_toolchain.engine.compiler"
  | .ran _ _ => "logo_toolchain.engine.interpreter"
  | .readSource _ => "logo_toolchain.scripts.common"
  | .gaveUp tool _ => tool.speaker
  | .wrotePage _ => ToolName.compile.speaker
  | .drew _ _ => ToolName.trace.speaker
  | .endedAt _ => ToolName.trace.speaker
  | .totals _ _ _ => ToolName.trace.speaker
  | .saved _ _ _ => "logo_toolchain.surfaces.raster"
  | .rendered _ => ToolName.render.speaker

def point (x y : Int) : String :=
  "(" ++ toString x ++ ", " ++ toString y ++ ")"

def message : Notice → String
  | .token remark => remark
  | .built steps lines =>
    "Built program of " ++ toString steps ++ " steps from " ++ toString lines ++ " lines"
  | .began keyword => "TRACE: " ++ keyword.name
  | .compiled commands statements =>
    "Compiled " ++ toString commands ++ " commands into " ++ toString statements ++ " statements"
  | .ran commands lines =>
    "Run complete: " ++ toString commands ++ " commands, " ++ toString lines ++ " lines drawn"
  | .readSource length => "Read " ++ toString length ++ " characters"
  | .gaveUp _ message => message
  | .wrotePage path => "Wrote " ++ path
  | .drew s ink => "LINE " ++ point s.x1 s.y1 ++ " -> " ++ point s.x2 s.y2 ++ " " ++ ink.css
  | .endedAt turtle =>
    "Final state: x=" ++ toString turtle.x ++ " y=" ++ toString turtle.y ++ " angle=" ++
      toString turtle.angle ++ " pen=" ++ (if turtle.penDown then "down" else "up") ++
      " paper=" ++ turtle.paper.css ++ " ink=" ++ turtle.ink.css
  | .totals commands lines clears =>
    toString commands ++ " commands, " ++ toString lines ++ " lines drawn, " ++ toString clears ++
      " clears"
  | .saved width height path =>
    "Saved " ++ toString width ++ "x" ++ toString height ++ " canvas to " ++ path
  | .rendered lines => toString lines ++ " lines drawn"

end Notice

end TurtleGraphics
