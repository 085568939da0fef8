import TurtleGraphics.Execution
import TurtleGraphics.Source

/-! # The interpreter

An interpreter keeps its turtle and its surface from one run to the next. Everything else starts
afresh with each program; source text that has a fault changes nothing.
-/

namespace TurtleGraphics

/-- A turtle on a surface, and the counters of its last run. -/
structure Interpreter where
  settings : Settings
  /-- How far its moves lead. -/
  stride : Stride
  /-- Whether each command is reported. -/
  trace : Bool
  /-- Where drawing calls go. -/
  surface : Surface
  /-- The turtle, and what the last run left. -/
  execution : Execution

/-- Why a run gave no result. -/
inductive InterpreterFault where
  | source (fault : SourceFault)
  | run (fault : RunFault)
  deriving Repr, DecidableEq

/-- A run by an interpreter. -/
structure InterpreterRun where
  /-- Why there is no result, if there is none. -/
  fault : Option InterpreterFault
  /-- The interpreter after the run. -/
  interpreter : Interpreter
  /-- What there is to say, in order. -/
  notices : List Notice

namespace Interpreter

/-- An interpreter before its first run, if there is memory for its stack. Commands are reported as
    `trace` says, or else as the settings say. -/
def start (settings : Settings) (trace : Option Bool) (surface : Surface) (memory : Memory) :
    Except CapacityFault Interpreter := do
  let stack ← LoopStack.ofCapacity settings.engine.stackCapacity memory
  return {
    settings
    stride := Turtle.displacement
    trace := trace.getD settings.engine.trace
    surface
    execution := ⟨.initial settings.turtle, stack, 0, 0, 0, #[]⟩ }

def turtle (interpreter : Interpreter) : Turtle :=
  interpreter.execution.turtle

def runProgram (interpreter : Interpreter) (p : Program) : InterpreterRun :=
  match interpreter with
  | ⟨settings, stride, trace, surface, execution⟩ =>
    match execution.fresh.run settings stride trace p surface with
    | ⟨ending, after, surface⟩ =>
      let interpreter : Interpreter := ⟨settings, stride, trace, surface, after⟩
      let begun := after.traced.toList.map Notice.began
      match ending with
      | .failed fault => ⟨some (.run fault), interpreter, begun⟩
      | _ => ⟨none, interpreter, begun ++ [.ran after.commands after.lines]⟩

def run (interpreter : Interpreter) (source : String) : InterpreterRun :=
  match interpreter.settings.lexer.read source with
  | ⟨.error fault, notices⟩ => ⟨some (.source fault), interpreter, notices⟩
  | ⟨.ok p, notices⟩ =>
    let result := interpreter.runProgram p
    { result with notices := notices ++ result.notices }

def resetSurface (interpreter : Interpreter) : Interpreter :=
  { interpreter with surface := interpreter.surface.reset }

def drawTurtle (interpreter : Interpreter) (size : Option Float)
    (trigonometry : Trigonometry := .standard) : Interpreter × Option DrawFault :=
  match interpreter with
  | ⟨settings, stride, trace, surface, execution⟩ =>
    let drawn :=
      match size with
      | some size => surface.drawGlyph settings.turtle execution.turtle size trigonometry
      | none => surface.drawTurtle settings.turtle execution.turtle trigonometry
    (⟨settings, stride, trace, drawn.1, execution⟩, drawn.2)

end Interpreter

end TurtleGraphics
