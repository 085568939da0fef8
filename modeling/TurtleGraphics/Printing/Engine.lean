import TurtleGraphics.Compiler
import TurtleGraphics.Interpreter
import TurtleGraphics.Page
import TurtleGraphics.Printing

/-! # What runs and compilations raise

A diagnostic is raised with its message, so a number that has no text raises the fault of its
printing instead. A statement is printed before it is written; one that cannot be printed ends the
compilation. A page shows the size of the canvas and where the turtle starts.
-/

namespace TurtleGraphics

namespace GrammarFault

/-- The numbers that the message shows. -/
def numbers : GrammarFault → List Int
  | .numberOutOfRange number => [number]
  | .countOutOfRange count limit => [count, limit]
  | _ => []

end GrammarFault

namespace Diagnostic

/-- The numbers that the message shows, the line last. -/
def numbers (d : Diagnostic) : List Int :=
  let shown :=
    match d.cause with
    | .grammatical fault => fault.numbers
    | _ => []
  shown ++ d.line.toList

def printFault? (d : Diagnostic) : Option PrintFault :=
  d.numbers.findSome? PrintFault.ofInt?

end Diagnostic

namespace Statement

/-- The numbers that the statement shows. -/
def numbers : Statement → List Int
  | .forward step => [step]
  | .back step => [step]
  | .left degrees => [degrees]
  | .right degrees => [degrees]
  | .openLoop counter count => [counter, count]
  | _ => []

def printFault? (statement : Statement) : Option PrintFault :=
  statement.numbers.findSome? PrintFault.ofInt?

end Statement

namespace SourceFault

def diagnostic? : SourceFault → Option Diagnostic
  | .symbol _ => none
  | .diagnostic d => some d

end SourceFault

namespace InterpreterFault

def diagnostic? : InterpreterFault → Option Diagnostic
  | .source fault => fault.diagnostic?
  | .run (.diagnostic d) => some d
  | .run _ => none

def raised (fault : InterpreterFault) : Raised InterpreterFault :=
  .of fault (fault.diagnostic?.bind Diagnostic.printFault?)

end InterpreterFault

namespace CompileFault

def diagnostic? : CompileFault → Option Diagnostic
  | .source fault => fault.diagnostic?
  | .diagnostic d => some d
  | .sink _ => none

def raised (fault : CompileFault) : Raised CompileFault :=
  .of fault (fault.diagnostic?.bind Diagnostic.printFault?)

end CompileFault

/-- What a run raises, if it raises something. -/
def InterpreterRun.raised (run : InterpreterRun) : Option (Raised InterpreterFault) :=
  run.fault.map InterpreterFault.raised

/-- The instructions up to the first whose statement cannot be printed, and that one with the
    reason. Before them `opened` loops were opened. -/
def Instruction.printed (opened : Nat) :
    List Instruction → List Instruction × Option (Instruction × PrintFault)
  | [] => ([], none)
  | i :: rest =>
    let statement := Statement.ofCommand opened i.command
    match statement.printFault? with
    | some fault => ([], some (i, fault))
    | none =>
      match Instruction.printed (opened + statement.opens) rest with
      | (front, stuck) => (i :: front, stuck)

/-- A compilation by a compiler that prints its statements. -/
structure PrintedRun where
  /-- What it raises, if it raises something. -/
  raised : Option (Raised CompileFault)
  compiler : Compiler
  sink : Sink
  /-- What there is to say, in order. -/
  notices : List Notice

namespace Compiler

/-- Compile instructions, the last of which has a statement that cannot be printed. -/
def printUpTo (compiler : Compiler) (front : List Instruction) (stuck : Instruction)
    (fault : PrintFault) : PrintedRun :=
  match Compilation.writeAll front compiler.compilation with
  | (c, some refused) => ⟨some refused.raised, compiler.leave c, c.sink, compiler.report c⟩
  | (c, none) =>
    let opened := c.opened + (Statement.ofCommand c.opened stuck.command).opens
    let c := { c with opened, pc := stuck.next, begun := c.begun.push stuck.command.keyword }
    ⟨some (.printing fault), compiler.leave c, c.sink, compiler.report c⟩

def printProgram (compiler : Compiler) (p : Program) (sink : Sink) : PrintedRun :=
  let ready := compiler.takeUp p sink
  match Instruction.printed ready.opened ready.walk.instructions with
  | (front, some (stuck, fault)) => ready.printUpTo front stuck fault
  | (_, none) =>
    let run := compiler.compileProgram p sink
    ⟨run.fault.map CompileFault.raised, run.compiler, run.sink, run.notices⟩

/-- Compile the program of source text into a sink. Text that has a fault changes nothing. -/
def printTo (compiler : Compiler) (source : String) (sink : Sink) : PrintedRun :=
  match compiler.settings.lexer.read source with
  | ⟨.error fault, notices⟩ => ⟨some (CompileFault.source fault).raised, compiler, sink, notices⟩
  | ⟨.ok p, notices⟩ =>
    let result := compiler.printProgram p sink
    { result with notices := notices ++ result.notices }

end Compiler

namespace Page

/-- The numbers that a page shows. -/
def numbers (settings : Settings) : List Int :=
  [settings.canvas.width, settings.canvas.height, settings.turtle.homeX, settings.turtle.homeY]

def print (settings : Settings) (title compiled : String) : Except PrintFault String :=
  match (numbers settings).findSome? PrintFault.ofInt? with
  | some fault => .error fault
  | none => .ok (render settings title compiled)

end Page

end TurtleGraphics
