import TurtleGraphics.Program.Instruction
import TurtleGraphics.Script
import TurtleGraphics.Script.Sink
import TurtleGraphics.Settings
import TurtleGraphics.Source

/-! # The compiler

A program is compiled by writing the statement of each of its commands to a sink, in order. What
was written before a fault stays written.
-/

namespace TurtleGraphics

/-- Why a compilation was given up. -/
inductive CompileFault where
  /-- The source text gave no program. -/
  | source (fault : SourceFault)
  /-- The program has a fault, or the sink took no more text. -/
  | diagnostic (d : Diagnostic)
  /-- The sink failed in a way that output is not expected to fail. -/
  | sink (fault : SinkFault)
  deriving Repr, DecidableEq

/-- How far a compilation came. -/
structure Compilation where
  sink : Sink
  /-- How many loops were opened. -/
  opened : Nat
  /-- How many statements the sink took. -/
  statements : Nat
  commands : Nat
  /-- The index of the next step. -/
  pc : Nat
  /-- The keywords of the commands that were begun. -/
  begun : Array Keyword
  deriving Repr, DecidableEq

namespace Compilation

/-- The diagnostic of a sink that refused the statement of an instruction. -/
def refusal (i : Instruction) (fault : SinkFault) : CompileFault :=
  if fault.expected then .diagnostic ⟨.emit fault.reason, some i.lastLine⟩ else .sink fault

/-- Write the statements of instructions, up to the first that the sink refuses. The variable of a
    loop is taken before its statement is written. -/
def writeAll : List Instruction → Compilation → Compilation × Option CompileFault
  | [], c => (c, none)
  | i :: rest, ⟨sink, opened, statements, commands, _, begun⟩ =>
    let statement := Statement.ofCommand opened i.command
    let opened := opened + statement.opens
    let begun := begun.push i.command.keyword
    match sink.write statement.line with
    | (sink, some fault) =>
      (⟨sink, opened, statements, commands, i.next, begun⟩, some (refusal i fault))
    | (sink, none) =>
      writeAll rest ⟨sink, opened, statements + 1, commands + 1, i.next, begun⟩

/-- Compile the commands of a walk, and its fault if the sink takes them all. -/
def ofWalk (walk : Walk) (start : Compilation) : Compilation × Option CompileFault :=
  match writeAll walk.instructions start with
  | (c, some fault) => (c, some fault)
  | (c, none) =>
    match walk.fault with
    | none => (c, none)
    | some fault =>
      ({ c with pc := fault.next, begun := c.begun ++ fault.keyword.toArray },
        some (.diagnostic fault.diagnostic))

end Compilation

/-- The settings of a compiler, and what its last compilation left. -/
structure Compiler where
  settings : Settings
  /-- Whether each command is reported. -/
  trace : Bool
  /-- Where statements were written. -/
  sink : Sink
  /-- How many loops were opened. -/
  opened : Nat
  statements : Nat
  program : Program
  /-- The index of the next step. -/
  pc : Nat
  commands : Nat

/-- A compilation by a compiler. -/
structure CompilerRun where
  /-- Why it was given up, if it was. -/
  fault : Option CompileFault
  compiler : Compiler
  sink : Sink
  /-- What there is to say, in order. -/
  notices : List Notice

namespace Compiler

/-- A compiler before its first compilation. Commands are reported as `trace` says, or else as the
    settings say. -/
def start (settings : Settings) (trace : Option Bool) : Compiler :=
  ⟨settings, trace.getD settings.engine.trace, {}, 0, 0, #[], 0, 0⟩

/-- Take up a program: the loop variables and the counters start again. -/
def takeUp (compiler : Compiler) (p : Program) (sink : Sink) : Compiler :=
  { compiler with sink, opened := 0, statements := 0, program := p, pc := 0, commands := 0 }

/-- The compilation of the program that was taken up, from where the compiler stands. -/
def compilation (compiler : Compiler) : Compilation :=
  ⟨compiler.sink, compiler.opened, compiler.statements, compiler.commands, compiler.pc, #[]⟩

/-- The compiler after a compilation. -/
def leave (compiler : Compiler) (c : Compilation) : Compiler :=
  { compiler with
    sink := c.sink, opened := c.opened, statements := c.statements, pc := c.pc,
    commands := c.commands }

/-- What a compiler that reports commands says of those that were begun. -/
def report (compiler : Compiler) (c : Compilation) : List Notice :=
  if compiler.trace then c.begun.toList.map Notice.began else []

/-- Compile a walk of the program that was taken up. -/
def compileWalk (compiler : Compiler) (walk : Walk) : CompilerRun :=
  match Compilation.ofWalk walk compiler.compilation with
  | (c, some fault) => ⟨some fault, compiler.leave c, c.sink, compiler.report c⟩
  | (c, none) =>
    ⟨none, compiler.leave c, c.sink, compiler.report c ++ [.compiled c.commands c.statements]⟩

/-- The commands of the program that was taken up, from where the compiler stands. -/
def walk (compiler : Compiler) : Walk :=
  compiler.program.walkFrom compiler.settings.engine.maxRepeat compiler.pc

def compileProgram (compiler : Compiler) (p : Program) (sink : Sink) : CompilerRun :=
  let ready := compiler.takeUp p sink
  ready.compileWalk ready.walk

/-- Compile the program of source text into a sink. Text that has a fault changes nothing. -/
def compileTo (compiler : Compiler) (source : String) (sink : Sink) : CompilerRun :=
  match compiler.settings.lexer.read source with
  | ⟨.error fault, notices⟩ => ⟨some (.source fault), compiler, sink, notices⟩
  | ⟨.ok p, notices⟩ =>
    let result := compiler.compileProgram p sink
    { result with notices := notices ++ result.notices }

end Compiler

def compileSource (settings : Settings) (source : String) : Except CompileFault String :=
  let result := (Compiler.start settings none).compileTo source {}
  match result.fault with
  | some fault => .error fault
  | none => .ok result.sink.text

end TurtleGraphics
