import TurtleGraphics.LoopStack
import TurtleGraphics.Program.Instruction
import TurtleGraphics.Surface

/-! # Running a program

A run reads the command at its index, carries it out, and goes on at the next one. A loop jumps: its
start pushes the index of its body and its count, and its end takes both up again, goes back to the
body while runs are left, and otherwise drops them.

A command changes the turtle, the stack and the counters, and makes at most one drawing call. The
call goes to the surface before the change takes hold, so a call that cannot be painted leaves the
turtle where it was.
-/

namespace TurtleGraphics

/-- Why a run was given up. -/
inductive RunFault where
  /-- The program has a fault. -/
  | diagnostic (d : Diagnostic)
  /-- A position lies beyond the range of doubles. -/
  | number (fault : NumberFault)
  /-- A line cannot be drawn. -/
  | drawing (fault : DrawFault)
  deriving Repr, DecidableEq

/-- What a run changes as it goes. -/
structure Execution where
  turtle : Turtle
  stack : LoopStack
  /-- The index of the next step. -/
  pc : Nat
  /-- How many commands were carried out. -/
  commands : Nat
  /-- How many lines were drawn. -/
  lines : Nat
  /-- The keywords of the commands that were begun, if they are reported. -/
  traced : Array Keyword
  deriving Repr, DecidableEq

/-- What happens at one command. -/
inductive Transition where
  /-- The program is at its end. -/
  | finish
  /-- The run is given up. -/
  | stop (fault : RunFault) (after : Execution)
  /-- The run goes on, once the surface has taken the call. -/
  | go (after : Execution) (call : Option DrawCall)
  deriving Repr, DecidableEq

namespace Turtle

/-- Move along the heading: the turtle after the move, and the line that it draws if the pen is
    down. -/
def move (stride : Stride) (turtle : Turtle) (step : Int) :
    Except NumberFault (Turtle × Option DrawCall) :=
  match stride turtle.angle step with
  | .error fault => .error fault
  | .ok (dx, dy) =>
    .ok (turtle.moveBy dx dy,
      if turtle.penDown then some (.line (turtle.segmentBy dx dy) turtle.ink) else none)

/-- Obey a command: the turtle after it, and the drawing call that it makes. The start and the end
    of a loop are nothing to the turtle. -/
def obey (settings : Settings) (stride : Stride) (turtle : Turtle) :
    Command → Except NumberFault (Turtle × Option DrawCall)
  | .home => .ok (turtle.home settings.turtle, some (.clear (turtle.home settings.turtle).paper))
  | .paper color => .ok ({ turtle with paper := color }, none)
  | .ink color => .ok ({ turtle with ink := color }, none)
  | .pen down => .ok ({ turtle with penDown := down }, none)
  | .forward step => turtle.move stride step
  | .back step => turtle.move stride (-step)
  | .left degrees => return (← turtle.turn settings.engine.normalizeAngle degrees, none)
  | .right degrees => return (← turtle.turn settings.engine.normalizeAngle (-degrees), none)
  | .repeat _ => .ok (turtle, none)
  | .loop => .ok (turtle, none)

end Turtle

namespace Execution

/-- Begin a command: note its keyword if keywords are reported. -/
def note (trace : Bool) (keyword : Option Keyword) (x : Execution) : Execution :=
  match trace, keyword with
  | true, some keyword => { x with traced := x.traced.push keyword }
  | _, _ => x

def counted (x : Execution) : Execution :=
  { x with commands := x.commands + 1 }

/-- Open a loop whose body starts at the next step. -/
def openLoop (x : Execution) (count : Int) (line : Int) : Transition :=
  match x.stack.push x.pc with
  | .error fault => .stop (.diagnostic ⟨.stack fault, some line⟩) x
  | .ok stack =>
    match stack.push count with
    | .error fault => .stop (.diagnostic ⟨.stack fault, some line⟩) { x with stack }
    | .ok stack => .go { x with stack }.counted none

/-- Close a loop: go back to its body while runs are left. -/
def closeLoop (x : Execution) (line : Int) : Transition :=
  match x.stack.pop with
  | .error fault => .stop (.diagnostic ⟨.stack fault, some line⟩) x
  | .ok (count, stack) =>
    match stack.pop with
    | .error fault => .stop (.diagnostic ⟨.stack fault, some line⟩) { x with stack }
    | .ok (body, dropped) =>
      if 0 < count - 1 then
        match dropped.push body with
        | .error fault => .stop (.diagnostic ⟨.stack fault, some line⟩) { x with stack := dropped }
        | .ok stack =>
          match stack.push (count - 1) with
          | .error fault => .stop (.diagnostic ⟨.stack fault, some line⟩) { x with stack }
          | .ok stack => .go { x with stack, pc := body.toNat }.counted none
      else .go { x with stack := dropped }.counted none

/-- Let the turtle obey a command, and count the line that it draws. -/
def draw (settings : Settings) (stride : Stride) (command : Command) (x : Execution) : Transition :=
  match x.turtle.obey settings stride command with
  | .error fault => .stop (.number fault) x
  | .ok (turtle, call) =>
    .go { x with turtle, lines := x.lines + call.toList.countP DrawCall.isLine }.counted call

def perform (settings : Settings) (stride : Stride) (i : Instruction) (x : Execution) :
    Transition :=
  match i.command with
  | .repeat count => x.openLoop count i.line
  | .loop => x.closeLoop i.line
  | command => x.draw settings stride command

def step (settings : Settings) (stride : Stride) (trace : Bool) (p : Program) (x : Execution) :
    Transition :=
  match p.readAt settings.engine.maxRepeat x.pc with
  | none => .finish
  | some (.error fault) =>
    .stop (.diagnostic fault.diagnostic) { x.note trace fault.keyword with pc := fault.next }
  | some (.ok i) =>
    { x.note trace (some i.command.keyword) with pc := i.next }.perform settings stride i

/-- The state when a drawing call failed: the command was begun and nothing else happened. -/
def undrawn (before after : Execution) : Execution :=
  { after with turtle := before.turtle, commands := before.commands, lines := before.lines }

end Execution

/-- How a run ended. -/
inductive Ending where
  /-- The program came to its end. -/
  | finished
  /-- The run was given up. -/
  | failed (fault : RunFault)
  /-- The bound on the number of commands was used up. -/
  | unfinished
  deriving Repr, DecidableEq

/-- A run that has ended. -/
structure Run where
  /-- How it ended. -/
  ending : Ending
  /-- What it left. -/
  execution : Execution
  surface : Surface

namespace Execution

/-- Carry out at most so many commands. -/
def runFor (settings : Settings) (stride : Stride) (trace : Bool) (p : Program) :
    Nat → Execution → Surface → Run
  | 0, x, surface => ⟨.unfinished, x, surface⟩
  | fuel + 1, x, surface =>
    match x.step settings stride trace p with
    | .finish => ⟨.finished, x, surface⟩
    | .stop fault after => ⟨.failed fault, after, surface⟩
    | .go after none => runFor settings stride trace p fuel after surface
    | .go after (some call) =>
      match surface.draw call with
      | (surface, none) => runFor settings stride trace p fuel after surface
      | (surface, some fault) => ⟨.failed (.drawing fault), x.undrawn after, surface⟩

end Execution

namespace Program

/-- The product of all counts that follow the keyword of a loop, where a count below one counts as
    one. -/
def countProduct : List Step → Nat
  | first :: count :: rest =>
    if Keyword.ofName? first.text = some .repeat then
      max 1 count.number.toNat * countProduct (count :: rest)
    else countProduct (count :: rest)
  | _ => 1

/-- A bound on the number of commands that a run carries out, plus one: each command is met at most
    as often as all counts multiply to. -/
def workBound (p : Program) : Nat :=
  (p.size + 1) * countProduct p.toList

end Program

namespace Execution

/-- The state before the first command of a program: only the turtle is what it was. -/
def fresh (x : Execution) : Execution :=
  ⟨x.turtle, x.stack.clear, 0, 0, 0, #[]⟩

def run (settings : Settings) (stride : Stride) (trace : Bool) (p : Program) (x : Execution)
    (surface : Surface) : Run :=
  x.runFor settings stride trace p p.workBound surface

end Execution

end TurtleGraphics
