import TurtleGraphics.Proofs.Compiler.Output
import TurtleGraphics.Proofs.Execution.Loops
import TurtleGraphics.Proofs.Turtle.Stride

/-! # Faults of a run and of a compilation

The reader of a program meets its commands once and in order. A run comes back to them, but whatever
stops it stops it on the first visit. So a run and a compilation of one program fail alike, except
where the loops do not fit the stack, which is nothing to a compilation.
-/

namespace TurtleGraphics

namespace Instruction

/-- What is wrong with a command behind others: a loop ends where none is open, or starts where the
    stack has no two slots left. -/
def nestingFault (capacity : Nat) (before : List Instruction) (i : Instruction) :
    Option StackFault :=
  match i.command with
  | .loop => if loopDepth before = 0 then some .empty else none
  | .repeat _ => if loopDepth before = (capacity / 2 : Nat) then some .overflow else none
  | _ => none

def Faultless (capacity : Nat) (instructions : List Instruction) : Prop :=
  ∀ before i, before ++ [i] <+: instructions → nestingFault capacity before i = none

variable {capacity : Nat} {before instructions : List Instruction} {i : Instruction}

theorem Faultless.of_isPrefix (h : Faultless capacity instructions)
    (hbefore : before <+: instructions) :
    Faultless capacity before :=
  fun front k hfront => h front k (hfront.trans hbefore)

end Instruction

/-- A loop ends that was never opened, and then there is a number in the place of a keyword. -/
def Program.unopened : Program :=
  #[⟨.identifier, 1, "HOME", 0⟩, ⟨.identifier, 2, "LOOP", 0⟩, ⟨.number, 3, "", 7⟩]

namespace Interpreter

/-- An interpreter with four slots whose turtle looks the same way whatever its heading. -/
def still : Interpreter :=
  { level with stride := Trigonometry.still.stride }

variable {interpreter : Interpreter} {p : Program}

end Interpreter

end TurtleGraphics
