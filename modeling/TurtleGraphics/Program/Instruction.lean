import TurtleGraphics.Command
import TurtleGraphics.Program

/-! # Instructions

A program is read one command at a time: a keyword, then its parameter. Where that fails, the
reader knows how far it got and whether it had recognised the keyword.
-/

namespace TurtleGraphics

namespace Step

def color (step : Step) : Except Diagnostic Color :=
  match Color.ofName? step.text with
  | some color => .ok color
  | none => .error ⟨.grammatical (.unknownColor step.text), some step.line⟩

def penState (step : Step) : Except Diagnostic Bool :=
  match penState? step.text with
  | some down => .ok down
  | none => .error ⟨.grammatical (.unknownPenState step.text), some step.line⟩

/-- The number of the step, for a magnitude within the bound. -/
def boundedNumber (step : Step) : Except Diagnostic Int :=
  if step.number.natAbs ≤ maxNumber then .ok step.number
  else .error ⟨.grammatical (.numberOutOfRange step.number), some step.line⟩

/-- The number of the step as the count of a loop, from one up to the limit. -/
def loopCount (limit : Int) (step : Step) : Except Diagnostic Int :=
  if 0 < step.number ∧ step.number ≤ limit then .ok step.number
  else .error ⟨.grammatical (.countOutOfRange step.number limit), some step.line⟩

end Step

/-- A command, and where in the program it stands. -/
structure Instruction where
  command : Command
  line : Int
  lastLine : Int
  /-- The index of the step after it. -/
  next : Nat
  deriving Repr, DecidableEq

/-- Where and why the reading of a command failed. -/
structure ReadFault where
  diagnostic : Diagnostic
  /-- The keyword, if it was recognised. -/
  keyword : Option Keyword
  /-- The index of the step after the last one that was read. -/
  next : Nat
  deriving Repr, DecidableEq

namespace Program

def keywordOf (step : Step) : Except Diagnostic Keyword :=
  match step.kind with
  | .number => .error ⟨.grammatical (.unexpectedStep step.kind), some step.line⟩
  | .identifier =>
    match Keyword.ofName? step.text with
    | some keyword => .ok keyword
    | none => .error ⟨.grammatical (.unknownKeyword step.text), some step.line⟩

/-- The parameter of the expected kind at an index. -/
def parameterAt (p : Program) (index : Nat) (expected : StepKind) : Except Diagnostic Step :=
  match p[index]? with
  | none => .error ⟨.grammatical .unexpectedEnd, p.lastLine⟩
  | some step =>
    if step.kind = expected then .ok step
    else .error ⟨.grammatical (.wrongKind expected step.kind), some step.line⟩

/-- The command of a keyword whose parameter stands at an index, and the line of the parameter if it
    takes one. -/
def commandWith (limit : Int) (p : Program) (index : Nat) (keyword : Keyword) :
    Except Diagnostic (Command × Option Int) := do
  match keyword with
  | .home => return (.home, none)
  | .loop => return (.loop, none)
  | .paper =>
    let step ← p.parameterAt index .identifier
    return (.paper (← step.color), some step.line)
  | .ink =>
    let step ← p.parameterAt index .identifier
    return (.ink (← step.color), some step.line)
  | .pen =>
    let step ← p.parameterAt index .identifier
    return (.pen (← step.penState), some step.line)
  | .forward =>
    let step ← p.parameterAt index .number
    return (.forward (← step.boundedNumber), some step.line)
  | .back =>
    let step ← p.parameterAt index .number
    return (.back (← step.boundedNumber), some step.line)
  | .left =>
    let step ← p.parameterAt index .number
    return (.left (← step.boundedNumber), some step.line)
  | .right =>
    let step ← p.parameterAt index .number
    return (.right (← step.boundedNumber), some step.line)
  | .repeat =>
    let step ← p.parameterAt index .number
    return (.repeat (← step.loopCount limit), some step.line)

/-- The index after a keyword at `index` and as much of its parameter as there is. -/
def indexAfter (p : Program) (index : Nat) (keyword : Keyword) : Nat :=
  if keyword.takesParameter then min (index + 2) p.size else index + 1

/-- The command whose keyword is the step at an index. Loops run at most `limit` times. -/
def instruction (limit : Int) (p : Program) (index : Nat) (step : Step) :
    Except ReadFault Instruction :=
  match keywordOf step with
  | .error d => .error ⟨d, none, index + 1⟩
  | .ok keyword =>
    match p.commandWith limit (index + 1) keyword with
    | .error d => .error ⟨d, some keyword, p.indexAfter index keyword⟩
    | .ok (command, parameterLine) =>
      .ok ⟨command, step.line, parameterLine.getD step.line, p.indexAfter index keyword⟩

/-- The command at an index or its fault, if the program goes on there. -/
def readAt (limit : Int) (p : Program) (index : Nat) : Option (Except ReadFault Instruction) :=
  p[index]?.map (p.instruction limit index)

/-- Every instruction lies before the next one. -/
theorem index_lt_next {limit : Int} {p : Program} {index : Nat} {step : Step} {i : Instruction}
    (hindex : index < p.size) (hread : p.instruction limit index step = .ok i) :
    index < i.next := by
  unfold instruction at hread
  split at hread
  · cases hread
  · split at hread
    · cases hread
    · cases hread
      simp only [indexAfter]
      split <;> omega

end Program

/-- The commands of a program in the order in which they stand, up to its end or to the first
    fault. -/
structure Walk where
  instructions : List Instruction
  /-- The fault behind them, if there is one. -/
  fault : Option ReadFault
  deriving Repr, DecidableEq

namespace Program

def walkFrom (limit : Int) (p : Program) (index : Nat) : Walk :=
  if _hindex : index < p.size then
    match _hread : p.instruction limit index p[index] with
    | .error fault => ⟨[], some fault⟩
    | .ok i =>
      let rest := p.walkFrom limit i.next
      ⟨i :: rest.instructions, rest.fault⟩
  else ⟨[], none⟩
termination_by p.size - index
decreasing_by
  have := index_lt_next _hindex _hread
  omega

def walk (limit : Int) (p : Program) : Walk :=
  p.walkFrom limit 0

end Program

end TurtleGraphics
