import TurtleGraphics.Interpreter
import TurtleGraphics.Proofs.Number.Whole
import TurtleGraphics.Proofs.Program.Boundary

/-! # Journeys

What a list of commands does to a turtle, with no program counter and no stack: the turtle obeys
them one after the other, up to the first move that has no value. The start and the end of a loop
are commands like the others, and change nothing.
-/

namespace TurtleGraphics

/-- A turtle on its way, with the calls that it made so far. -/
structure Journey where
  turtle : Turtle
  /-- The drawing calls, in order. -/
  calls : List DrawCall
  /-- Why the turtle could not go on, if it could not. -/
  fault : Option NumberFault
  deriving Repr, DecidableEq

namespace Journey

def start (turtle : Turtle) : Journey :=
  ⟨turtle, [], none⟩

/-- The journey with one more command. After a fault no command is obeyed. -/
def obey (settings : Settings) (stride : Stride) (j : Journey) (command : Command) : Journey :=
  match j.fault with
  | some _ => j
  | none =>
    match j.turtle.obey settings stride command with
    | .error fault => { j with fault := some fault }
    | .ok (turtle, call) => ⟨turtle, j.calls ++ call.toList, none⟩

def follow (settings : Settings) (stride : Stride) (j : Journey) (commands : List Command) :
    Journey :=
  commands.foldl (obey settings stride) j

def lines (j : Journey) : Nat :=
  j.calls.countP DrawCall.isLine

variable {settings : Settings} {stride : Stride} {j : Journey}

@[simp]
theorem follow_nil : j.follow settings stride [] = j := rfl

@[simp]
theorem follow_singleton (command : Command) :
    j.follow settings stride [command] = j.obey settings stride command := rfl

theorem follow_append (commands more : List Command) :
    j.follow settings stride (commands ++ more) =
      (j.follow settings stride commands).follow settings stride more :=
  List.foldl_append

theorem follow_cons (command : Command) (more : List Command) :
    j.follow settings stride (command :: more) =
      (j.obey settings stride command).follow settings stride more := rfl

theorem obey_of_fault {fault : NumberFault} (h : j.fault = some fault) (command : Command) :
    j.obey settings stride command = j := by
  simp [obey, h]

theorem follow_of_fault {fault : NumberFault} (h : j.fault = some fault) (commands : List Command) :
    j.follow settings stride commands = j := by
  induction commands with
  | nil => rfl
  | cons command commands ih => rw [follow_cons, obey_of_fault h, ih]

theorem obey_repeat (count : Int) : j.obey settings stride (.repeat count) = j := by
  obtain ⟨turtle, calls, fault⟩ := j
  cases fault <;> simp [obey, Turtle.obey]

theorem obey_loop : j.obey settings stride .loop = j := by
  obtain ⟨turtle, calls, fault⟩ := j
  cases fault <;> simp [obey, Turtle.obey]

end Journey

/-- Headings below this are far from the largest double. -/
def headingLimit : Nat := 2 ^ 1022

theorem lt_headingLimit {n : Nat} (h : n < 2 ^ 31) : n < headingLimit := by
  apply Nat.lt_of_lt_of_le h
  apply Nat.pow_le_pow_right <;> decide

/-- From a heading a turtle can go wherever commands lead it: moves have a value along it and along
    every heading that a turn leads to. -/
structure Stride.Covers (stride : Stride) (normalize : Bool) (heading : Int) : Prop where
  /-- Turning from the heading stays among the doubles, if headings are kept as doubles leave
      them. -/
  turns : normalize = false → ∀ degrees : Int, degrees.natAbs ≤ maxNumber →
    ∃ whole, Double.wholeOfInt (heading + degrees) = .ok whole
  /-- Every number that a command may hold can be gone. -/
  moves : ∀ angle step : Int, angle = heading ∨ angle.natAbs < 360 → step.natAbs ≤ maxNumber →
    ∃ moved, stride angle step = .ok moved

/-- The interpreter's turtle can go wherever commands lead it. -/
def Interpreter.Roams (interpreter : Interpreter) : Prop :=
  interpreter.stride.Covers interpreter.settings.engine.normalizeAngle interpreter.turtle.angle

namespace Turtle

variable {stride : Stride} {normalize : Bool} {limit heading : Int} {turtle : Turtle}

/-- The heading is the first one, or lies within a full turn. -/
def Headed (heading : Int) (turtle : Turtle) : Prop :=
  turtle.angle = heading ∨ turtle.angle.natAbs < 360

theorem Headed.natAbs_lt (hturtle : turtle.Headed heading)
    (hrange : heading.natAbs < headingLimit) :
    turtle.angle.natAbs < headingLimit := by
  rcases hturtle with hsame | hturn
  · rwa [hsame]
  · exact lt_headingLimit (Nat.lt_trans hturn (by decide))

theorem turn_headed (hturns : normalize = false → ∀ degrees : Int, degrees.natAbs ≤ maxNumber →
      ∃ whole, Double.wholeOfInt (heading + degrees) = .ok whole)
    (hturtle : turtle.Headed heading) {degrees : Int} (hdegrees : degrees.natAbs ≤ maxNumber) :
    ∃ after, turtle.turn normalize degrees = .ok after ∧ after.Headed heading := by
  cases normalize with
  | true =>
      refine ⟨{ turtle with angle := (turtle.angle + degrees) % 360 }, rfl, Or.inr ?_⟩
      dsimp only
      omega
  | false =>
      obtain ⟨whole, hwhole⟩ : ∃ whole, Double.wholeOfInt (turtle.angle + degrees) = .ok whole := by
        rcases hturtle with hsame | hturn
        · rw [hsame]
          exact hturns rfl degrees hdegrees
        · apply Double.exists_wholeOfInt (show 32 < 1024 by decide)
          have limit : maxNumber = 2147483647 := by decide
          omega
      refine ⟨{ turtle with angle := Int.tmod whole 360 }, ?_, Or.inr ?_⟩
      · simp only [turn, hwhole, Bool.false_eq_true, if_false]
      · dsimp only
        rw [Int.natAbs_tmod]
        exact Nat.mod_lt _ (by decide)

private theorem move_covered (hstride : stride.Covers normalize heading)
    (hturtle : turtle.Headed heading) {step : Int} (hstep : step.natAbs ≤ maxNumber) :
    ∃ moved call, turtle.move stride step = .ok (moved, call) ∧ moved.Headed heading := by
  obtain ⟨⟨dx, dy⟩, hmoved⟩ := hstride.moves turtle.angle step hturtle hstep
  exact ⟨turtle.moveBy dx dy,
    if turtle.penDown then some (.line (turtle.segmentBy dx dy) turtle.ink) else none,
    by simp only [move, hmoved], hturtle⟩

theorem obey_covered (settings : Settings)
    (hstride : stride.Covers settings.engine.normalizeAngle heading)
    (hturtle : turtle.Headed heading) {command : Command} (haccepted : command.Accepted limit) :
    ∃ after call, turtle.obey settings stride command = .ok (after, call) ∧
    after.Headed heading := by
  cases command with
  | home => exact ⟨_, _, rfl, Or.inr (by decide : (0 : Int).natAbs < 360)⟩
  | paper | ink | pen | «repeat» | loop => exact ⟨_, _, rfl, hturtle⟩
  | left degrees =>
      obtain ⟨after, hafter, hheaded⟩ := turn_headed hstride.turns hturtle
        (show degrees.natAbs ≤ maxNumber from haccepted)
      exact ⟨after, none, by rw [obey, hafter]; rfl, hheaded⟩
  | right degrees =>
      obtain ⟨after, hafter, hheaded⟩ := turn_headed hstride.turns hturtle
        (show (-degrees).natAbs ≤ maxNumber by simpa [Command.Accepted] using haccepted)
      exact ⟨after, none, by rw [obey, hafter]; rfl, hheaded⟩
  | forward step => exact move_covered hstride hturtle haccepted
  | back step => exact move_covered hstride hturtle (by simpa [Command.Accepted] using haccepted)

end Turtle

namespace Journey

variable {settings : Settings} {stride : Stride} {limit heading : Int}

/-- A journey through accepted commands comes to its end where all moves are covered. -/
theorem follow_covered (hstride : stride.Covers settings.engine.normalizeAngle heading)
    {commands : List Command} (haccepted : ∀ command ∈ commands, command.Accepted limit)
    {j : Journey} (hturtle : j.turtle.Headed heading) (hfault : j.fault = none) :
    (j.follow settings stride commands).fault = none := by
  induction commands generalizing j with
  | nil => exact hfault
  | cons command commands ih =>
      obtain ⟨after, call, hobey, hafter⟩ := Turtle.obey_covered settings hstride hturtle
        (haccepted command List.mem_cons_self)
      have hstep : j.obey settings stride command = ⟨after, j.calls ++ call.toList, none⟩ := by
        simp only [obey, hfault, hobey]
      rw [follow_cons, hstep]
      exact ih (fun other hother => haccepted other (List.mem_cons_of_mem _ hother)) hafter rfl

end Journey

end TurtleGraphics
