import TurtleGraphics.Interpreter
import TurtleGraphics.Proofs.Execution.Dispatch

/-! # What a run reaches

A run is followed from one command to the next. The bound on the work of a run plays no part in
this: a run that reaches its end within the bound ends as if there were none.
-/

namespace TurtleGraphics

/-- A run between two commands. -/
structure Scene where
  /-- What the run has changed so far. -/
  execution : Execution
  surface : Surface

namespace Scene

variable (settings : Settings) (stride : Stride) (trace : Bool) (p : Program)

/-- The scene behind the next command, if the command succeeds. -/
def next? (s : Scene) : Option Scene :=
  match s.execution.step settings stride trace p with
  | .go after none => some ⟨after, s.surface⟩
  | .go after (some call) =>
    match s.surface.draw call with
    | (surface, none) => some ⟨after, surface⟩
    | (_, some _) => none
  | .finish | .stop _ _ => none

/-- So many commands lead from one scene to another. -/
inductive Reaches : Nat → Scene → Scene → Prop where
  | refl (s : Scene) : Reaches 0 s s
  | tail {n : Nat} {s t u : Scene} :
    Reaches n s t → t.next? settings stride trace p = some u → Reaches (n + 1) s u

variable {settings stride trace p} {n : Nat} {s t u : Scene}

theorem Reaches.single (h : s.next? settings stride trace p = some t) :
    Reaches settings stride trace p 1 s t :=
  .tail (.refl s) h

theorem Reaches.trans {m : Nat} (first : Reaches settings stride trace p m s t)
    (last : Reaches settings stride trace p n t u) :
    Reaches settings stride trace p (m + n) s u := by
  induction last with
  | refl => exact first
  | tail _ step ih => exact .tail (ih first) step

theorem step_of_next? (h : s.next? settings stride trace p = some t) :
    ∃ call, s.execution.step settings stride trace p = .go t.execution call := by
  unfold next? at h
  split at h
  · cases h
    exact ⟨none, ‹_›⟩
  · split at h
    · cases h
      exact ⟨_, ‹_›⟩
    · cases h
  · cases h
  · cases h

theorem Reaches.commands (h : Reaches settings stride trace p n s t) :
    t.execution.commands = s.execution.commands + n := by
  induction h with
  | refl => rfl
  | tail _ step ih =>
      obtain ⟨call, hstep⟩ := step_of_next? step
      rw [Execution.commands_of_step hstep, ih, Nat.add_assoc]

theorem runFor_of_next? (h : s.next? settings stride trace p = some t) (fuel : Nat) :
    s.execution.runFor settings stride trace p (fuel + 1) s.surface =
      t.execution.runFor settings stride trace p fuel t.surface := by
  unfold next? at h
  rw [Execution.runFor]
  split at h
  · rename_i hstep
    cases h
    simp only [hstep]
  · rename_i hstep
    split at h
    · rename_i hdraw
      cases h
      simp only [hstep, hdraw]
    · cases h
  · cases h
  · cases h

/-- What is reached is where the run goes on. -/
theorem Reaches.runFor (h : Reaches settings stride trace p n s t) (fuel : Nat) :
    s.execution.runFor settings stride trace p (n + fuel) s.surface =
      t.execution.runFor settings stride trace p fuel t.surface := by
  induction h generalizing fuel with
  | refl => rw [Nat.zero_add]
  | tail _ step ih =>
      rw [Nat.add_assoc, Nat.add_comm 1, ih, runFor_of_next? step]

theorem Reaches.run_finished (h : Reaches settings stride trace p n s t) (bound : n < p.workBound)
    (hstep : t.execution.step settings stride trace p = .finish) :
    s.execution.run settings stride trace p s.surface = ⟨.finished, t.execution, t.surface⟩ := by
  obtain ⟨fuel, hfuel⟩ := Nat.exists_eq_add_of_lt bound
  rw [Execution.run, hfuel, Nat.add_assoc, h.runFor, Execution.runFor]
  simp only [hstep]

theorem Reaches.run_failed (h : Reaches settings stride trace p n s t) (bound : n < p.workBound)
    {fault : RunFault} {after : Execution}
    (hstep : t.execution.step settings stride trace p = .stop fault after) :
    s.execution.run settings stride trace p s.surface = ⟨.failed fault, after, t.surface⟩ := by
  obtain ⟨fuel, hfuel⟩ := Nat.exists_eq_add_of_lt bound
  rw [Execution.run, hfuel, Nat.add_assoc, h.runFor, Execution.runFor]
  simp only [hstep]

end Scene

/-- Why a run was given up, if it was. -/
def Ending.fault : Ending → Option RunFault
  | .failed fault => some fault
  | .finished | .unfinished => none

/-- Two lines drawn in a loop, then a turn in a loop that is never closed. -/
def Program.unclosed : Program :=
  #[⟨.identifier, 1, "PEN", 0⟩, ⟨.identifier, 1, "DOWN", 0⟩, ⟨.identifier, 2, "REPEAT", 0⟩,
    ⟨.number, 2, "", 2⟩, ⟨.identifier, 3, "FORWARD", 0⟩, ⟨.number, 3, "", 5⟩,
    ⟨.identifier, 4, "LOOP", 0⟩, ⟨.identifier, 5, "REPEAT", 0⟩, ⟨.number, 5, "", 3⟩,
    ⟨.identifier, 6, "LEFT", 0⟩, ⟨.number, 6, "", 90⟩]

namespace Interpreter

/-- An interpreter with four slots whose moves all go along the x axis. -/
def level : Interpreter :=
  ⟨{}, fun _ step => .ok (step, 0), false, .record #[], ⟨.initial {}, ⟨4, [], []⟩, 0, 0, 0, #[]⟩⟩

/-- The scene that an interpreter's run of a program starts from. -/
def opening (interpreter : Interpreter) : Scene :=
  ⟨interpreter.execution.fresh, interpreter.surface⟩

theorem runProgram_of_run {interpreter : Interpreter} {p : Program} {run : Run}
    (h : interpreter.opening.execution.run interpreter.settings interpreter.stride
      interpreter.trace p
      interpreter.opening.surface = run) :
    (interpreter.runProgram p).fault = run.ending.fault.map .run ∧
      (interpreter.runProgram p).interpreter =
        { interpreter with surface := run.surface, execution := run.execution } := by
  obtain ⟨settings, stride, trace, surface, execution⟩ := interpreter
  obtain ⟨ending, after, surface'⟩ := run
  simp only [opening] at h
  simp only [runProgram, h]
  cases ending <;> exact ⟨rfl, rfl⟩

end Interpreter

end TurtleGraphics
