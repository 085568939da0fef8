import TurtleGraphics.Proofs.Execution.Ending
import TurtleGraphics.Proofs.Execution.Ground

/-! # A command that fails does nothing

A run that fails leaves the turtle, the surface and the counters as the last command before the
failing one left them. Commands are counted as they are carried out, not as they stand in the
program, so the failing one may be met on a later pass through a loop.
-/

namespace TurtleGraphics

variable {settings : Settings} {stride : Stride} {trace : Bool} {p : Program}

namespace Scene

variable {n : Nat} {s t : Scene} {run : Run}

theorem drawn_of_next? (h : s.next? settings stride trace p = some t) :
    ∃ drawn, t.surface = s.surface.drawAll drawn ∧
      t.execution.lines = s.execution.lines + drawn.countP DrawCall.isLine := by
  unfold next? at h
  split at h
  · rename_i hstep
    cases h
    obtain ⟨-, -, -, lines⟩ := Execution.obey_of_step_go hstep
    exact ⟨[], rfl, lines⟩
  · rename_i call hstep
    obtain ⟨-, -, -, lines⟩ := Execution.obey_of_step_go hstep
    split at h
    · rename_i painted hdraw
      cases h
      exact ⟨[call], (congrArg Prod.fst hdraw).symm, lines⟩
    · cases h
  · cases h
  · cases h

theorem Reaches.drawn (h : Reaches settings stride trace p n s t) :
    ∃ drawn, t.surface = s.surface.drawAll drawn ∧
      t.execution.lines = s.execution.lines + drawn.countP DrawCall.isLine := by
  induction h with
  | refl => exact ⟨[], rfl, rfl⟩
  | tail _ hnext ih =>
      obtain ⟨drawn, surface, lines⟩ := ih
      obtain ⟨more, surface', lines'⟩ := drawn_of_next? hnext
      refine ⟨drawn ++ more, ?_, ?_⟩
      · rw [surface', surface, Surface.drawAll_append]
      · rw [lines', lines, List.countP_append, Nat.add_assoc]

theorem Reaches.runFor_exactly (h : Reaches settings stride trace p n s t) :
    s.execution.runFor settings stride trace p n s.surface =
      ⟨.unfinished, t.execution, t.surface⟩ :=
  h.runFor 0

/-- Where every call is taken, only the command itself can fail, and then no call was made. -/
theorem Ends.abandoned (h : s.Ends settings stride trace p run)
    (hground : s.surface.isCanvas = false)
    {cause : RunFault} (hcause : run.ending.fault = some cause) :
    s.execution.Fails settings stride p cause ∧ s.execution.Abandons run.execution ∧
      run.surface = s.surface := by
  cases h with
  | finished => cases hcause
  | stopped hstep =>
      cases hcause
      obtain ⟨fails, abandons, -⟩ := Execution.step_stop hstep
      exact ⟨fails, abandons, rfl⟩
  | undrawn _ hdraw =>
      rw [Surface.draw_of_not_canvas hground] at hdraw
      cases hdraw

end Scene

/-- Two lines drawn in a loop, whose end is met once more when no loop is open. -/
def Program.overrun : Program :=
  #[⟨.identifier, 1, "PEN", 0⟩, ⟨.identifier, 1, "DOWN", 0⟩, ⟨.identifier, 2, "REPEAT", 0⟩,
    ⟨.number, 2, "", 2⟩, ⟨.identifier, 3, "FORWARD", 0⟩, ⟨.number, 3, "", 5⟩,
    ⟨.identifier, 4, "LOOP", 0⟩, ⟨.identifier, 5, "LOOP", 0⟩, ⟨.identifier, 6, "HOME", 0⟩]

namespace Interpreter

variable {interpreter : Interpreter}

/-- A run that fails carries out some number of commands, and fails at the next one: that one cannot
    be read, does not fit the stack, or is none that the turtle can obey. The turtle, the calls, the
    lines and the commands are then those that the commands before it left, and no command is
    carried out after it. -/
theorem runProgram_abandons_command {calls : Array DrawCall}
    (hsurface : interpreter.surface = .record calls)
    {fault : InterpreterFault} (hfault : (interpreter.runProgram p).fault = some fault) :
    let after := (interpreter.runProgram p).interpreter
    ∃ (k : Nat) (before : Execution) (drawn : List DrawCall) (cause : RunFault),
      interpreter.opening.execution.runFor interpreter.settings interpreter.stride
        interpreter.trace p k
        interpreter.surface = ⟨.unfinished, before, .record (calls ++ drawn.toArray)⟩ ∧
      fault = .run cause ∧ before.Fails interpreter.settings interpreter.stride p cause ∧
      after.turtle = before.turtle ∧
      after.surface = .record (calls ++ drawn.toArray) ∧
      after.execution.lines = before.lines ∧ before.lines = drawn.countP DrawCall.isLine ∧
      after.execution.commands = before.commands ∧ before.commands = k ∧
      ∀ m s, Scene.Reaches interpreter.settings interpreter.stride interpreter.trace p m
        interpreter.opening s → m ≤ k := by
  intro after
  obtain ⟨k, s, run, hreach, hends, htold, hafter⟩ := interpreter.exists_ending p
  obtain ⟨cause, hcause, rfl⟩ := Option.map_eq_some_iff.mp (htold.symm.trans hfault)
  have ground : s.surface.isCanvas = false := by
    apply Surface.isCanvas_of_extent
    rw [hreach.extent]
    exact Surface.extent_of_isCanvas (Surface.isCanvas_of_record hsurface)
  obtain ⟨fails, abandons, kept⟩ := hends.abandoned ground hcause
  obtain ⟨drawn, painted, lines⟩ := hreach.drawn
  have recorded : s.surface = .record (calls ++ drawn.toArray) := by
    rw [painted, ← Surface.drawAll_record, ← hsurface]
    rfl
  have stands := hreach.runFor_exactly
  rw [recorded] at stands kept
  refine ⟨k, s.execution, drawn, cause, stands, rfl, fails, ?_, ?_, ?_, ?_, ?_, ?_, ?_⟩
  · simp only [after, turtle, hafter, abandons.turtle]
  · simp only [after, hafter, kept]
  · simp only [after, hafter, abandons.lines]
  · rw [lines]
    exact Nat.zero_add _
  · simp only [after, hafter, abandons.commands]
  · rw [hreach.commands]
    exact Nat.zero_add _
  · exact fun m t hreach' => hreach.le_of_last hends.next? hreach'

/-- Both passes through the loop count, and the end of a loop that is not open changes nothing
    behind them. -/
theorem runProgram_abandons_command_overrun :
    (level.runProgram .overrun).fault = some (.run (.diagnostic ⟨.stack .empty, some 5⟩)) ∧
      (level.runProgram .overrun).interpreter.turtle = { x := 330, y := 240, penDown := true } ∧
      (level.runProgram .overrun).interpreter.surface =
        .record #[.line ⟨320, 240, 325, 240⟩ .white, .line ⟨325, 240, 330, 240⟩ .white] ∧
      (level.runProgram .overrun).interpreter.execution.lines = 2 ∧
      ∀ m s, Scene.Reaches level.settings level.stride level.trace .overrun m level.opening s →
      m ≤ 6 := by
  have failed : (level.runProgram .overrun).fault =
      some (.run (.diagnostic ⟨.stack .empty, some 5⟩)) := by decide +kernel
  have counted : (level.runProgram .overrun).interpreter.execution.commands = 6 := by decide +kernel
  obtain ⟨k, before, drawn, cause, hbefore, -, -, hturtle, hsurface, hlines, -, hcommands, hk,
    hlast⟩ :=
    runProgram_abandons_command (show level.surface = .record #[] from rfl) failed
  obtain rfl : 6 = k := counted.symm.trans (hcommands.trans hk)
  have ran : level.opening.execution.runFor level.settings level.stride level.trace .overrun 6
      level.surface =
      ⟨.unfinished, ⟨{ x := 330, y := 240, penDown := true }, ⟨4, [], [4, 1]⟩, 7, 6, 2, #[]⟩,
        .record #[.line ⟨320, 240, 325, 240⟩ .white, .line ⟨325, 240, 330, 240⟩ .white]⟩ := by rfl
  obtain ⟨-, rfl, hrecorded⟩ := Run.mk.inj (hbefore.symm.trans ran)
  exact ⟨failed, hturtle, hsurface.trans hrecorded, hlines, hlast⟩

end Interpreter

end TurtleGraphics
