import TurtleGraphics.Proofs.Execution.Loops

/-! # A run is its unrolled program

Running a program that is read to its end and is well nested does what its unrolled commands do. A
move may have no value. Then the run stops exactly where the unrolled commands stop.
-/

namespace TurtleGraphics

namespace Interpreter

variable {interpreter : Interpreter} {p : Program}

theorem runProgram_of_follows {commands : List Command} {index : Nat} {slots : List Int}
    (h : Follows interpreter.settings interpreter.stride interpreter.trace p interpreter.surface
      (.start interpreter.turtle) commands interpreter.opening index slots)
    (bound : commands.length < p.workBound) (hend : p.size ≤ index) :
    let j :=
      (Journey.start interpreter.turtle).follow interpreter.settings interpreter.stride commands
    let run := interpreter.runProgram p
    run.fault = j.fault.map (fun fault => .run (.number fault)) ∧
      run.interpreter.turtle = j.turtle ∧
      run.interpreter.surface = interpreter.surface.drawAll j.calls ∧
      run.interpreter.execution.lines = j.lines ∧
      (j.fault = none → run.interpreter.execution.commands = commands.length ∧
        run.interpreter.execution.stack.slots = slots) := by
  obtain ⟨n, t, hreach, hshows, hdone, hstuck⟩ := h
  intro j run
  cases hfault : j.fault with
  | none =>
      obtain ⟨rfl, hpc, hslots, -⟩ := hdone hfault
      have hstep : t.execution.step interpreter.settings interpreter.stride interpreter.trace p =
          .finish :=
        Execution.step_finish (Program.readAt_eq_none.mpr (by rw [hpc]; exact hend))
      obtain ⟨hnone, hafter⟩ := runProgram_of_run (hreach.run_finished bound hstep)
      have hcommands : t.execution.commands = commands.length := by
        rw [hreach.commands]
        exact Nat.zero_add _
      simp only [run, hnone, turtle, hafter]
      exact ⟨rfl, hshows.turtle, hshows.surface, hshows.lines, fun _ => ⟨hcommands, hslots⟩⟩
  | some fault =>
      obtain ⟨hlt, x, hstep, hturtle, -, hlines⟩ := hstuck fault hfault
      obtain ⟨hsome, hafter⟩ := runProgram_of_run (hreach.run_failed (hlt.trans bound) hstep)
      simp only [run, hsome, turtle, hafter]
      exact ⟨rfl, hturtle.trans hshows.turtle, hshows.surface, hlines.trans hshows.lines, nofun⟩

/-- A program that is read to its end and nests no deeper than the stack has room for is carried out
    as the commands of its outline. -/
theorem runProgram_of_wellNested (hground : interpreter.surface.isCanvas = false)
    (hread : (p.walk interpreter.settings.engine.maxRepeat).fault = none)
    (hnested : Instruction.WellNested (interpreter.execution.stack.capacity / 2)
      (p.walk interpreter.settings.engine.maxRepeat).instructions) :
    ∃ outline, Outline.ofMarks ((p.walk interpreter.settings.engine.maxRepeat).instructions.map
        fun i => i.command.mark) = some outline ∧
      let j := (Journey.start interpreter.turtle).follow interpreter.settings interpreter.stride
        outline.unroll
      let run := interpreter.runProgram p
      run.fault = j.fault.map (fun fault => .run (.number fault)) ∧
        run.interpreter.turtle = j.turtle ∧
        run.interpreter.surface = interpreter.surface.drawAll j.calls ∧
        run.interpreter.execution.lines = j.lines ∧
        (j.fault = none → run.interpreter.execution.commands = outline.unroll.length ∧
          (run.interpreter.execution.stack.slots.length : Int) =
            2 * Instruction.loopDepth (p.walk interpreter.settings.engine.maxRepeat).instructions) ∧
        (interpreter.Roams → run.fault = none) := by
  have passed := Program.Passes.of_walk interpreter.settings.engine.maxRepeat p
  have hend := Program.Passes.boundary_walk hread
  obtain ⟨outline, slots, houtline, hlength, hfollows⟩ :=
    passed.follows hnested hground interpreter.opening_shows rfl rfl rfl
  obtain ⟨hfault, hturtle, hcalls, hlines, hdone⟩ :=
    runProgram_of_follows hfollows (passed.length_unroll_lt houtline) hend.ge
  refine ⟨outline, houtline, hfault, hturtle, hcalls, hlines, ?_, ?_⟩
  · intro hnone
    obtain ⟨hcommands, hslots⟩ := hdone hnone
    exact ⟨hcommands, by rw [hslots, hlength]⟩
  · intro hroams
    have accepted := (Outline.stands_of_passes passed houtline).accepted
    rw [hfault, Journey.follow_covered hroams accepted (Or.inl rfl) rfl]
    rfl

/-- Running a program makes of the turtle and of the surface what its unrolled commands make of
    them, one after the other. Each of them is dispatched once, and only loops that are never closed
    stay on the stack. -/
theorem runProgram_unrolls {calls : Array DrawCall} (hsurface : interpreter.surface = .record calls)
    (hread : (p.walk interpreter.settings.engine.maxRepeat).fault = none)
    (hnested : Instruction.WellNested (interpreter.execution.stack.capacity / 2)
      (p.walk interpreter.settings.engine.maxRepeat).instructions) :
    ∃ outline, Outline.ofMarks ((p.walk interpreter.settings.engine.maxRepeat).instructions.map
        fun i => i.command.mark) = some outline ∧
      let j := (Journey.start interpreter.turtle).follow interpreter.settings interpreter.stride
        outline.unroll
      let run := interpreter.runProgram p
      run.fault = j.fault.map (fun fault => .run (.number fault)) ∧
        run.interpreter.turtle = j.turtle ∧
        run.interpreter.surface = .record (calls ++ j.calls.toArray) ∧
        run.interpreter.execution.lines = j.lines ∧
        (j.fault = none → run.interpreter.execution.commands = outline.unroll.length ∧
          (run.interpreter.execution.stack.slots.length : Int) =
            2 * Instruction.loopDepth (p.walk interpreter.settings.engine.maxRepeat).instructions) ∧
        (interpreter.Roams → run.fault = none) := by
  have hground : interpreter.surface.isCanvas = false := Surface.isCanvas_of_record hsurface
  obtain ⟨outline, houtline, hfault, hturtle, hcalls, rest⟩ :=
    runProgram_of_wellNested hground hread hnested
  refine ⟨outline, houtline, hfault, hturtle, ?_, rest⟩
  rw [hcalls, hsurface, Surface.drawAll_record]

/-- A loop that draws two lines, and a turn in a loop that is never closed. -/
theorem runProgram_unrolls_unclosed :
    (level.runProgram .unclosed).fault = none ∧
      (level.runProgram .unclosed).interpreter.turtle =
        { x := 330, y := 240, angle := 90, penDown := true } ∧
      (level.runProgram .unclosed).interpreter.execution.commands = 8 ∧
      (level.runProgram .unclosed).interpreter.execution.stack.slots.length = 2 := by
  obtain ⟨outline, houtline, hfault, hturtle, -, -, hdone, -⟩ :=
    runProgram_unrolls (show level.surface = .record #[] from rfl)
      (show (Program.unclosed.walk level.settings.engine.maxRepeat).fault = none by decide +kernel)
      (by decide +kernel)
  have shape :
      Outline.ofMarks ((Program.unclosed.walk level.settings.engine.maxRepeat).instructions.map
      fun i => i.command.mark) =
        some ⟨[(.loop (.plain .empty (.pen true)) 2 (.plain .empty (.forward 5)), 3)],
          .plain .empty (.left 90)⟩ := by decide +kernel
  obtain rfl := Option.some.inj (houtline.symm.trans shape)
  obtain ⟨hcommands, hstack⟩ := hdone rfl
  have unclosed : Instruction.loopDepth
      (Program.unclosed.walk level.settings.engine.maxRepeat).instructions = 1 := by decide +kernel
  exact ⟨hfault, hturtle, hcommands, by omega⟩

/-- Beyond all doubles a kept heading cannot be turned, and no heading has a cosine. So a run that
starts there takes no turn and no move, although its program is in order. -/
theorem runProgram_unrolls_beyond :
    let turtle : Turtle := { x := 320, y := 240, angle := 10 ^ 400 }
    let start (settings : Settings) (stride : Stride) : Interpreter :=
      ⟨settings, stride, false, .record #[], ⟨turtle, ⟨4, [], []⟩, 0, 0, 0, #[]⟩⟩
    let turn : Program := #[⟨.identifier, 1, "LEFT", 0⟩, ⟨.number, 1, "", 1⟩]
    let move : Program := #[⟨.identifier, 1, "FORWARD", 0⟩, ⟨.number, 1, "", 1⟩]
    (∀ p ∈ [turn, move], (p.walk 65535).fault = none ∧
      Instruction.WellNested (4 / 2) (p.walk 65535).instructions) ∧
      (∀ stride, ((start { engine := { normalizeAngle := false } } stride).runProgram turn).fault =
        some (.run (.number .integerTooLarge))) ∧
      ∀ trigonometry : Trigonometry, ((start {} trigonometry.stride).runProgram move).fault =
        some (.run (.number .integerTooLarge)) := by
  intro turtle start turn move
  have order : ∀ p ∈ [turn, move], (p.walk 65535).fault = none ∧
      Instruction.WellNested (4 / 2) (p.walk 65535).instructions := by decide +kernel
  have fails {settings : Settings} {stride : Stride} {p : Program} {command : Command}
      (hmem : p ∈ [turn, move])
      (hlimit : settings.engine.maxRepeat = 65535)
      (shape : Outline.ofMarks ((p.walk 65535).instructions.map fun i => i.command.mark) =
        some ⟨[], .plain .empty command⟩)
      (stuck : turtle.obey settings stride command = .error .integerTooLarge) :
      ((start settings stride).runProgram p).fault = some (.run (.number .integerTooLarge)) := by
    obtain ⟨read, nested⟩ := order p hmem
    rw [← hlimit] at read nested shape
    obtain ⟨outline, houtline, hfault, -⟩ :=
      @runProgram_of_wellNested (start settings stride) p rfl read nested
    obtain rfl := Option.some.inj (houtline.symm.trans shape)
    have stops : ((Journey.start turtle).obey settings stride command).fault =
        some .integerTooLarge := by
      simp only [Journey.obey, Journey.start, stuck]
    rw [hfault]
    exact congrArg (Option.map fun fault => InterpreterFault.run (.number fault)) stops
  refine ⟨order, fun stride => ?_, fun trigonometry => ?_⟩
  · have stuck : turtle.turn false 1 = .error .integerTooLarge := by decide +kernel
    have taken : turtle.obey { engine := { normalizeAngle := false } } stride (.left 1) =
      .error .integerTooLarge := by
      rw [Turtle.obey, stuck]
      rfl
    exact fails (by simp) rfl (by decide +kernel) taken
  · have beyond : Double.ofInt turtle.angle = .error .integerTooLarge := by decide +kernel
    have stuck : turtle.move trigonometry.stride 1 = .error .integerTooLarge := by
      rw [Turtle.move, Trigonometry.stride, radians, beyond]
      rfl
    have taken : turtle.obey {} trigonometry.stride (.forward 1) = .error .integerTooLarge := stuck
    exact fails (by simp) rfl (by decide +kernel) taken

end Interpreter

end TurtleGraphics
