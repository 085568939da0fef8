import TurtleGraphics.Proofs.Compiler.Output
import TurtleGraphics.Proofs.Interpreter.Unrolling
import TurtleGraphics.Proofs.Script.Running

/-! # A run is its compiled script

Running a program and running the script that it compiles to is the same to the turtle and to the
surface. The script is run from its text, by a reader that knows nothing of the program.
-/

namespace TurtleGraphics

/-- A corner drawn three times in a loop, each time behind a loop that only turns. -/
def Program.corners : Program :=
  #[⟨.identifier, 1, "PEN", 0⟩, ⟨.identifier, 1, "DOWN", 0⟩, ⟨.identifier, 2, "REPEAT", 0⟩,
    ⟨.number, 2, "", 3⟩, ⟨.identifier, 3, "REPEAT", 0⟩, ⟨.number, 3, "", 2⟩,
    ⟨.identifier, 4, "LEFT", 0⟩, ⟨.number, 4, "", 45⟩, ⟨.identifier, 5, "LOOP", 0⟩,
    ⟨.identifier, 6, "BACK", 0⟩, ⟨.number, 6, "", 7⟩, ⟨.identifier, 7, "LOOP", 0⟩]

namespace Interpreter

variable {interpreter : Interpreter} {p : Program}

/-- The text that an accepted program compiles to is a script whose loops all count with names of
    their own. Where the program's loops are balanced and the stack has room for them, the script
    leads the turtle as the run of the program does, and makes the same calls in the same order. -/
theorem runProgram_eq_exec_compiled {calls : Array DrawCall}
    (hsurface : interpreter.surface = .record calls)
    {compiler : Compiler} (hsettings : compiler.settings = interpreter.settings) {sink : Sink}
    (haccepted : (compiler.compileProgram p sink).fault = none)
    (hnested : Instruction.WellNested (interpreter.execution.stack.capacity / 2)
      (p.walk interpreter.settings.engine.maxRepeat).instructions)
    (hbalanced : Instruction.loopDepth (p.walk interpreter.settings.engine.maxRepeat).instructions =
      0) :
    let run := interpreter.runProgram p
    ∃ emitted script j, (compiler.compileProgram p sink).sink.text = sink.text ++ emitted ∧
      Script.ofText? emitted = some script ∧ script.counters.Nodup ∧
      script.exec? interpreter.settings interpreter.stride (.start interpreter.turtle) = some j ∧
      run.fault = j.fault.map (fun fault => .run (.number fault)) ∧
      run.interpreter.turtle = j.turtle ∧
      run.interpreter.surface = .record (calls ++ j.calls.toArray) ∧
      (interpreter.Roams → run.fault = none) := by
  intro run
  obtain ⟨hread, htext⟩ := Compiler.compileProgram_accepted haccepted
  rw [hsettings] at hread htext
  have hground : interpreter.surface.isCanvas = false := Surface.isCanvas_of_record hsurface
  obtain ⟨outline, houtline, hfault, hturtle, hcalls, -, -, hfree⟩ :=
    runProgram_of_wellNested hground hread hnested
  obtain ⟨nested, hmarks, hdepth, -⟩ := hnested.exists_outline
  obtain rfl := Option.some.inj (houtline.symm.trans hmarks)
  have hclosed : outline.frames = [] := List.length_eq_zero_iff.mp (by omega)
  let commands :=
    (p.walk interpreter.settings.engine.maxRepeat).instructions.map Instruction.command
  have hcommands : Outline.ofMarks (commands.map Command.mark) = some outline := by
    simp only [commands, List.map_map]
    exact houtline
  refine ⟨Script.text (Script.ofCommands 0 commands), Script.ofCommands 0 commands, _, htext,
    Script.ofText?_text _, Script.nodup_counters 0 commands,
    Script.exec?_ofCommands hcommands hclosed _, hfault, hturtle, ?_, hfree⟩
  rw [hcalls, hsurface, Surface.drawAll_record]

/-- Two nested loops: the text, and the turtle and the lines that both ways lead to. -/
theorem runProgram_eq_exec_compiled_corners :
    ((Compiler.start level.settings none).compileProgram .corners {}).sink.text =
        "pendown = true;\nfor (let v1 = 0; v1 < 3; ++v1) \x7b\n" ++
          "for (let v2 = 0; v2 < 2; ++v2) \x7b\nleft(45);\n\x7d\nback(7);\n\x7d\n" ∧
      (level.runProgram .corners).fault = none ∧
      (level.runProgram .corners).interpreter.turtle =
        { x := 299, y := 240, angle := 270, penDown := true } ∧
      (level.runProgram .corners).interpreter.surface = .record #[.line ⟨320, 240, 313, 240⟩ .white,
        .line ⟨313, 240, 306, 240⟩ .white, .line ⟨306, 240, 299, 240⟩ .white] := by
  have written : ((Compiler.start level.settings none).compileProgram .corners {}).sink.text =
      "pendown = true;\nfor (let v1 = 0; v1 < 3; ++v1) \x7b\n" ++
        "for (let v2 = 0; v2 < 2; ++v2) \x7b\nleft(45);\n\x7d\nback(7);\n\x7d\n" := by
    decide +kernel
  obtain ⟨emitted, script, j, htext, hscript, -, hexec, hfault, hturtle, hsurface, -⟩ :=
    runProgram_eq_exec_compiled (show level.surface = .record #[] from rfl)
      (show (Compiler.start level.settings none).settings = level.settings from rfl)
      (show ((Compiler.start level.settings none).compileProgram .corners {}).fault = none by
        decide +kernel)
      (by decide +kernel) (by decide +kernel)
  have spelled : ((Compiler.start level.settings none).compileProgram .corners {}).sink.text =
      Script.text [.pen true, .openLoop 1 3, .openLoop 2 2, .left 45, .closeLoop, .back 7,
        .closeLoop] := by
    rw [written]
    decide +kernel
  obtain rfl : emitted = _ :=
    (String.empty_append (s := emitted)).symm.trans (htext.symm.trans spelled)
  obtain rfl := Option.some.inj (hscript.symm.trans (Script.ofText?_text _))
  have ran :
      Script.exec? level.settings level.stride [.pen true, .openLoop 1 3, .openLoop 2 2, .left 45,
      .closeLoop, .back 7, .closeLoop] (.start level.turtle) =
        some ⟨{ x := 299, y := 240, angle := 270, penDown := true },
          [.line ⟨320, 240, 313, 240⟩ .white, .line ⟨313, 240, 306, 240⟩ .white,
            .line ⟨306, 240, 299, 240⟩ .white], none⟩ := by decide +kernel
  obtain rfl := Option.some.inj (hexec.symm.trans ran)
  exact ⟨written, hfault, hturtle, hsurface⟩

end Interpreter

end TurtleGraphics
