import TurtleGraphics.Proofs.Compiler.Sequence
import TurtleGraphics.Proofs.Execution.Sequence
import TurtleGraphics.Proofs.Script.Reading

/-! # Two programs as one

Two programs that are written as one do what they do one after the other, if the first comes to its
end with no loop open. A loop that stays open would go on in the second program.
-/

namespace TurtleGraphics

namespace Interpreter

variable {interpreter : Interpreter} {p : Program}

theorem runProgram_append (hdone : (interpreter.runProgram p).fault = none)
    (hclosed : (interpreter.runProgram p).interpreter.execution.stack.slots = []) (q : Program) :
    let first := (interpreter.runProgram p).interpreter
    let second := first.runProgram q
    let joined := interpreter.runProgram (p ++ q)
    joined.fault = second.fault ∧ joined.interpreter.surface = second.interpreter.surface ∧
      first.execution.Adds second.interpreter.execution joined.interpreter.execution := by
  intro first second joined
  obtain ⟨n, t, run, hreach, hends, hfault, hfirst⟩ := interpreter.exists_ending p
  have opened := interpreter.opening_inside interpreter.settings.engine.maxRepeat (p ++ q)
  rw [hfault] at hdone
  rw [hfirst] at hclosed
  cases hends with
  | stopped => cases hdone
  | undrawn => cases hdone
  | finished hstep =>
      -- The first run is at the end of its program, and there the second one takes over.
      obtain ⟨-, before, loops, inside⟩ := hreach.inside rfl rfl
      have hend : t.execution.pc = p.size :=
        Nat.le_antisymm inside.passes.index_le
          (Program.readAt_eq_none.mp (Execution.readAt_of_finish hstep))
      obtain ⟨m, u, run', hreach', hends', hfault', hsecond⟩ := first.exists_ending q
      have resumes : Scene.Resumes t.execution first.opening t := by
        simp only [first, hfirst]
        exact ⟨⟨⟨rfl, rfl, rfl, rfl⟩, rfl, hclosed ▸ .nil⟩, rfl⟩
      have same : first.settings = interpreter.settings ∧ first.stride = interpreter.stride ∧
          first.trace = interpreter.trace := by
        simp only [first, hfirst, and_self]
      obtain ⟨settings, stride, trace⟩ := same
      rw [settings, stride, trace] at hreach' hends'
      obtain ⟨v, hreach'', resumes'⟩ := resumes.reaches hend hreach'
      obtain ⟨run'', hends'', ending, surface, adds⟩ := resumes'.ends hend hends'
      obtain ⟨hjoined, hafter⟩ :=
        runProgram_of_run (((hreach.append_left q).trans hreach'').run_eq hends'' opened)
      refine ⟨?_, ?_, ?_⟩
      · rw [hjoined, hfault', ending]
      · rw [hafter, hsecond]
        exact surface
      · rw [hafter, hsecond]
        simp only [first, hfirst]
        exact adds

end Interpreter

/-- If a program runs to its end and leaves no loop open, one written behind it runs as it would
    next. If a program is accepted, one written behind it is compiled as it would be by itself, into
    any sink that takes as many pieces, save that its counters go on behind those of the first. -/
theorem Program.append_runs_and_compiles (p q : Program) (interpreter : Interpreter)
    (compiler : Compiler) (sink : Sink) :
    let first := interpreter.runProgram p
    let written := compiler.compileProgram p sink
    (first.fault = none → first.interpreter.execution.stack.slots = [] →
      let second := first.interpreter.runProgram q
      let joined := interpreter.runProgram (p ++ q)
      joined.fault = second.fault ∧ joined.interpreter.turtle = second.interpreter.turtle ∧
        joined.interpreter.surface = second.interpreter.surface ∧
        joined.interpreter.execution.commands =
          first.interpreter.execution.commands + second.interpreter.execution.commands ∧
        joined.interpreter.execution.lines =
          first.interpreter.execution.lines + second.interpreter.execution.lines) ∧
    (written.fault = none → ∀ alone : Sink, alone.failure = written.sink.failure →
      let limit := compiler.settings.engine.maxRepeat
      let opened := ((p.walk limit).instructions.map Instruction.command).countP Command.opensLoop
      let second := compiler.compileProgram q alone
      let joined := compiler.compileProgram (p ++ q) sink
      joined.fault = second.fault ∧
        ∃ script, script <+: Script.ofCommands 0
          ((q.walk limit).instructions.map Instruction.command) ∧
          second.sink.text = alone.text ++ Script.text script ∧
          joined.sink.text = written.sink.text ++
            Script.text (script.map (Statement.renumbered opened))) := by
  intro first written
  constructor
  · intro hdone hclosed second joined
    obtain ⟨fault, surface, adds⟩ := Interpreter.runProgram_append hdone hclosed q
    exact ⟨fault, adds.turtle, surface, adds.commands, adds.lines⟩
  · intro haccepted alone halone
    exact Compiler.compileProgram_append haccepted q halone

/-- The closed loop by itself, and the open one behind it: its counter is the second one, and the
    joined runs end with it on the stack. -/
theorem Program.append_runs_and_compiles_unclosed :
    let front := Program.unclosed.take 7
    let behind := Program.unclosed.drop 7
    let next := (Interpreter.level.runProgram front).interpreter
    let alone := (Compiler.start {} none).compileProgram behind {}
    (Interpreter.level.runProgram .unclosed).interpreter.turtle =
      (next.runProgram behind).interpreter.turtle ∧
      (Interpreter.level.runProgram .unclosed).interpreter.execution.lines = 2 ∧
      alone.sink.text = "for (let v1 = 0; v1 < 3; ++v1) \x7b\nleft(90);\n" ∧
      ((Compiler.start {} none).compileProgram .unclosed {}).sink.text =
        "pendown = true;\nfor (let v1 = 0; v1 < 2; ++v1) \x7b\nforward(5);\n\x7d\n" ++
          "for (let v2 = 0; v2 < 3; ++v2) \x7b\nleft(90);\n" := by
  intro front behind next alone
  obtain ⟨runs, compiles⟩ := append_runs_and_compiles front behind .level (.start {} none) {}
  have joined : front ++ behind = Program.unclosed := by decide +kernel
  obtain ⟨-, turtle, -, -, lines⟩ := runs (by decide +kernel) (by decide +kernel)
  obtain ⟨-, script, -, htext, htext'⟩ := compiles (by decide +kernel) {} (by decide +kernel)
  have written : alone.sink.text = Script.text [.openLoop 1 3, .left 90] := by decide +kernel
  obtain rfl : script = [.openLoop 1 3, .left 90] := by
    apply Option.some.inj
    rw [← Script.ofText?_text script, ← Script.ofText?_text [.openLoop 1 3, .left 90],
      ← written, htext]
    exact congrArg Script.ofText? String.empty_append.symm
  refine ⟨?_, ?_, ?_, ?_⟩
  · rw [← joined]
    exact turtle
  · rw [← joined, lines]
    decide +kernel
  · rw [written]
    decide +kernel
  · rw [← joined, htext']
    decide +kernel

end TurtleGraphics
