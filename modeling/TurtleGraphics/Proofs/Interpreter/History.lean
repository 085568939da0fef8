import TurtleGraphics.Printing.Engine
import TurtleGraphics.Proofs.Compiler.Output
import TurtleGraphics.Proofs.Execution.Ending
import TurtleGraphics.Proofs.Execution.Ground

/-! # Engines and their histories

An interpreter and a compiler are used again and again, and their calls may fail anywhere. Of all
that an earlier call left behind, a later one finds the turtle and the surface, and nothing else:
the stack is emptied and the counters start at zero. What was left in the slots of the stack stays
there, but nothing reads it.
-/

namespace TurtleGraphics

namespace Interpreter

/-- What may be asked of an interpreter. -/
inductive Call where
  | run (source : String)
  | runProgram (p : Program)
  | resetSurface
  | drawTurtle (size : Option Float)

def called (interpreter : Interpreter) : Call → Interpreter
  | .run source => (interpreter.run source).interpreter
  | .runProgram p => (interpreter.runProgram p).interpreter
  | .resetSurface => interpreter.resetSurface
  | .drawTurtle size => (interpreter.drawTurtle size).1

def after (interpreter : Interpreter) (calls : List Call) : Interpreter :=
  calls.foldl called interpreter

def withTurtle (interpreter : Interpreter) (turtle : Turtle) : Interpreter :=
  { interpreter with execution := { interpreter.execution with turtle } }

/-- What no call changes. -/
structure Keeps (first current : Interpreter) : Prop where
  settings : current.settings = first.settings
  stride : current.stride = first.stride
  trace : current.trace = first.trace
  capacity : current.execution.stack.capacity = first.execution.stack.capacity
  extent : current.surface.extent = first.surface.extent

variable {first current next : Interpreter}

theorem Keeps.refl (interpreter : Interpreter) : interpreter.Keeps interpreter :=
  ⟨rfl, rfl, rfl, rfl, rfl⟩

theorem Keeps.symm (h : first.Keeps current) : current.Keeps first :=
  ⟨h.settings.symm, h.stride.symm, h.trace.symm, h.capacity.symm, h.extent.symm⟩

theorem Keeps.trans (h : first.Keeps current) (h' : current.Keeps next) : first.Keeps next :=
  ⟨h'.settings.trans h.settings, h'.stride.trans h.stride, h'.trace.trans h.trace,
    h'.capacity.trans h.capacity, h'.extent.trans h.extent⟩

theorem keeps_withTurtle (interpreter : Interpreter) (turtle : Turtle) :
    interpreter.Keeps (interpreter.withTurtle turtle) :=
  ⟨rfl, rfl, rfl, rfl, rfl⟩

theorem keeps_surface {surface : Surface} (h : surface.extent = current.surface.extent) :
    current.Keeps { current with surface } :=
  ⟨rfl, rfl, rfl, rfl, h⟩

/-- All that a run depends on is the turtle, and the surface by its extent. -/
theorem Keeps.runProgram_congr (h : first.Keeps current) (hturtle : current.turtle = first.turtle)
    (p : Program) :
    let run := first.runProgram p
    let run' := current.runProgram p
    run'.fault = run.fault ∧ run'.notices = run.notices ∧
      run'.interpreter.execution.used = run.interpreter.execution.used ∧
      ∃ calls, run.interpreter.surface = first.surface.drawAll calls ∧
        run'.interpreter.surface = current.surface.drawAll calls := by
  obtain ⟨settings, stride, trace, surface, execution⟩ := first
  obtain ⟨settings', stride', trace', ground, execution'⟩ := current
  obtain ⟨rfl, rfl, rfl, hcapacity, extent⟩ := h
  have turtle : execution'.turtle = execution.turtle := hturtle
  have capacity : execution'.stack.capacity = execution.stack.capacity := hcapacity
  have fresh : execution'.fresh.used = execution.fresh.used := by
    simp only [Execution.fresh, LoopStack.clear, Execution.used, Execution.holding, turtle,
      capacity]
  have alike := Execution.runFor_alike settings' stride' trace' p p.workBound fresh extent
  simp only [Interpreter.runProgram, Execution.run]
  generalize execution.fresh.runFor settings' stride' trace' p p.workBound surface = run at alike
  generalize execution'.fresh.runFor settings' stride' trace' p p.workBound ground = run' at alike
  obtain ⟨ending, after, painted⟩ := run
  obtain ⟨ending', after', painted'⟩ := run'
  obtain ⟨rfl, left, calls⟩ := alike
  change after'.used = after.used at left
  have traced : after'.traced = after.traced := congrArg (fun x => x.traced) left
  have commands : after'.commands = after.commands := congrArg (fun x => x.commands) left
  have lines : after'.lines = after.lines := congrArg (fun x => x.lines) left
  simp only [traced, commands, lines]
  cases ending' <;> exact ⟨rfl, rfl, left, calls⟩

theorem keeps_runProgram (interpreter : Interpreter) (p : Program) :
    interpreter.Keeps (interpreter.runProgram p).interpreter := by
  obtain ⟨n, t, run, hreach, hends, -, hafter⟩ := interpreter.exists_ending p
  obtain ⟨hcapacity, -⟩ := hreach.inside rfl rfl
  obtain ⟨-, -, -, calls, hcalls, -⟩ := (Keeps.refl interpreter).runProgram_congr rfl p
  refine ⟨?_, ?_, ?_, ?_, ?_⟩
  · rw [hafter]
  · rw [hafter]
  · rw [hafter]
  · rw [hafter]
    exact hends.capacity.trans hcapacity
  · rw [hcalls, Surface.extent_drawAll]

variable {interpreter : Interpreter} {source : String}

theorem run_of_error {fault : SourceFault}
    (h : (interpreter.settings.lexer.read source).program = .error fault) :
    (interpreter.run source).fault = some (.source fault) ∧
      (interpreter.run source).interpreter = interpreter := by
  rcases hread : interpreter.settings.lexer.read source with ⟨program, notices⟩
  rw [hread] at h
  obtain rfl : program = .error fault := h
  simp only [run, hread, and_self]

theorem run_of_ok {p : Program} (h : (interpreter.settings.lexer.read source).program = .ok p) :
    (interpreter.run source).fault = (interpreter.runProgram p).fault ∧
      (interpreter.run source).interpreter = (interpreter.runProgram p).interpreter := by
  rcases hread : interpreter.settings.lexer.read source with ⟨program, notices⟩
  rw [hread] at h
  obtain rfl : program = .ok p := h
  simp only [run, hread, and_self]

theorem run_of_read {text : String}
    (h : (interpreter.settings.lexer.read text).program =
      (interpreter.settings.lexer.read source).program) :
    (interpreter.run text).fault = (interpreter.run source).fault ∧
      (interpreter.run text).interpreter = (interpreter.run source).interpreter := by
  cases hread : (interpreter.settings.lexer.read source).program with
  | error fault =>
      obtain ⟨fault, same⟩ := run_of_error hread
      obtain ⟨fault', same'⟩ := run_of_error (h.trans hread)
      exact ⟨fault'.trans fault.symm, same'.trans same.symm⟩
  | ok p =>
      obtain ⟨fault, after⟩ := run_of_ok hread
      obtain ⟨fault', after'⟩ := run_of_ok (h.trans hread)
      exact ⟨fault'.trans fault.symm, after'.trans after.symm⟩

/-- The program that a call runs, if it runs one. -/
def Call.program? (lexer : LexerSettings) : Call → Option Program
  | .run source => (lexer.read source).program.toOption
  | .runProgram p => some p
  | .resetSurface | .drawTurtle _ => none

theorem called_cases (interpreter : Interpreter) (call : Call) :
    (∃ p, call.program? interpreter.settings.lexer = some p ∧
        interpreter.called call = (interpreter.runProgram p).interpreter) ∨
      call.program? interpreter.settings.lexer = none ∧
      (interpreter.called call).turtle = interpreter.turtle := by
  cases call with
  | run source =>
      change (∃ p, (interpreter.settings.lexer.read source).program.toOption = some p ∧
          (interpreter.run source).interpreter = _) ∨
        (interpreter.settings.lexer.read source).program.toOption = none ∧
          (interpreter.run source).interpreter.turtle = _
      cases hread : (interpreter.settings.lexer.read source).program with
      | error fault =>
          rw [(run_of_error hread).2]
          exact .inr ⟨rfl, rfl⟩
      | ok p => exact .inl ⟨p, rfl, (run_of_ok hread).2⟩
  | runProgram p => exact .inl ⟨p, rfl, rfl⟩
  | resetSurface | drawTurtle => exact .inr ⟨rfl, rfl⟩

theorem keeps_called (interpreter : Interpreter) (call : Call) :
    interpreter.Keeps (interpreter.called call) := by
  cases call with
  | run source =>
      change interpreter.Keeps (interpreter.run source).interpreter
      cases hread : (interpreter.settings.lexer.read source).program with
      | error fault =>
          rw [(run_of_error hread).2]
          exact .refl interpreter
      | ok p =>
          rw [(run_of_ok hread).2]
          exact interpreter.keeps_runProgram p
  | runProgram p => exact interpreter.keeps_runProgram p
  | resetSurface => exact keeps_surface interpreter.surface.extent_reset
  | drawTurtle size =>
      cases size with
      | some size => exact keeps_surface (Surface.extent_drawGlyph _ _ size _ _)
      | none => exact keeps_surface (Surface.extent_drawTurtle _ _ _ _)

theorem keeps_after (interpreter : Interpreter) (calls : List Call) :
    interpreter.Keeps (interpreter.after calls) := by
  induction calls generalizing interpreter with
  | nil => exact .refl interpreter
  | cons call calls ih => exact (interpreter.keeps_called call).trans (ih _)

theorem keeps_start {settings : Settings} {trace : Option Bool} {surface ground : Surface}
    {memory : Memory}
    {first fresh : Interpreter} (hfirst : start settings trace surface memory = .ok first)
    (hfresh : start settings trace ground memory = .ok fresh)
    (hground : ground.extent = surface.extent) :
    first.settings = settings ∧ first.surface = surface ∧ fresh.surface = ground ∧
    first.Keeps fresh := by
  obtain ⟨stack, hstack, hfirst⟩ := exists_of_bind_ok hfirst
  obtain ⟨stack', hstack', hfresh⟩ := exists_of_bind_ok hfresh
  cases hstack.symm.trans hstack'
  cases hfirst
  cases hfresh
  exact ⟨rfl, rfl, rfl, rfl, rfl, rfl, rfl, hground⟩

end Interpreter

namespace Compiler

/-- What may be asked of a compiler. -/
inductive Call where
  | compileTo (source : String) (sink : Sink)
  | compileProgram (p : Program) (sink : Sink)
  | printTo (source : String) (sink : Sink)
  | printProgram (p : Program) (sink : Sink)

def called (compiler : Compiler) : Call → Compiler
  | .compileTo source sink => (compiler.compileTo source sink).compiler
  | .compileProgram p sink => (compiler.compileProgram p sink).compiler
  | .printTo source sink => (compiler.printTo source sink).compiler
  | .printProgram p sink => (compiler.printProgram p sink).compiler

def after (compiler : Compiler) (calls : List Call) : Compiler :=
  calls.foldl called compiler

variable {first current compiler : Compiler} {source : String}

theorem compileProgram_keeps (compiler : Compiler) (p : Program) (sink : Sink) :
    (compiler.compileProgram p sink).compiler.settings = compiler.settings ∧
      (compiler.compileProgram p sink).compiler.trace = compiler.trace := by
  rw [compileProgram_eq]
  rcases Compilation.ofWalk (p.walk compiler.settings.engine.maxRepeat) (.start sink) with
    ⟨c, _ | fault⟩ <;>
    exact ⟨rfl, rfl⟩

theorem printProgram_keeps (compiler : Compiler) (p : Program) (sink : Sink) :
    (compiler.printProgram p sink).compiler.settings = compiler.settings ∧
      (compiler.printProgram p sink).compiler.trace = compiler.trace := by
  simp only [printProgram]
  rcases Instruction.printed (compiler.takeUp p sink).opened
    (compiler.takeUp p sink).walk.instructions with ⟨front, _ | ⟨stuck, fault⟩⟩
  · exact compiler.compileProgram_keeps p sink
  · simp only [printUpTo]
    rcases Compilation.writeAll front (compiler.takeUp p sink).compilation with ⟨c, _ | refused⟩ <;>
      exact ⟨rfl, rfl⟩

/-- Nothing that the last compilation left survives when a program is taken up. -/
theorem takeUp_congr (hsettings : current.settings = first.settings)
    (htrace : current.trace = first.trace)
    (p : Program) (sink : Sink) : current.takeUp p sink = first.takeUp p sink := by
  unfold takeUp
  rw [hsettings, htrace]

theorem compileProgram_congr (hsettings : current.settings = first.settings)
    (htrace : current.trace = first.trace) (p : Program) (sink : Sink) :
    current.compileProgram p sink = first.compileProgram p sink := by
  unfold compileProgram
  rw [takeUp_congr hsettings htrace]

theorem printProgram_congr (hsettings : current.settings = first.settings)
    (htrace : current.trace = first.trace) (p : Program) (sink : Sink) :
    current.printProgram p sink = first.printProgram p sink := by
  unfold printProgram
  rw [takeUp_congr hsettings htrace, compileProgram_congr hsettings htrace]

theorem compileTo_of_error {fault : SourceFault} (sink : Sink)
    (h : (compiler.settings.lexer.read source).program = .error fault) :
    (compiler.compileTo source sink).fault = some (.source fault) ∧
      (compiler.compileTo source sink).compiler = compiler ∧
      (compiler.compileTo source sink).sink = sink := by
  rcases hread : compiler.settings.lexer.read source with ⟨program, notices⟩
  rw [hread] at h
  obtain rfl : program = .error fault := h
  simp only [compileTo, hread, and_self]

theorem compileTo_of_ok {p : Program} (sink : Sink)
    (h : (compiler.settings.lexer.read source).program = .ok p) :
    (compiler.compileTo source sink).fault = (compiler.compileProgram p sink).fault ∧
      (compiler.compileTo source sink).compiler = (compiler.compileProgram p sink).compiler ∧
      (compiler.compileTo source sink).sink = (compiler.compileProgram p sink).sink := by
  rcases hread : compiler.settings.lexer.read source with ⟨program, notices⟩
  rw [hread] at h
  obtain rfl : program = .ok p := h
  simp only [compileTo, hread, and_self]

theorem compileTo_of_read {text : String}
    (h : (compiler.settings.lexer.read text).program =
      (compiler.settings.lexer.read source).program) (sink : Sink) :
    (compiler.compileTo text sink).fault = (compiler.compileTo source sink).fault ∧
      (compiler.compileTo text sink).compiler = (compiler.compileTo source sink).compiler ∧
      (compiler.compileTo text sink).sink = (compiler.compileTo source sink).sink := by
  cases hread : (compiler.settings.lexer.read source).program with
  | error fault =>
      obtain ⟨fault, same, unwritten⟩ := compileTo_of_error sink hread
      obtain ⟨fault', same', unwritten'⟩ := compileTo_of_error sink (h.trans hread)
      exact ⟨fault'.trans fault.symm, same'.trans same.symm, unwritten'.trans unwritten.symm⟩
  | ok p =>
      obtain ⟨fault, after, written⟩ := compileTo_of_ok sink hread
      obtain ⟨fault', after', written'⟩ := compileTo_of_ok sink (h.trans hread)
      exact ⟨fault'.trans fault.symm, after'.trans after.symm, written'.trans written.symm⟩

theorem compileTo_congr (hsettings : current.settings = first.settings)
    (htrace : current.trace = first.trace) {p : Program}
    (h : (first.settings.lexer.read source).program = .ok p) (sink : Sink) :
    current.compileTo source sink = first.compileTo source sink := by
  rcases hread : first.settings.lexer.read source with ⟨program, notices⟩
  rw [hread] at h
  obtain rfl : program = .ok p := h
  simp only [compileTo, hsettings, hread, compileProgram_congr hsettings htrace]

theorem printTo_of_error {fault : SourceFault} (sink : Sink)
    (h : (compiler.settings.lexer.read source).program = .error fault) :
    (compiler.printTo source sink).raised = some (CompileFault.source fault).raised ∧
      (compiler.printTo source sink).compiler = compiler ∧
      (compiler.printTo source sink).sink = sink := by
  rcases hread : compiler.settings.lexer.read source with ⟨program, notices⟩
  rw [hread] at h
  obtain rfl : program = .error fault := h
  simp only [printTo, hread, and_self]

theorem printTo_of_ok {p : Program} (sink : Sink)
    (h : (compiler.settings.lexer.read source).program = .ok p) :
    (compiler.printTo source sink).raised = (compiler.printProgram p sink).raised ∧
      (compiler.printTo source sink).compiler = (compiler.printProgram p sink).compiler ∧
      (compiler.printTo source sink).sink = (compiler.printProgram p sink).sink := by
  rcases hread : compiler.settings.lexer.read source with ⟨program, notices⟩
  rw [hread] at h
  obtain rfl : program = .ok p := h
  simp only [printTo, hread, and_self]

theorem printTo_congr (hsettings : current.settings = first.settings)
    (htrace : current.trace = first.trace) {p : Program}
    (h : (first.settings.lexer.read source).program = .ok p) (sink : Sink) :
    current.printTo source sink = first.printTo source sink := by
  rcases hread : first.settings.lexer.read source with ⟨program, notices⟩
  rw [hread] at h
  obtain rfl : program = .ok p := h
  simp only [printTo, hsettings, hread, printProgram_congr hsettings htrace]

theorem called_keeps (compiler : Compiler) (call : Call) :
    (compiler.called call).settings = compiler.settings ∧
    (compiler.called call).trace = compiler.trace := by
  cases call with
  | compileProgram p sink => exact compiler.compileProgram_keeps p sink
  | compileTo source sink =>
      rcases hread : compiler.settings.lexer.read source with ⟨fault | p, notices⟩
      · simp only [called, compileTo, hread, and_self]
      · simp only [called, compileTo, hread]
        exact compiler.compileProgram_keeps p sink
  | printProgram p sink => exact compiler.printProgram_keeps p sink
  | printTo source sink =>
      rcases hread : compiler.settings.lexer.read source with ⟨fault | p, notices⟩
      · simp only [called, printTo, hread, and_self]
      · simp only [called, printTo, hread]
        exact compiler.printProgram_keeps p sink

theorem after_keeps (compiler : Compiler) (calls : List Call) :
    (compiler.after calls).settings = compiler.settings ∧
    (compiler.after calls).trace = compiler.trace := by
  induction calls generalizing compiler with
  | nil => exact ⟨rfl, rfl⟩
  | cons call calls ih =>
      obtain ⟨settings, trace⟩ := compiler.called_keeps call
      obtain ⟨settings', trace'⟩ := ih (compiler.called call)
      exact ⟨settings'.trans settings, trace'.trans trace⟩

end Compiler

/-- Whatever an engine was asked before, a compilation goes as on a compiler that was not used yet,
    also where statements are printed and one cannot be, and a run as on such an interpreter with
    the same turtle, on any surface of the same extent. Only what was left in slots that are not in
    use may differ. Text that cannot be read leaves the engines and the sink as they were. -/
theorem engines_keep_no_history (settings : Settings) (trace : Option Bool) :
    (∀ (history : List Compiler.Call) (sink : Sink),
      let fresh := Compiler.start settings trace
      let current := fresh.after history
      (∀ p, current.compileProgram p sink = fresh.compileProgram p sink ∧
        current.printProgram p sink = fresh.printProgram p sink) ∧
      (∀ source p, (settings.lexer.read source).program = .ok p →
        current.compileTo source sink = fresh.compileTo source sink ∧
          current.printTo source sink = fresh.printTo source sink) ∧
      ∀ source fault, (settings.lexer.read source).program = .error fault →
        ((current.compileTo source sink).fault = some (.source fault) ∧
          (current.compileTo source sink).compiler = current ∧
          (current.compileTo source sink).sink = sink) ∧
        (current.printTo source sink).raised = some (CompileFault.source fault).raised ∧
          (current.printTo source sink).compiler = current ∧
          (current.printTo source sink).sink = sink) ∧
    ∀ (surface ground : Surface) (memory : Memory) (first fresh : Interpreter),
      ground.extent = surface.extent →
      Interpreter.start settings trace surface memory = .ok first →
      Interpreter.start settings trace ground memory = .ok fresh →
      ∀ history : List Interpreter.Call, let current := first.after history
      (∀ p,
        let run := current.runProgram p
        let again := (fresh.withTurtle current.turtle).runProgram p
        run.fault = again.fault ∧ run.notices = again.notices ∧
          run.interpreter.execution.used = again.interpreter.execution.used ∧
          ∃ calls, run.interpreter.surface = current.surface.drawAll calls ∧
            again.interpreter.surface = ground.drawAll calls) ∧
      ∀ source fault, (settings.lexer.read source).program = .error fault →
        (current.run source).fault = some (.source fault) ∧
          (current.run source).interpreter = current := by
  constructor
  · intro history sink fresh current
    obtain ⟨hsettings, htrace⟩ : current.settings = settings ∧ current.trace = fresh.trace :=
      fresh.after_keeps history
    refine ⟨fun p => ?_, fun source p hread => ?_, fun source fault hread => ?_⟩
    · exact ⟨Compiler.compileProgram_congr hsettings htrace p sink,
        Compiler.printProgram_congr hsettings htrace p sink⟩
    · exact ⟨Compiler.compileTo_congr hsettings htrace hread sink,
        Compiler.printTo_congr hsettings htrace hread sink⟩
    · rw [← hsettings] at hread
      exact ⟨Compiler.compileTo_of_error sink hread, Compiler.printTo_of_error sink hread⟩
  · intro surface ground memory first fresh hground hfirst hfresh history current
    obtain ⟨hsettings, hsurface, rfl, keeps⟩ := Interpreter.keeps_start hfirst hfresh hground
    have kept := first.keeps_after history
    constructor
    · intro p run again
      have alike : (fresh.withTurtle current.turtle).Keeps current :=
        ((fresh.keeps_withTurtle current.turtle).symm.trans keeps.symm).trans kept
      obtain ⟨hfault, hnotices, hexecution, calls, hagain, hrun⟩ := alike.runProgram_congr rfl p
      exact ⟨hfault, hnotices, hexecution, calls, hrun, hagain⟩
    · intro source fault hread
      have same : current.settings = settings := kept.settings.trans hsettings
      rw [← same] at hread
      exact Interpreter.run_of_error hread

/-- A loop that was left open is not gone on with, and a sink that broke off is not gone on with
    either. -/
theorem engines_keep_no_history_unclosed :
    let opening : Program :=
      #[⟨.identifier, 1, "REPEAT", 0⟩, ⟨.number, 1, "", 3⟩, ⟨.identifier, 2, "LEFT", 0⟩,
      ⟨.number, 2, "", 90⟩]
    let full : Sink := ⟨"", some (1, ⟨true, "no space left"⟩)⟩
    ((Compiler.start {} none).compileProgram opening full).fault =
        some (.diagnostic ⟨.emit "no space left", some 2⟩) ∧
      (((Compiler.start {} none).after [.compileProgram opening full]).compileProgram opening
        {}).sink.text =
        "for (let v1 = 0; v1 < 3; ++v1) \x7b\nleft(90);\n" ∧
      ∃ first, Interpreter.start {} none (.record #[]) .standard = .ok first ∧
        (first.runProgram opening).interpreter.execution.stack.slots = [3, 2] ∧
        ((first.after [.runProgram opening]).runProgram #[⟨.identifier, 1, "LOOP", 0⟩]).fault =
          some (.run (.diagnostic ⟨.stack .empty, some 1⟩)) := by
  intro opening full
  obtain ⟨compiles, runs⟩ := engines_keep_no_history {} none
  obtain ⟨compiled, -⟩ := compiles [.compileProgram opening full] {}
  let first : Interpreter :=
    ⟨{}, Turtle.displacement, false, .record #[], ⟨.initial {}, ⟨256, [], []⟩, 0, 0, 0, #[]⟩⟩
  have stack := @LoopStack.ofCapacity_ok 256 .standard (by decide) (by decide)
  have started : Interpreter.start {} none (.record #[]) .standard = .ok first := by
    rw [Interpreter.start, stack]
    rfl
  obtain ⟨ran, -⟩ :=
    runs (.record #[]) (.record #[]) .standard first first rfl started started [.runProgram opening]
  refine ⟨?_, ?_, first, started, ?_, ?_⟩
  · decide +kernel
  · rw [(compiled opening).1]
    decide +kernel
  · decide +kernel
  · rw [(ran #[⟨.identifier, 1, "LOOP", 0⟩]).1]
    decide +kernel

end TurtleGraphics
