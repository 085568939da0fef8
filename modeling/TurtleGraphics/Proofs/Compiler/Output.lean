import TurtleGraphics.Compiler
import TurtleGraphics.Proofs.Program.Nesting

/-! # What a compilation writes

A sink that takes the statements of all commands has them one behind the other. A sink that never
fails takes them all, and the only fault left is then the one at which reading stops.
-/

namespace TurtleGraphics

theorem Script.text_cons (statement : Statement) (script : Script) :
    Script.text (statement :: script) = statement.line ++ Script.text script := by
  simp only [Script.text, List.map_cons, String.join_cons]

theorem Statement.opens_ofCommand (opened : Nat) (command : Command) :
    (Statement.ofCommand opened command).opens = if command.opensLoop then 1 else 0 := by
  cases command <;> rfl

theorem Sink.write_text {sink after : Sink} {piece : String}
    (h : sink.write piece = (after, none)) :
    after.text = sink.text ++ piece := by
  obtain ⟨text, _ | ⟨_ | left, fault⟩⟩ := sink <;> cases h <;> rfl

namespace Compilation

/-- Nothing was written to the sink yet. -/
def start (sink : Sink) : Compilation :=
  ⟨sink, 0, 0, 0, 0, #[]⟩

/-- A sink took the statements of all instructions, one behind the other. -/
structure Takes (instructions : List Instruction) (c after : Compilation) : Prop where
  text : after.sink.text =
    c.sink.text ++ Script.text (Script.ofCommands c.opened (instructions.map Instruction.command))
  opened : after.opened = c.opened + (instructions.map Instruction.command).countP Command.opensLoop
  statements : after.statements = c.statements + instructions.length
  commands : after.commands = c.commands + instructions.length
  pc : after.pc = (instructions.getLast?.map Instruction.next).getD c.pc

variable {instructions : List Instruction} {c after : Compilation}

theorem writeAll_takes (h : writeAll instructions c = (after, none)) :
    Takes instructions c after := by
  induction instructions generalizing c with
  | nil =>
      cases h
      exact ⟨by simp [Script.ofCommands, Script.text], rfl, rfl, rfl, rfl⟩
  | cons i rest ih =>
      obtain ⟨sink, opened, statements, commands, pc, begun⟩ := c
      rw [writeAll] at h
      split at h
      · cases h
      · rename_i written hwrite
        obtain ⟨text, opened', statements', commands', pc'⟩ := ih h
        refine ⟨?_, ?_, ?_, ?_, ?_⟩
        · rw [text, Sink.write_text hwrite, List.map_cons, Script.ofCommands, Script.text_cons,
            String.append_assoc]
        · rw [opened', List.map_cons, List.countP_cons, Statement.opens_ofCommand, Nat.add_assoc,
            Nat.add_comm (List.countP _ _)]
        · rw [statements', List.length_cons, Nat.add_assoc, Nat.add_comm 1]
        · rw [commands', List.length_cons, Nat.add_assoc, Nat.add_comm 1]
        · rw [pc', List.getLast?_cons]
          cases rest.getLast? <;> rfl

theorem writeAll_unfailing (instructions : List Instruction) (hsink : c.sink.failure = none) :
    ∃ after, writeAll instructions c = (after, none) := by
  induction instructions generalizing c with
  | nil => exact ⟨c, rfl⟩
  | cons i rest ih =>
      obtain ⟨⟨text, failure⟩, opened, statements, commands, pc, begun⟩ := c
      obtain rfl : failure = none := hsink
      rw [writeAll]
      exact ih rfl

end Compilation

/-- What a compilation tells of the commands that were read and of what became of their
    statements. -/
structure CompilerRun.Tells (run : CompilerRun) (walk : Walk)
    (written : Compilation × Option CompileFault) :
    Prop where
  sink : run.sink = written.1.sink
  statements : run.compiler.statements = written.1.statements
  commands : run.compiler.commands = written.1.commands
  fault : run.fault = written.2.or (walk.fault.map fun fault => .diagnostic fault.diagnostic)
  pc : run.compiler.pc =
    match written.2, walk.fault with
    | none, some fault => fault.next
    | _, _ => written.1.pc

namespace Compiler

variable {compiler : Compiler} {p : Program} {sink : Sink}

theorem compileProgram_eq (compiler : Compiler) (p : Program) (sink : Sink) :
    compiler.compileProgram p sink =
      let ready := compiler.takeUp p sink
      match Compilation.ofWalk (p.walk compiler.settings.engine.maxRepeat) (.start sink) with
      | (c, some fault) => ⟨some fault, ready.leave c, c.sink, ready.report c⟩
      | (c, none) =>
          ⟨none, ready.leave c, c.sink, ready.report c ++ [.compiled c.commands c.statements]⟩ :=
  rfl

/-- A compilation leaves what the sink took, and fails where the sink fails or else where reading
    fails. -/
theorem compileProgram_written (compiler : Compiler) (p : Program) (sink : Sink) :
    let walk := p.walk compiler.settings.engine.maxRepeat
    (compiler.compileProgram p sink).Tells walk
      (Compilation.writeAll walk.instructions (.start sink)) := by
  rw [compileProgram_eq]
  unfold Compilation.ofWalk
  rcases p.walk compiler.settings.engine.maxRepeat with ⟨instructions, stopped⟩
  dsimp only
  rcases Compilation.writeAll instructions (.start sink) with ⟨after, _ | refused⟩
  · cases stopped <;> exact ⟨rfl, rfl, rfl, rfl, rfl⟩
  · exact ⟨rfl, rfl, rfl, rfl, rfl⟩

theorem compileProgram_accepted (h : (compiler.compileProgram p sink).fault = none) :
    let walk := p.walk compiler.settings.engine.maxRepeat
    walk.fault = none ∧ (compiler.compileProgram p sink).sink.text =
      sink.text ++
        Script.text (Script.ofCommands 0 (walk.instructions.map Instruction.command)) := by
  intro walk
  have told : (compiler.compileProgram p sink).Tells walk _ :=
    compiler.compileProgram_written p sink
  rcases hwrite : Compilation.writeAll walk.instructions (.start sink) with ⟨after, refused⟩
  rw [hwrite] at told
  obtain ⟨rfl, hread⟩ := Option.or_eq_none_iff.mp (told.fault.symm.trans h)
  rw [told.sink]
  exact ⟨Option.map_eq_none_iff.mp hread, (Compilation.writeAll_takes hwrite).text⟩

/-- The fault of the program is the only one, and every command before it was compiled. -/
theorem compileProgram_unfailing (compiler : Compiler) (p : Program) (hsink : sink.failure = none) :
    let walk := p.walk compiler.settings.engine.maxRepeat
    let compiled := compiler.compileProgram p sink
    compiled.fault = walk.fault.map (fun fault => .diagnostic fault.diagnostic) ∧
      compiled.compiler.commands = walk.instructions.length := by
  intro walk compiled
  have told : (compiler.compileProgram p sink).Tells walk _ :=
    compiler.compileProgram_written p sink
  obtain ⟨after, hwrite⟩ := @Compilation.writeAll_unfailing (.start sink) walk.instructions hsink
  rw [hwrite] at told
  refine ⟨told.fault, ?_⟩
  rw [told.commands, (Compilation.writeAll_takes hwrite).commands]
  exact Nat.zero_add _

end Compiler

end TurtleGraphics
