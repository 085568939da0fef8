import TurtleGraphics.Proofs.Compiler.Output
import TurtleGraphics.Proofs.Program.Numbers

/-! # What a compilation prints

A compilation goes as if every statement had a text, up to the first that has none. With a sink that
never fails, what it raises then is decided by the statements and by the diagnostic behind them.
-/

namespace TurtleGraphics

/-- Why some statement of a script cannot be printed, if one cannot. -/
def Script.printFault? (script : Script) : Option PrintFault :=
  script.findSome? Statement.printFault?

theorem Script.printFault?_eq {script : Script} {fault : PrintFault}
    (h : script.printFault? = some fault) :
    fault = .tooManyDigits := by
  obtain ⟨statement, -, hstatement⟩ := List.exists_of_findSome?_eq_some h
  exact PrintFault.findSome?_ofInt? hstatement

theorem Instruction.printed_spec (opened : Nat) (instructions : List Instruction) :
    match Instruction.printed opened instructions with
    | (_, none) =>
        (Script.ofCommands opened (instructions.map Instruction.command)).printFault? = none
    | (front, some (stuck, fault)) => front ++ [stuck] <+: instructions ∧
        (Script.ofCommands opened (instructions.map Instruction.command)).printFault? =
          some fault := by
  induction instructions generalizing opened with
  | nil => rfl
  | cons i rest ih =>
      have behind := ih (opened + (Statement.ofCommand opened i.command).opens)
      rw [printed, List.map_cons, Script.ofCommands, Script.printFault?, List.findSome?_cons]
      cases hfault : (Statement.ofCommand opened i.command).printFault? with
      | some fault =>
          exact ⟨⟨rest, rfl⟩, rfl⟩
      | none =>
          dsimp only
          rcases hprinted :
            printed (opened + (Statement.ofCommand opened i.command).opens) rest with
            ⟨front, _ | ⟨stuck, fault⟩⟩
          · rw [hprinted] at behind
            exact behind
          · rw [hprinted] at behind
            obtain ⟨⟨more, hmore⟩, found⟩ := behind
            exact ⟨⟨more, congrArg (i :: ·) hmore⟩, found⟩

theorem CompileFault.raised_diagnostic (d : Diagnostic) :
    (diagnostic d).raised = .of (diagnostic d) d.printFault? :=
  rfl

namespace Compiler

variable {compiler : Compiler} {p : Program} {sink : Sink}

theorem printProgram_eq (compiler : Compiler) (p : Program) (sink : Sink) :
    compiler.printProgram p sink =
      match Instruction.printed 0 (p.walk compiler.settings.engine.maxRepeat).instructions with
      | (front, some (stuck, fault)) => (compiler.takeUp p sink).printUpTo front stuck fault
      | (_, none) =>
        let run := compiler.compileProgram p sink
        ⟨run.fault.map CompileFault.raised, run.compiler, run.sink, run.notices⟩ :=
  rfl

theorem printProgram_of_printable (h : (Script.ofCommands 0
      ((p.walk compiler.settings.engine.maxRepeat).instructions.map
        Instruction.command)).printFault? = none) :
    let run := compiler.compileProgram p sink
    compiler.printProgram p sink =
      ⟨run.fault.map CompileFault.raised, run.compiler, run.sink, run.notices⟩ := by
  have spec := Instruction.printed_spec 0 (p.walk compiler.settings.engine.maxRepeat).instructions
  rw [printProgram_eq]
  rcases hprinted :
    Instruction.printed 0 (p.walk compiler.settings.engine.maxRepeat).instructions with
    ⟨front, _ | ⟨stuck, fault⟩⟩
  · rfl
  · rw [hprinted, h] at spec
    cases spec.2

/-- The first statement that cannot be printed is what a compilation raises, if the sink never
    fails. Nothing behind it was read. -/
theorem printProgram_of_unprintable {fault : PrintFault} (hsink : sink.failure = none)
    (h : (Script.ofCommands 0
      ((p.walk compiler.settings.engine.maxRepeat).instructions.map
        Instruction.command)).printFault? =
        some fault) :
    (compiler.printProgram p sink).raised = some (.printing fault) ∧
      (compiler.printProgram p sink).compiler.pc ≤ p.size := by
  have spec := Instruction.printed_spec 0 (p.walk compiler.settings.engine.maxRepeat).instructions
  rw [printProgram_eq]
  rcases hprinted :
    Instruction.printed 0 (p.walk compiler.settings.engine.maxRepeat).instructions with
    ⟨front, _ | ⟨stuck, fault'⟩⟩
  · rw [hprinted, h] at spec
    cases spec
  · rw [hprinted] at spec
    obtain ⟨hfront, hfault⟩ := spec
    obtain rfl : fault' = fault := Option.some.inj (hfault.symm.trans h)
    obtain ⟨after, hwrite⟩ :=
      @Compilation.writeAll_unfailing (compiler.takeUp p sink).compilation front hsink
    have passed := Program.Passes.of_isPrefix hfront
    have index := passed.boundary.symm ▸ passed.index_le
    rw [Instruction.boundary_concat] at index
    simp only [printUpTo, hwrite]
    exact ⟨trivial, index⟩

/-- What the grammar says of a program decides what a compilation raises, if the sink never
    fails. -/
theorem raised_of_splits (hsink : sink.failure = none) {commands : List Command}
    {ending : Option Diagnostic}
    (h : Splits compiler.settings.engine.maxRepeat p.toList commands ending) :
    (compiler.printProgram p sink).raised =
      match (Script.ofCommands 0 commands).printFault? with
      | some fault => some (.printing fault)
      | none => ending.map fun d => (CompileFault.diagnostic d).raised := by
  obtain ⟨rfl, rfl⟩ := Program.splits_iff_walk.mp h
  cases hscript : (Script.ofCommands 0 ((p.walk compiler.settings.engine.maxRepeat).instructions.map
      Instruction.command)).printFault? with
  | some fault => exact (printProgram_of_unprintable hsink hscript).1
  | none =>
      rw [printProgram_of_printable hscript]
      dsimp only
      rw [(compiler.compileProgram_unfailing p hsink).1]
      cases (p.walk compiler.settings.engine.maxRepeat).fault <;> rfl

section

variable {commands : List Command} {ending : Option Diagnostic} (hsink : sink.failure = none)
  (h : Splits compiler.settings.engine.maxRepeat p.toList commands ending)

include hsink h

theorem raised_eq_none_iff : (compiler.printProgram p sink).raised = none ↔
    (Script.ofCommands 0 commands).printFault? = none ∧ ending = none := by
  rw [raised_of_splits hsink h]
  cases (Script.ofCommands 0 commands).printFault? <;> simp

theorem raised_eq_fault_iff {fault : CompileFault} :
    (compiler.printProgram p sink).raised = some (.fault fault) ↔
      (Script.ofCommands 0 commands).printFault? = none ∧
        ∃ d, ending = some d ∧ fault = .diagnostic d ∧ d.printFault? = none := by
  rw [raised_of_splits hsink h]
  cases (Script.ofCommands 0 commands).printFault? with
  | some unprinted => simp
  | none =>
      simp only [Option.map_eq_some_iff, CompileFault.raised_diagnostic, true_and]
      refine exists_congr fun d => and_congr_right fun _ => ?_
      cases d.printFault? <;> simp [Raised.of, eq_comm]

theorem raised_eq_printing_iff {unprinted : PrintFault} :
    (compiler.printProgram p sink).raised = some (.printing unprinted) ↔
      (Script.ofCommands 0 commands).printFault?.or (ending.bind Diagnostic.printFault?) =
        some unprinted := by
  rw [raised_of_splits hsink h]
  cases (Script.ofCommands 0 commands).printFault? with
  | some fault => simp
  | none =>
      simp only [Option.map_eq_some_iff, CompileFault.raised_diagnostic, Option.none_or,
        Option.bind_eq_some_iff]
      refine exists_congr fun d => and_congr_right fun _ => ?_
      cases d.printFault? <;> simp [Raised.of]

end

end Compiler

/-! ## Programs that can be printed -/

variable {limit : Int} {steps front : List Step} {command : Command} {opened : Nat}

theorem Command.Spelled.printFault? (h : command.Spelled limit front)
    (hfront : ∀ step ∈ front, PrintFault.ofInt? step.number = none)
    (hopened : opened + 1 < 10 ^ mostDigits) :
    (Statement.ofCommand opened command).printFault? = none := by
  have counter : PrintFault.ofInt? ((opened + 1 : Nat) : Int) = none :=
    PrintFault.ofInt?_eq_none.mpr hopened
  cases h with
  | alone hkind =>
      cases command with
      | home | loop => rfl
      | paper | ink | pen | forward | back | left | right | «repeat» => cases hkind
  | @pair word parameter hword hnames =>
      have number := hfront parameter (by simp)
      cases command with
      | home | loop | paper | ink | pen => rfl
      | forward | back | left | right =>
          rw [hnames.2.1] at number
          simp only [Statement.ofCommand, Statement.printFault?, Statement.numbers,
            List.findSome?_cons, List.findSome?_nil, number]
      | «repeat» =>
          rw [hnames.2.1] at number
          simp only [Statement.ofCommand, Statement.printFault?, Statement.numbers,
            List.findSome?_cons, List.findSome?_nil, number, counter]

theorem Splits.printFault?_ofCommands {commands : List Command} {ending : Option Diagnostic}
    (h : Splits limit steps commands ending)
    (hsteps : ∀ step ∈ steps, PrintFault.ofInt? step.number = none)
    (hroom : opened + steps.length < 10 ^ mostDigits) :
    (Script.ofCommands opened commands).printFault? = none := by
  induction h generalizing opened with
  | done | misfit => rfl
  | @command command front rest commands fault hspelled hrest ih =>
      have long : 1 ≤ front.length := by cases hspelled <;> simp
      have few : (Statement.ofCommand opened command).opens ≤ 1 := by
        rw [Statement.opens_ofCommand]
        split <;> omega
      rw [List.length_append] at hroom
      have first :=
        hspelled.printFault? (fun step hmem => hsteps step (List.mem_append_left _ hmem))
        (by omega : opened + 1 < 10 ^ mostDigits)
      rw [Script.ofCommands, Script.printFault?, List.findSome?_cons, first]
      exact ih (fun step hmem => hsteps step (List.mem_append_right _ hmem)) (by omega)

end TurtleGraphics
