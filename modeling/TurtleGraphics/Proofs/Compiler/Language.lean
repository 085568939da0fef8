import TurtleGraphics.Proofs.Compiler.Printing
import TurtleGraphics.Proofs.Script.Running

/-! # What the compiler accepts and writes

A sink that never fails leaves only the program to fail. Then the compiler accepts what the grammar
of commands accepts, and says of all else what the grammar says, as far as it can be printed. What
it writes is one line for each command, from which the commands can be read again.
-/

namespace TurtleGraphics

namespace Script

theorem length_ofCommands (opened : Nat) (commands : List Command) :
    (ofCommands opened commands).length = commands.length := by
  induction commands generalizing opened with
  | nil => rfl
  | cons command commands ih => rw [ofCommands, List.length_cons, ih, List.length_cons]

theorem getElem?_ofCommands (opened : Nat) (commands : List Command) (k : Nat) :
    (ofCommands opened commands)[k]? =
      commands[k]?.map
        (Statement.ofCommand (opened + (commands.take k).countP Command.opensLoop)) := by
  induction commands generalizing opened k with
  | nil => rfl
  | cons command commands ih =>
      rw [ofCommands]
      cases k with
      | zero => rfl
      | succ k =>
          rw [List.getElem?_cons_succ, List.getElem?_cons_succ, List.take_succ_cons,
            List.countP_cons, ih,
            Statement.opens_ofCommand, Nat.add_assoc, Nat.add_comm (List.countP _ _)]

theorem map_command_ofCommands (opened : Nat) (commands : List Command) :
    (ofCommands opened commands).map Statement.command = commands := by
  induction commands generalizing opened with
  | nil => rfl
  | cons command commands ih =>
      rw [ofCommands, List.map_cons, ih]
      cases command <;> rfl

/-- Different commands are written differently. -/
theorem text_ofCommands_inj {commands commands' : List Command} :
    text (ofCommands 0 commands) = text (ofCommands 0 commands') ↔ commands = commands' := by
  refine ⟨fun h => ?_, fun h => by rw [h]⟩
  have script : ofCommands 0 commands = ofCommands 0 commands' := by
    apply Option.some.inj
    rw [← ofText?_text, ← ofText?_text, h]
  rw [← map_command_ofCommands 0 commands, script, map_command_ofCommands]

end Script

namespace Compiler

variable {compiler : Compiler} {p : Program}

theorem fault_eq_of_splits (text : String) {commands : List Command} {fault : Option Diagnostic}
    (h : Splits compiler.settings.engine.maxRepeat p.toList commands fault) :
    (compiler.compileProgram p ⟨text, none⟩).fault = fault.map .diagnostic := by
  obtain ⟨-, rfl⟩ := Program.splits_iff_walk.mp h
  have told : (compiler.compileProgram p ⟨text, none⟩).fault = _ :=
    (compiler.compileProgram_unfailing p rfl).1
  rw [told, Option.map_map]
  rfl

theorem exists_splits (compiler : Compiler) (p : Program) :
    ∃ commands fault, Splits compiler.settings.engine.maxRepeat p.toList commands fault :=
  ⟨_, _, Program.splits_iff_walk.mpr ⟨rfl, rfl⟩⟩

/-- Where the whole program splits, all its statements are written and counted, and all its steps
    were read. -/
theorem compileProgram_of_splits (text : String) {commands : List Command}
    (h : Splits compiler.settings.engine.maxRepeat p.toList commands none) :
    let run := compiler.compileProgram p ⟨text, none⟩
    run.sink.text = text ++ Script.text (Script.ofCommands 0 commands) ∧
      run.compiler.statements = commands.length ∧ run.compiler.commands = commands.length ∧
      run.compiler.pc = p.size := by
  intro run
  obtain ⟨hcommands, hfault⟩ := Program.splits_iff_walk.mp h
  have hread : (p.walk compiler.settings.engine.maxRepeat).fault = none := by simpa using hfault
  have hcount : commands.length =
      (p.walk compiler.settings.engine.maxRepeat).instructions.length := by
    rw [← hcommands, List.length_map]
  have htext := (Compiler.compileProgram_accepted (fault_eq_of_splits text h)).2
  rw [hcommands] at htext
  have told := compiler.compileProgram_written p ⟨text, none⟩
  obtain ⟨after, hwrite⟩ := @Compilation.writeAll_unfailing (.start ⟨text, none⟩)
    (p.walk compiler.settings.engine.maxRepeat).instructions rfl
  simp only [hwrite] at told
  have takes := Compilation.writeAll_takes hwrite
  have hindex : run.compiler.pc = after.pc := by
    rw [told.pc, hread]
  refine ⟨htext, ?_, ?_, ?_⟩
  · rw [told.statements, takes.statements, hcount]
    exact Nat.zero_add _
  · rw [told.commands, takes.commands, hcount]
    exact Nat.zero_add _
  · rw [hindex, takes.pc]
    exact Program.Passes.boundary_walk hread

/-- Of a program that splits, and whose statements can be printed, one line is written for each
    command. -/
theorem written_of_splits (text : String) {commands : List Command}
    (h : Splits compiler.settings.engine.maxRepeat p.toList commands none)
    (hscript : (Script.ofCommands 0 commands).printFault? = none) :
    let run := compiler.printProgram p ⟨text, none⟩
    (∃ script : Script, script.length = commands.length ∧
      (∀ k, script[k]? = commands[k]?.map
        (Statement.ofCommand ((commands.take k).countP Command.opensLoop))) ∧
      (∀ statement ∈ script, '\n' ∉ statement.text.toList) ∧
      run.sink.text = text ++ String.join (script.map fun statement => statement.text ++ "\n")) ∧
    run.compiler.statements = commands.length ∧ run.compiler.commands = commands.length ∧
    run.compiler.pc = p.size := by
  intro run
  obtain ⟨htext, hcounters⟩ := compileProgram_of_splits text h
  rw [← (Program.splits_iff_walk.mp h).1] at hscript
  have printed : run = _ := printProgram_of_printable hscript
  rw [printed]
  refine ⟨⟨Script.ofCommands 0 commands, Script.length_ofCommands _ _, fun k => ?_,
    fun statement _ => statement.newline_notMem_text, htext⟩, hcounters⟩
  rw [Script.getElem?_ofCommands, Nat.zero_add]

theorem text_of_accepted (text : String) {commands : List Command}
    (h : Splits compiler.settings.engine.maxRepeat p.toList commands none)
    (hnone : (compiler.printProgram p ⟨text, none⟩).raised = none) :
    (compiler.printProgram p ⟨text, none⟩).sink.text =
      text ++ Script.text (Script.ofCommands 0 commands) := by
  obtain ⟨hscript, -⟩ := (raised_eq_none_iff rfl h).mp hnone
  rw [← (Program.splits_iff_walk.mp h).1] at hscript
  rw [printProgram_of_printable hscript]
  exact (compileProgram_of_splits text h).1

/-- The compiler accepts the programs that split into commands to their end, if all their statements
    can be printed. Of such a program it writes one line for each command: the statement of the
    command, where a loop that is the `k`-th to open counts with variable number `k`. So texts are
    equal only for equal commands. Of any other program it says what the grammar says of the first
    step that does not fit, if that can be printed and so can the statements before it. Else it
    raises why something cannot be printed. -/
theorem printProgram_characterized (compiler : Compiler) (p : Program) (text : String) :
    let limit := compiler.settings.engine.maxRepeat
    let run := compiler.printProgram p ⟨text, none⟩
    (run.raised = none ↔ ∃ commands, Splits limit p.toList commands none ∧
      (Script.ofCommands 0 commands).printFault? = none) ∧
    (∀ commands, Splits limit p.toList commands none →
      (Script.ofCommands 0 commands).printFault? = none →
      (∃ script : Script, script.length = commands.length ∧
        (∀ k, script[k]? = commands[k]?.map
          (Statement.ofCommand ((commands.take k).countP Command.opensLoop))) ∧
        (∀ statement ∈ script, '\n' ∉ statement.text.toList) ∧
        run.sink.text = text ++ String.join (script.map fun statement => statement.text ++ "\n")) ∧
      run.compiler.statements = commands.length ∧ run.compiler.commands = commands.length ∧
      run.compiler.pc = p.size) ∧
    (∀ (other : Compiler) (q : Program), run.raised = none →
      (other.printProgram q ⟨text, none⟩).raised = none → ∀ commands commands',
      Splits limit p.toList commands none →
      Splits other.settings.engine.maxRepeat q.toList commands' none →
      (run.sink.text = (other.printProgram q ⟨text, none⟩).sink.text ↔ commands = commands')) ∧
    (∀ fault, run.raised = some (.fault fault) ↔
      ∃ commands d, Splits limit p.toList commands (some d) ∧ fault = .diagnostic d ∧
        (Script.ofCommands 0 commands).printFault? = none ∧ d.printFault? = none) ∧
    (∀ unprinted, run.raised = some (.printing unprinted) ↔
      ∃ commands ending, Splits limit p.toList commands ending ∧
        (Script.ofCommands 0 commands).printFault?.or (ending.bind Diagnostic.printFault?) =
          some unprinted) := by
  intro limit run
  obtain ⟨commands, ending, hsplits⟩ := exists_splits compiler p
  refine ⟨⟨fun hnone => ?_, ?_⟩, fun found => written_of_splits text,
    fun other q hp hq found found' h h' => ?_, fun fault => ⟨fun hsome => ?_, ?_⟩,
    fun unprinted => ⟨fun hsome => ?_, ?_⟩⟩
  · obtain ⟨hscript, rfl⟩ := (raised_eq_none_iff rfl hsplits).mp hnone
    exact ⟨commands, hsplits, hscript⟩
  · rintro ⟨found, hfound, hscript⟩
    exact (raised_eq_none_iff rfl hfound).mpr ⟨hscript, rfl⟩
  · have first : run.sink.text = _ := text_of_accepted text h hp
    rw [first, text_of_accepted text h' hq, ← Script.text_ofCommands_inj]
    exact String.append_right_inj _
  · obtain ⟨hscript, d, rfl, hfault, hprint⟩ := (raised_eq_fault_iff rfl hsplits).mp hsome
    exact ⟨commands, d, hsplits, hfault, hscript, hprint⟩
  · rintro ⟨found, d, hfound, hfault, hscript, hprint⟩
    exact (raised_eq_fault_iff rfl hfound).mpr ⟨hscript, d, rfl, hfault, hprint⟩
  · exact ⟨commands, ending, hsplits, (raised_eq_printing_iff rfl hsplits).mp hsome⟩
  · rintro ⟨found, fault, hfound, hprint⟩
    exact (raised_eq_printing_iff rfl hfound).mpr hprint

/-- A keyword in small letters is accepted with its parameter, and misses it without. -/
theorem printProgram_characterized_pen :
    let word : Step := ⟨.identifier, 1, "pen", 0⟩
    let state : Step := ⟨.identifier, 2, "Up", 0⟩
    ((start {} none).printProgram #[word, state] ⟨"", none⟩).raised = none ∧
      ((start {} none).printProgram #[word] ⟨"", none⟩).raised =
        some (.fault (.diagnostic ⟨.grammatical .unexpectedEnd, some 1⟩)) := by
  intro word state
  have isWord : Keyword.pen.IsWord word := ⟨rfl, by decide⟩
  have spelled : (Command.pen false).Spelled 65535 [word, state] := .pair isWord ⟨rfl, by decide⟩
  refine ⟨?_, ?_⟩
  · obtain ⟨accepts, -⟩ := printProgram_characterized (start {} none) #[word, state] ""
    exact accepts.mpr ⟨[.pen false], .command spelled .done, rfl⟩
  · obtain ⟨-, -, -, refuses, -⟩ := printProgram_characterized (start {} none) #[word] ""
    exact (refuses _).mpr ⟨[], _, .misfit (.cut isWord rfl), rfl, rfl, by decide +kernel⟩

/-- A number of so many digits is out of range, and cannot be told. -/
theorem printProgram_unprintable :
    let word : Step := ⟨.identifier, 1, "FORWARD", 0⟩
    let far : Step := ⟨.number, 1, "", 10 ^ 5000⟩
    Splits 65535 [word, far] [] (some (far.faulty (.numberOutOfRange (10 ^ 5000)))) ∧
      ((start {} none).printProgram #[word, far] ⟨"", none⟩).raised =
        some (.printing .tooManyDigits) := by
  intro word far
  have isWord : Keyword.forward.IsWord word := ⟨rfl, by decide⟩
  refine ⟨.misfit (.meaning isWord rfl fun command hcommand hnames => ?_), by decide +kernel⟩
  have large : ¬ (10 ^ 5000 : Int) ≤ maxNumber := by decide +kernel
  cases command with
  | forward number =>
      obtain ⟨-, hnumber, -, hle⟩ := hnames
      rw [← hnumber] at hle
      exact large hle
  | home | loop | paper | ink | pen | back | left | right | «repeat» => cases hcommand

end Compiler

end TurtleGraphics
