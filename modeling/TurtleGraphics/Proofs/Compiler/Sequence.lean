import TurtleGraphics.Proofs.Compiler.Output
import TurtleGraphics.Proofs.Program.Sequence

/-! # Compilations in sequence

Behind a program that is accepted, another one is compiled as if it stood alone. Only the numbers of
its counters go on where those of the first program stopped.
-/

namespace TurtleGraphics

/-- The statement where `k` more loops were opened before. -/
def Statement.renumbered (k : Nat) : Statement → Statement
  | .openLoop counter count => .openLoop (counter + k) count
  | statement => statement

theorem Statement.ofCommand_add (opened k : Nat) (command : Command) :
    Statement.ofCommand (opened + k) command =
      (Statement.ofCommand opened command).renumbered k := by
  cases command with
  | «repeat» count => simp only [ofCommand, renumbered, Nat.add_right_comm]
  | _ => rfl

theorem Statement.opens_renumbered (k : Nat) (statement : Statement) :
    (statement.renumbered k).opens = statement.opens := by
  cases statement <;> rfl

theorem Sink.write_refused {sink after : Sink} {piece : String} {fault : SinkFault}
    (h : sink.write piece = (after, some fault)) : after = sink := by
  obtain ⟨text, _ | ⟨_ | left, fault⟩⟩ := sink <;> cases h
  rfl

theorem Sink.write_congr {sink sink' : Sink} (h : sink'.failure = sink.failure)
    (piece piece' : String) :
    (sink'.write piece').2 = (sink.write piece).2 ∧
      (sink'.write piece').1.failure = (sink.write piece).1.failure := by
  obtain ⟨text, failure⟩ := sink
  obtain ⟨text', failure'⟩ := sink'
  obtain rfl : failure' = failure := h
  rcases failure' with _ | ⟨_ | left, fault⟩ <;> exact ⟨rfl, rfl⟩

namespace Compilation

variable {front rest : List Instruction} {c after : Compilation}

theorem writeAll_append (h : writeAll front c = (after, none)) (rest : List Instruction) :
    writeAll (front ++ rest) c = writeAll rest after := by
  induction front generalizing c with
  | nil =>
      cases h
      rfl
  | cons i front ih =>
      obtain ⟨sink, opened, statements, commands, pc, begun⟩ := c
      rw [writeAll] at h
      rw [List.cons_append, writeAll]
      split at h
      · cases h
      · exact ih h

/-- Instructions that stand further on are written with counters that go on, and by a sink that
    fails alike as far as before. -/
theorem writeAll_movedOn {c c' : Compilation} {k m : Nat} (hopened : c'.opened = c.opened + m)
    (hfailure : c'.sink.failure = c.sink.failure) (instructions : List Instruction) :
    ∃ script, script <+: Script.ofCommands c.opened (instructions.map Instruction.command) ∧
      (writeAll instructions c).1.sink.text = c.sink.text ++ Script.text script ∧
      (writeAll (instructions.map (Instruction.movedOn k)) c').1.sink.text =
        c'.sink.text ++ Script.text (script.map (Statement.renumbered m)) ∧
      (writeAll (instructions.map (Instruction.movedOn k)) c').2 = (writeAll instructions c).2 := by
  induction instructions generalizing c c' with
  | nil =>
      exact ⟨[], List.prefix_refl _, by simp [writeAll, Script.text], by
        simp [writeAll, Script.text], rfl⟩
  | cons i rest ih =>
      obtain ⟨sink, opened, statements, commands, pc, begun⟩ := c
      obtain ⟨sink', opened', statements', commands', pc', begun'⟩ := c'
      obtain rfl : opened' = opened + m := hopened
      have here := Statement.ofCommand_add opened m i.command
      obtain ⟨answer, left⟩ := Sink.write_congr hfailure (Statement.ofCommand opened i.command).line
        ((Statement.ofCommand opened i.command).renumbered m).line
      rw [List.map_cons, List.map_cons, Script.ofCommands, writeAll, writeAll]
      simp only [Instruction.movedOn, here, Statement.opens_renumbered]
      generalize hstatement : Statement.ofCommand opened i.command = statement at answer left
      cases hwrite : sink.write statement.line with
      | mk taken refused =>
          cases hwrite' : sink'.write (statement.renumbered m).line with
          | mk taken' refused' =>
              simp only [hwrite, hwrite'] at answer left ⊢
              subst answer
              cases refused' with
              | some fault =>
                  refine ⟨[], List.nil_prefix, ?_, ?_, rfl⟩
                  · rw [Sink.write_refused hwrite]
                    simp [Script.text]
                  · rw [Sink.write_refused hwrite']
                    simp [Script.text]
              | none =>
                  obtain ⟨script, hprefix, htext, htext', hfault⟩ :=
                    @ih ⟨taken, opened + statement.opens, statements + 1, commands + 1, i.next,
                        begun.push i.command.keyword⟩
                      ⟨taken', opened + m + statement.opens, statements' + 1, commands' + 1,
                        k + i.next, begun'.push i.command.keyword⟩
                      (Nat.add_right_comm opened m statement.opens) left
                  refine ⟨statement :: script, ?_, ?_, ?_, hfault⟩
                  · exact List.cons_prefix_cons.mpr ⟨rfl, hprefix⟩
                  · rw [htext, Sink.write_text hwrite, Script.text_cons, String.append_assoc]
                  · rw [htext', Sink.write_text hwrite', List.map_cons, Script.text_cons,
                      String.append_assoc]

end Compilation

namespace Compiler

variable {compiler : Compiler} {p : Program} {sink : Sink}

theorem compileProgram_append (h : (compiler.compileProgram p sink).fault = none) (q : Program)
    {alone : Sink} (halone : alone.failure = (compiler.compileProgram p sink).sink.failure) :
    let limit := compiler.settings.engine.maxRepeat
    let opened := ((p.walk limit).instructions.map Instruction.command).countP Command.opensLoop
    let second := compiler.compileProgram q alone
    let joined := compiler.compileProgram (p ++ q) sink
    joined.fault = second.fault ∧
      ∃ script, script <+: Script.ofCommands 0
        ((q.walk limit).instructions.map Instruction.command) ∧
        second.sink.text = alone.text ++ Script.text script ∧
        joined.sink.text = (compiler.compileProgram p sink).sink.text ++
          Script.text (script.map (Statement.renumbered opened)) := by
  intro limit opened second joined
  have told := compiler.compileProgram_written p sink
  have second_told : second.Tells (q.walk limit) _ := compiler.compileProgram_written q alone
  have joined_told : joined.Tells ((p ++ q).walk limit) _ :=
    compiler.compileProgram_written (p ++ q) sink
  rcases hwritten : Compilation.writeAll (p.walk compiler.settings.engine.maxRepeat).instructions
    (.start sink) with ⟨after, refused⟩
  simp only [hwritten] at told
  obtain ⟨rfl, hread⟩ := Option.or_eq_none_iff.mp (told.fault.symm.trans h)
  rw [Option.map_eq_none_iff] at hread
  rw [told.sink] at halone ⊢
  have hopened : after.opened = 0 + opened := (Compilation.writeAll_takes hwritten).opened
  obtain ⟨script, hprefix, htext, htext', hsame⟩ :=
    @Compilation.writeAll_movedOn (.start alone) after p.size opened hopened halone.symm
      (q.walk limit).instructions
  rw [Program.walk_append hread, Compilation.writeAll_append hwritten] at joined_told
  refine ⟨?_, script, hprefix, ?_, ?_⟩
  · rw [joined_told.fault, second_told.fault, hsame, Option.map_map]
    rfl
  · rw [second_told.sink]
    exact htext
  · rw [joined_told.sink]
    exact htext'

end Compiler

end TurtleGraphics
