import TurtleGraphics.Proofs.Compiler.Printing
import TurtleGraphics.Proofs.Interpreter.History
import TurtleGraphics.Proofs.Program.Layout
import TurtleGraphics.Proofs.Settings.Raising
import TurtleGraphics.Proofs.Turtle.Stride

/-! # Only diagnostics

An interpreter whose surface takes every call fails with diagnostics only. What carries this from
one call to the next is that the turtle looks along a heading within a full turn: then every move
that a command may ask for has an end, and so has every turn. Of a program that can be printed, all
diagnostics can be raised but the one that shows the limit of the settings, which may have too many
digits.
-/

namespace TurtleGraphics

variable {settings : Settings} {stride : Stride} {trace : Bool} {p : Program} {heading : Int}

theorem Execution.headed_step {x y : Execution} {call : Option DrawCall}
    (hcovers : stride.Covers settings.engine.normalizeAngle heading) (hx : x.turtle.Headed heading)
    (hstep : x.step settings stride trace p = .go y call) : y.turtle.Headed heading := by
  obtain ⟨i, hread, hobey, -⟩ := Execution.obey_of_step_go hstep
  obtain ⟨turtle, call', hobey', hheaded⟩ :=
    Turtle.obey_covered settings hcovers hx (Program.readAt_ok hread).1
  cases hobey.symm.trans hobey'
  exact hheaded

/-- What the run holds lies within the program, the stack and the doubles. -/
structure Execution.Safe (p : Program) (x : Execution) : Prop where
  index : x.pc ≤ p.size
  room : x.stack.slots.length ≤ x.stack.capacity
  direction : ∃ direction, radians x.turtle.angle = .ok direction ∧ direction.isFinite = true

theorem Execution.Inside.safe {limit : Int} {before : List Instruction} {loops : List OpenLoop}
    {x : Execution} (h : x.Inside limit p before loops) (hx : x.turtle.Headed heading)
    (hheading : heading.natAbs < headingLimit) :
    x.Safe p := by
  refine ⟨h.passes.index_le, ?_, radians_of_lt (hx.natAbs_lt hheading)⟩
  rw [h.length_slots]
  exact h.room

namespace Scene

variable {n : Nat} {s t : Scene} {run : Run}

theorem Reaches.headed (h : Reaches settings stride trace p n s t)
    (hcovers : stride.Covers settings.engine.normalizeAngle heading)
    (hs : s.execution.turtle.Headed heading) : t.execution.turtle.Headed heading := by
  induction h with
  | refl => exact hs
  | tail _ hnext ih =>
      obtain ⟨call, hstep⟩ := step_of_next? hnext
      exact Execution.headed_step hcovers (ih hs) hstep

/-- The last scene of a run is the end of its program, or its command has a diagnostic. -/
theorem Ends.diagnosed (h : s.Ends settings stride trace p run)
    (hdraws : ∀ after call, s.execution.step settings stride trace p = .go after (some call) →
      (s.surface.draw call).2 = none)
    (hcovers : stride.Covers settings.engine.normalizeAngle heading)
    (hs : s.execution.turtle.Headed heading) :
    (run.ending = .finished ∧ p.size ≤ run.execution.pc) ∨
      ∃ d, run.ending = .failed (.diagnostic d) ∧ (d.kind = .grammatical ∨ d.kind = .stack) ∧
        p.Tells settings.engine.maxRepeat d := by
  cases h with
  | finished hstep =>
      exact .inl ⟨rfl, Program.readAt_eq_none.mp (Execution.readAt_of_finish hstep)⟩
  | stopped hstep =>
      obtain ⟨fails, -⟩ := Execution.step_stop hstep
      cases fails with
      | read hread =>
          exact .inr ⟨_, rfl, .inl (Program.readAt_error hread), Program.tells_of_readAt hread⟩
      | stack hread =>
          exact .inr ⟨_, rfl, .inr rfl, fun printable hprint =>
            absurd (printable.stack hread _) hprint⟩
      | number hread hobey =>
          obtain ⟨turtle, call, hobey', -⟩ :=
            Turtle.obey_covered settings hcovers hs (Program.readAt_ok hread).1
          cases hobey.symm.trans hobey'
  | undrawn hstep hdraw =>
      have drawn := hdraws _ _ hstep
      rw [hdraw] at drawn
      cases drawn

theorem Ends.safe {before : List Instruction} {loops : List OpenLoop}
    (h : s.Ends settings stride trace p run)
    (inside : s.execution.Inside settings.engine.maxRepeat p before loops)
    (hs : s.execution.turtle.Headed heading) (hheading : heading.natAbs < headingLimit) :
    run.execution.Safe p ∧ run.execution.turtle.Headed heading := by
  have safe := inside.safe hs hheading
  cases h with
  | finished => exact ⟨safe, hs⟩
  | stopped hstep =>
      obtain ⟨-, abandons, index⟩ := Execution.step_stop hstep
      rw [← abandons.turtle] at hs
      exact ⟨⟨index, abandons.room safe.room, radians_of_lt (hs.natAbs_lt hheading)⟩, hs⟩
  | undrawn hstep =>
      obtain ⟨before', loops', inside'⟩ := inside.step hstep
      have room := inside'.room
      rw [← inside'.length_slots] at room
      exact ⟨⟨inside'.passes.index_le, room, safe.direction⟩, hs⟩

end Scene

namespace Interpreter

/-- The turtle can go wherever commands lead it, and the surface takes every call. -/
structure Sound (interpreter : Interpreter) : Prop where
  covers : interpreter.stride.Covers interpreter.settings.engine.normalizeAngle 0
  headed : interpreter.turtle.Headed 0
  ground : interpreter.surface.extent = none

namespace Sound

variable {interpreter current : Interpreter}

theorem reached (h : interpreter.Sound) {n : Nat} {s : Scene}
    (hreach : Scene.Reaches interpreter.settings interpreter.stride interpreter.trace p n
      interpreter.opening s) :
    s.execution.Safe p ∧ s.execution.turtle.Headed 0 ∧
      ∃ before loops, s.execution.Inside interpreter.settings.engine.maxRepeat p before loops := by
  obtain ⟨-, before, loops, inside⟩ := hreach.inside rfl rfl
  have headed := hreach.headed h.covers h.headed
  exact ⟨inside.safe headed (lt_headingLimit (by decide)), headed, before, loops, inside⟩

theorem runProgram (h : interpreter.Sound) (p : Program) :
    let run := interpreter.runProgram p
    (run.fault = none ∧ run.interpreter.execution.pc = p.size ∨
        ∃ d, run.fault = some (.run (.diagnostic d)) ∧ (d.kind = .grammatical ∨ d.kind = .stack) ∧
          p.Tells interpreter.settings.engine.maxRepeat d) ∧
      run.interpreter.execution.Safe p ∧ run.interpreter.turtle.Headed 0 := by
  intro run
  obtain ⟨n, t, left, hreach, hends, hfault, hafter⟩ := interpreter.exists_ending p
  obtain ⟨-, headed, before, loops, inside⟩ := h.reached hreach
  have ground := Surface.isCanvas_of_extent (hreach.extent.trans h.ground)
  obtain ⟨safe, headed'⟩ := hends.safe inside headed (lt_headingLimit (by decide))
  refine ⟨?_, ?_, ?_⟩
  · rw [hfault, hafter]
    have draws (call : DrawCall) : (t.surface.draw call).2 = none := by
      rw [Surface.draw_of_not_canvas ground]
    obtain ⟨hending, hend⟩ | ⟨d, hending, hd⟩ :=
      hends.diagnosed (fun _ call _ => draws call) h.covers headed
    · rw [hending]
      exact .inl ⟨rfl, Nat.le_antisymm safe.index hend⟩
    · rw [hending]
      exact .inr ⟨d, rfl, hd⟩
  · rw [hafter]
    exact safe
  · rw [turtle, hafter]
    exact headed'

theorem of_keeps (h : interpreter.Sound) (keeps : interpreter.Keeps current)
    (headed : current.turtle.Headed 0) :
    current.Sound := by
  refine ⟨?_, headed, keeps.extent.trans h.ground⟩
  rw [keeps.stride, keeps.settings]
  exact h.covers

theorem called (h : interpreter.Sound) (call : Call) : (interpreter.called call).Sound := by
  apply h.of_keeps (interpreter.keeps_called call)
  obtain ⟨p, -, hcalled⟩ | ⟨-, hturtle⟩ := interpreter.called_cases call
  · rw [hcalled]
    exact (h.runProgram p).2.2
  · rw [hturtle]
    exact h.headed

theorem after (h : interpreter.Sound) (calls : List Call) : (interpreter.after calls).Sound := by
  induction calls generalizing interpreter with
  | nil => exact h
  | cons call calls ih => exact ih (h.called call)

end Sound

end Interpreter

/-- Under settings that were read, text that cannot be read has a lexical fault, which can be
    printed unless the text is extremely long. -/
theorem LexerSettings.lexical_of_read {data : Datum} (h : Settings.ofDatum data = .ok settings)
    {source : String} {fault : SourceFault}
    (hread : (settings.lexer.read source).program = .error fault) :
    ∃ d, fault = .diagnostic d ∧ d.kind = .lexical ∧
      (source.length + 1 < 10 ^ mostDigits → d.printFault? = none) := by
  obtain ⟨symbol, hsymbol, -⟩ := Settings.symbol?_of_ofDatum h
  have told : Program.build symbol source = (Reading.of symbol source).program := rfl
  unfold read at hread
  rw [hsymbol] at hread
  dsimp only at hread
  rw [← told] at hread
  cases hbuild : Program.build symbol source with
  | ok p =>
      rw [hbuild] at hread
      cases hread
  | error d =>
      rw [hbuild] at hread
      cases hread
      obtain ⟨cause, line, rfl, hline⟩ := Program.line_le_of_build_error hbuild
      refine ⟨_, rfl, rfl, fun hlength => ?_⟩
      simp only [Diagnostic.printFault?, Diagnostic.numbers, Option.toList_some, List.nil_append,
        List.findSome?_cons, PrintFault.ofInt?_of_le hline hlength, List.findSome?_nil]

theorem Diagnostic.raised_cases {ε : Type} (fault : ε) (d : Diagnostic) :
    (Raised.of fault d.printFault? = .fault fault ∧ d.printFault? = none) ∨
      Raised.of fault d.printFault? = .printing .tooManyDigits ∧ d.printFault? ≠ none := by
  cases hprint : d.printFault? with
  | none => exact .inl ⟨rfl, rfl⟩
  | some unprinted =>
      obtain rfl := PrintFault.findSome?_ofInt? hprint
      exact .inr ⟨rfl, nofun⟩

theorem InterpreterRun.raised_of_diagnostic {run : InterpreterRun} {d : Diagnostic} {limit : Int}
    (h : run.fault = some (.run (.diagnostic d))) (hd : p.Tells limit d) :
    run.raised = some (.fault (.run (.diagnostic d))) ∨
      run.raised = some (.printing .tooManyDigits) ∧
      (p.IsPrintable → PrintFault.ofInt? limit ≠ none) := by
  rw [raised, h]
  obtain ⟨hraised, -⟩ | ⟨hraised, hprint⟩ := d.raised_cases (InterpreterFault.run (.diagnostic d))
  · exact .inl (congrArg some hraised)
  · exact .inr ⟨congrArg some hraised, fun printable => hd printable hprint⟩

theorem Compiler.pc_le_of_unfailing (compiler : Compiler) (p : Program) {sink : Sink}
    (hsink : sink.failure = none) : (compiler.compileProgram p sink).compiler.pc ≤ p.size := by
  have told := compiler.compileProgram_written p sink
  obtain ⟨after, hwrite⟩ := @Compilation.writeAll_unfailing (.start sink)
    (p.walk compiler.settings.engine.maxRepeat).instructions hsink
  simp only [hwrite] at told
  have hread := Program.Passes.readAt_walk compiler.settings.engine.maxRepeat p
  rw [told.pc]
  cases hfault : (p.walk compiler.settings.engine.maxRepeat).fault with
  | none =>
      simp only [(Compilation.writeAll_takes hwrite).pc]
      exact (Program.Passes.of_walk compiler.settings.engine.maxRepeat p).index_le
  | some fault =>
      rw [hfault] at hread
      exact Program.next_le_of_readAt_error hread

/-- A sink that never fails leaves the faults of the program and of its printing, and none of them
    lies behind its end. -/
theorem Compiler.raised_of_unfailing (compiler : Compiler) (p : Program) {sink : Sink}
    (hsink : sink.failure = none) :
    let compiled := compiler.printProgram p sink
    (compiled.raised = none ∨
        (∃ d, compiled.raised = some (.fault (.diagnostic d)) ∧ d.kind = .grammatical) ∨
        compiled.raised = some (.printing .tooManyDigits) ∧
          (p.IsPrintable → p.size < 10 ^ mostDigits →
          PrintFault.ofInt? compiler.settings.engine.maxRepeat ≠ none)) ∧
      compiled.compiler.pc ≤ p.size := by
  intro compiled
  have splits : Splits compiler.settings.engine.maxRepeat p.toList _ _ :=
    Program.splits_iff_walk.mpr ⟨rfl, rfl⟩
  have raised : compiled.raised = _ := raised_of_splits hsink splits
  cases hscript : (Script.ofCommands 0 ((p.walk compiler.settings.engine.maxRepeat).instructions.map
      Instruction.command)).printFault? with
  | some fault =>
      obtain rfl := Script.printFault?_eq hscript
      rw [hscript] at raised
      refine ⟨.inr (.inr ⟨raised, fun printable hsize => ?_⟩),
        (printProgram_of_unprintable hsink hscript).2⟩
      rw [splits.printFault?_ofCommands (fun step hmem => (printable step hmem).1)
        (by rwa [Nat.zero_add, Array.length_toList])] at hscript
      cases hscript
  | none =>
      rw [hscript] at raised
      refine ⟨?_, ?_⟩
      · rw [raised]
        have hread := Program.Passes.readAt_walk compiler.settings.engine.maxRepeat p
        cases hfault : (p.walk compiler.settings.engine.maxRepeat).fault with
        | none => exact .inl rfl
        | some fault =>
            rw [hfault] at hread
            obtain ⟨htold, -⟩ | ⟨htold, hprint⟩ :=
              fault.diagnostic.raised_cases (CompileFault.diagnostic fault.diagnostic)
            · exact .inr (.inl ⟨_, congrArg some htold, Program.readAt_error hread⟩)
            · exact .inr (.inr ⟨congrArg some htold, fun printable _ =>
                Program.tells_of_readAt hread printable hprint⟩)
      · simp only [compiled, printProgram_of_printable hscript]
        exact compiler.pc_le_of_unfailing p hsink

/-- Under settings that were read, whatever an interpreter was asked before, and whatever text or
    program it is given: a run comes to the end of its program, or raises a diagnostic of the text,
    of the grammar or of the stack. On its way it holds nothing that leads out of the program, the
    stack or the doubles. A compilation raises a diagnostic of the grammar only. Of text of any
    length that can be printed, and of programs whose numbers can be printed, nothing else is raised
    unless the limit of the settings cannot be printed. -/
theorem engines_raise_diagnostics {nesting : Nat} {data : Datum}
    (hsettings : Settings.parse nesting data = .ok settings) {trigonometry : Trigonometry}
    (hbounded : trigonometry.Bounded) {choice : Option Bool} {surface : Surface}
    (hground : surface.isCanvas = false) {memory : Memory} {fresh : Interpreter}
    (hfresh : Interpreter.start settings choice surface memory = .ok fresh)
    (history : List Interpreter.Call) :
    let limit := settings.engine.maxRepeat
    let current := Interpreter.after { fresh with stride := trigonometry.stride } history
    (∀ source raised, (current.run source).raised = some raised →
      (∃ d, raised = .fault (.source (.diagnostic d)) ∧ d.kind = .lexical) ∨
      (∃ d, raised = .fault (.run (.diagnostic d)) ∧ (d.kind = .grammatical ∨ d.kind = .stack)) ∨
      raised = .printing .tooManyDigits ∧
        (source.length + 1 < 10 ^ mostDigits → PrintFault.ofInt? limit ≠ none)) ∧
    (∀ p,
      let run := current.runProgram p
      (run.raised = none ∧ run.interpreter.execution.pc = p.size ∨
        (∃ d, run.raised = some (.fault (.run (.diagnostic d))) ∧
          (d.kind = .grammatical ∨ d.kind = .stack)) ∨
        run.raised = some (.printing .tooManyDigits) ∧
          (p.IsPrintable → PrintFault.ofInt? limit ≠ none)) ∧
      run.interpreter.execution.Safe p ∧
      ∀ n s, Scene.Reaches current.settings current.stride current.trace p n current.opening s →
        s.execution.Safe p ∧ ∃ loops : List OpenLoop,
          s.execution.stack.toList = loops.flatMap OpenLoop.slots ∧
            ∀ loop ∈ loops, loop.Running ∧ loop.opening.next ≤ p.size) ∧
    ∀ (compiler : Compiler) (p : Program) (sink : Sink), sink.failure = none →
      let compiled := compiler.printProgram p sink
      (compiled.raised = none ∨
        (∃ d, compiled.raised = some (.fault (.diagnostic d)) ∧ d.kind = .grammatical) ∨
        compiled.raised = some (.printing .tooManyDigits) ∧
          (p.IsPrintable → p.size < 10 ^ mostDigits →
          PrintFault.ofInt? compiler.settings.engine.maxRepeat ≠ none)) ∧
        compiled.compiler.pc ≤ p.size := by
  intro limit current
  have hread := Settings.ofDatum_of_parse hsettings
  obtain ⟨stack, -, hfresh⟩ := exists_of_bind_ok hfresh
  cases hfresh
  have sound : current.Sound := by
    apply Interpreter.Sound.after
    exact ⟨hbounded.covers _ (lt_headingLimit (by decide)), .inl rfl,
      Surface.extent_of_isCanvas hground⟩
  have same : current.settings = settings := (Interpreter.keeps_after _ history).settings
  refine ⟨fun source raised hraised => ?_, fun p => ?_, fun compiler p sink hsink => ?_⟩
  · cases hsource : (current.settings.lexer.read source).program with
    | error found =>
        rw [InterpreterRun.raised, (Interpreter.run_of_error hsource).1] at hraised
        rw [same] at hsource
        obtain ⟨d, rfl, hkind, hlength⟩ := LexerSettings.lexical_of_read hread hsource
        obtain rfl := (Option.some.inj hraised).symm
        obtain ⟨htold, -⟩ | ⟨htold, hprint⟩ :=
          d.raised_cases (InterpreterFault.source (.diagnostic d))
        · exact .inl ⟨d, htold, hkind⟩
        · exact .inr (.inr ⟨htold, fun short => absurd (hlength short) hprint⟩)
    | ok p =>
        rw [InterpreterRun.raised, (Interpreter.run_of_ok hsource).1, ← InterpreterRun.raised]
          at hraised
        obtain ⟨⟨hnone, -⟩ | ⟨d, hsome, hkind, hd⟩, -⟩ := sound.runProgram p
        · rw [InterpreterRun.raised, hnone] at hraised
          cases hraised
        · rw [same] at hd
          obtain htold | ⟨htold, hlimit⟩ := InterpreterRun.raised_of_diagnostic hsome hd
          · exact .inr (.inl ⟨d, Option.some.inj (hraised.symm.trans htold), hkind⟩)
          · exact .inr (.inr ⟨Option.some.inj (hraised.symm.trans htold), fun short =>
              hlimit (LexerSettings.isPrintable_of_read hsource short)⟩)
  · obtain ⟨ended, safe, -⟩ := sound.runProgram p
    refine ⟨?_, safe, fun n s hreach => ?_⟩
    · obtain ⟨hnone, hindex⟩ | ⟨d, hsome, hkind, hd⟩ := ended
      · exact .inl ⟨by rw [InterpreterRun.raised, hnone]; rfl, hindex⟩
      · rw [same] at hd
        obtain htold | hlimit := InterpreterRun.raised_of_diagnostic hsome hd
        · exact .inr (.inl ⟨d, htold, hkind⟩)
        · exact .inr (.inr hlimit)
    · obtain ⟨safe', -, before, loops, inside⟩ := sound.reached hreach
      exact ⟨safe', loops, inside.slots,
        fun loop hmem => ⟨inside.running loop hmem, Nat.le_trans (inside.next_le hmem) safe'.index⟩⟩
  · exact compiler.raised_of_unfailing p hsink

/-- Behind a loop that was left open, a move without a number: the run fails, and all that it holds
    is safe. -/
theorem engines_raise_diagnostics_unclosed :
    Settings.parse 900 .null = .ok {} ∧
      ∃ fresh, Interpreter.start {} none .discard .standard = .ok fresh ∧
      let current := Interpreter.after { fresh with stride := Trigonometry.still.stride }
        [.runProgram .unclosed]
      let run := current.runProgram #[⟨.identifier, 1, "FORWARD", 0⟩]
      run.raised = some (.fault (.run (.diagnostic ⟨.grammatical .unexpectedEnd, some 1⟩))) ∧
        run.interpreter.execution.Safe #[⟨.identifier, 1, "FORWARD", 0⟩] ∧
        ∀ raised, (current.run "HOME '").raised = some raised →
        raised ≠ .printing .tooManyDigits := by
  have settings : Settings.parse 900 .null = .ok {} := by cbv
  let fresh : Interpreter :=
    ⟨{}, Turtle.displacement, false, .discard, ⟨.initial {}, ⟨256, [], []⟩, 0, 0, 0, #[]⟩⟩
  have stack := @LoopStack.ofCapacity_ok 256 .standard (by decide) (by decide)
  have started : Interpreter.start {} none .discard .standard = .ok fresh := by
    rw [Interpreter.start, stack]
    rfl
  obtain ⟨texts, programs, -⟩ := engines_raise_diagnostics settings Trigonometry.still_bounded
    (show Surface.discard.isCanvas = false from rfl) started [.runProgram .unclosed]
  obtain ⟨-, safe, -⟩ := programs #[⟨.identifier, 1, "FORWARD", 0⟩]
  refine ⟨settings, fresh, started, ?_, safe, fun raised hraised => ?_⟩
  · decide +kernel
  · obtain ⟨d, rfl, -⟩ | ⟨d, rfl, -⟩ | ⟨rfl, hlimit⟩ := texts "HOME '" raised hraised
    · intro same
      cases same
    · intro same
      cases same
    · exact absurd (by decide +kernel) (hlimit (by decide +kernel))

theorem Settings.parse_limit (nesting : Nat) {limit : Int} (hlimit : 0 < limit) :
    parse nesting (.mapping [("engine", .mapping [("max_repeat", .int limit)])]) =
      .ok { engine := { maxRepeat := limit } } := by
  have passed : check { engine := { maxRepeat := limit } } =
    .ok { engine := { maxRepeat := limit } } := by
    simp [check, hlimit]
  exact congrArg (Except.mapError (SettingsFault.raised nesting)) passed

/-- A loop that is not to run at all, under a limit of so many digits. -/
theorem engines_raise_unprintable :
    let data : Datum := .mapping [("engine", .mapping [("max_repeat", .int (10 ^ 4300))])]
    let settings : Settings := { engine := { maxRepeat := 10 ^ 4300 } }
    Settings.parse 900 data = .ok settings ∧ ∃ fresh,
      Interpreter.start settings none .discard .standard = .ok fresh ∧
        (fresh.run "REPEAT 0").raised = some (.printing .tooManyDigits) := by
  intro data settings
  let fresh : Interpreter :=
    ⟨settings, Turtle.displacement, false, .discard, ⟨.initial {}, ⟨256, [], []⟩, 0, 0, 0, #[]⟩⟩
  have stack := @LoopStack.ofCapacity_ok 256 .standard (by decide) (by decide)
  have started : Interpreter.start settings none .discard .standard = .ok fresh := by
    rw [Interpreter.start, stack]
    rfl
  exact ⟨Settings.parse_limit 900 (by decide +kernel), fresh, started, by decide +kernel⟩

end TurtleGraphics
