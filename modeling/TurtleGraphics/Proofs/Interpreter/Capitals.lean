import TurtleGraphics.Proofs.Interpreter.Safety
import TurtleGraphics.Proofs.Program.Capitals

/-! # Engines and letters of either size

Compilers and interpreters do the same with programs in other letters that have the same capitals.
Only the words that a fault quotes are in the letters of the program. So two texts that differ in
the size of letters of ASCII are compiled and run alike.
-/

namespace TurtleGraphics

variable {f : Char → Char}

/-! ## Runs -/

def RunFault.relettered (f : Char → Char) : RunFault → RunFault
  | .diagnostic d => .diagnostic (d.relettered f)
  | fault => fault

def Transition.relettered (f : Char → Char) : Transition → Transition
  | .stop fault after => .stop (fault.relettered f) after
  | transition => transition

def Ending.relettered (f : Char → Char) : Ending → Ending
  | .failed fault => .failed (fault.relettered f)
  | ending => ending

/-- The run that ends with the same fault, where the words have other letters. -/
def Run.relettered (f : Char → Char) (run : Run) : Run :=
  { run with ending := run.ending.relettered f }

namespace Execution

variable {settings : Settings} {stride : Stride} {p : Program}

theorem LoopOutcome.relettered {x : Execution} {line : Int} {t : Transition}
    (h : x.LoopOutcome line t) (f : Char → Char) : t.relettered f = t := by
  cases h <;> rfl

theorem perform_relettered (f : Char → Char) (x : Execution) (i : Instruction) :
    (x.perform settings stride i).relettered f = x.perform settings stride i := by
  unfold perform
  split
  · exact (x.openLoop_outcome _ _).relettered f
  · exact (x.closeLoop_outcome _).relettered f
  · unfold draw
    cases x.turtle.obey settings stride i.command <;> rfl

theorem step_relettered (hf : Text.KeepsCapitals f) (trace : Bool) (p : Program) (x : Execution) :
    x.step settings stride trace (p.relettered f) =
      (x.step settings stride trace p).relettered f := by
  unfold step
  rw [Program.readAt_relettered hf]
  cases p.readAt settings.engine.maxRepeat x.pc with
  | none => rfl
  | some read =>
      cases read with
      | error fault => rfl
      | ok i => exact (perform_relettered f _ i).symm

theorem runFor_relettered (hf : Text.KeepsCapitals f) (trace : Bool) (p : Program) (fuel : Nat)
    (x : Execution) (surface : Surface) :
    x.runFor settings stride trace (p.relettered f) fuel surface =
      (x.runFor settings stride trace p fuel surface).relettered f := by
  induction fuel generalizing x surface with
  | zero => rfl
  | succ fuel ih =>
      rw [runFor, runFor, step_relettered hf]
      cases x.step settings stride trace p with
      | finish | stop => rfl
      | go after call =>
          cases call with
          | none => exact ih after surface
          | some call =>
              dsimp only [Transition.relettered]
              rcases surface.draw call with ⟨painted, _ | fault⟩
              · exact ih after painted
              · rfl

end Execution

namespace Program

theorem countProduct_relettered (hf : Text.KeepsCapitals f) (steps : List Step) :
    countProduct (steps.map (Step.relettered f)) = countProduct steps := by
  induction steps with
  | nil => rfl
  | cons first steps ih =>
      cases steps with
      | nil => rfl
      | cons count rest =>
          have keyword : Keyword.ofName? (first.relettered f).text = Keyword.ofName? first.text :=
            Keyword.ofName?_map hf first.text
          rw [List.map_cons] at ih
          rw [List.map_cons, List.map_cons, countProduct, countProduct, keyword, ih]
          rfl

theorem workBound_relettered (hf : Text.KeepsCapitals f) (p : Program) :
    (p.relettered f).workBound = p.workBound := by
  rw [workBound, workBound, size_relettered, relettered, Array.toList_map,
    countProduct_relettered hf]

end Program

/-! ## Engines -/

def SourceFault.relettered (f : Char → Char) : SourceFault → SourceFault
  | .diagnostic d => .diagnostic (d.relettered f)
  | fault => fault

def InterpreterFault.relettered (f : Char → Char) : InterpreterFault → InterpreterFault
  | .source fault => .source (fault.relettered f)
  | .run fault => .run (fault.relettered f)

def CompileFault.relettered (f : Char → Char) : CompileFault → CompileFault
  | .source fault => .source (fault.relettered f)
  | .diagnostic d => .diagnostic (d.relettered f)
  | .sink fault => .sink fault

theorem Interpreter.runProgram_relettered (hf : Text.KeepsCapitals f) (interpreter : Interpreter)
    (p : Program) :
    (interpreter.runProgram (p.relettered f)).fault =
        (interpreter.runProgram p).fault.map (InterpreterFault.relettered f) ∧
      (interpreter.runProgram (p.relettered f)).interpreter =
        (interpreter.runProgram p).interpreter := by
  obtain ⟨settings, stride, trace, surface, execution⟩ := interpreter
  simp only [runProgram, Execution.run, Program.workBound_relettered hf,
    Execution.runFor_relettered hf]
  rcases execution.fresh.runFor settings stride trace p p.workBound surface with
    ⟨ending, after, painted⟩
  cases ending <;> exact ⟨rfl, rfl⟩

namespace Compilation

theorem refusal_relettered (f : Char → Char) (i : Instruction) (fault : SinkFault) :
    (refusal i fault).relettered f = refusal i fault := by
  unfold refusal
  split <;> rfl

theorem writeAll_relettered (f : Char → Char) (instructions : List Instruction) (c : Compilation) :
    (writeAll instructions c).2.map (CompileFault.relettered f) = (writeAll instructions c).2 := by
  induction instructions generalizing c with
  | nil => rfl
  | cons i rest ih =>
      unfold writeAll
      dsimp only
      split
      · exact congrArg some (refusal_relettered f i _)
      · exact ih _

theorem ofWalk_relettered (f : Char → Char) (walk : Walk) (start : Compilation) :
    ofWalk (walk.relettered f) start =
      ((ofWalk walk start).1, (ofWalk walk start).2.map (CompileFault.relettered f)) := by
  have written := writeAll_relettered f walk.instructions start
  unfold ofWalk Walk.relettered
  dsimp only
  rcases hwrite : writeAll walk.instructions start with ⟨c, _ | fault⟩
  · cases walk.fault <;> rfl
  · rw [hwrite] at written
    exact congrArg (Prod.mk c) written.symm

end Compilation

theorem Compiler.compileProgram_relettered (hf : Text.KeepsCapitals f) (compiler : Compiler)
    (p : Program) (sink : Sink) :
    let after := compiler.compileProgram (p.relettered f) sink
    let before := compiler.compileProgram p sink
    after.fault = before.fault.map (CompileFault.relettered f) ∧
      after.compiler = { before.compiler with program := p.relettered f } ∧
      after.sink = before.sink := by
  simp only [compileProgram_eq, Program.walk_relettered hf, Compilation.ofWalk_relettered]
  rcases Compilation.ofWalk (p.walk compiler.settings.engine.maxRepeat) (.start sink) with
    ⟨c, _ | fault⟩ <;>
    exact ⟨rfl, rfl, rfl⟩

/-! ## Text in capitals -/

theorem LexerSettings.read_toUpper {settings : LexerSettings} {symbol : CodePoint}
    (hsymbol : Lexer.symbol? settings.commentSymbol = .ok symbol) (hunreserved : symbol.Unreserved)
    (source : String) :
    (settings.read source.toUpper).program =
      ((settings.read source).program.map (Program.relettered Char.toUpper)).mapError
        (SourceFault.relettered Char.toUpper) := by
  have told (text : String) : (Reading.of symbol text).program = Program.build symbol text := rfl
  unfold read
  rw [hsymbol]
  dsimp only
  rw [told, told, Program.build_toUpper hunreserved]
  cases Program.build symbol source <;> rfl

theorem Compiler.compileTo_toUpper {compiler : Compiler} {symbol : CodePoint}
    (hsymbol : Lexer.symbol? compiler.settings.lexer.commentSymbol = .ok symbol)
    (hunreserved : symbol.Unreserved) (source : String) (sink : Sink) :
    (compiler.compileTo source.toUpper sink).fault =
        (compiler.compileTo source sink).fault.map (CompileFault.relettered Char.toUpper) ∧
      (compiler.compileTo source.toUpper sink).sink = (compiler.compileTo source sink).sink := by
  have read := LexerSettings.read_toUpper hsymbol hunreserved source
  cases hread : (compiler.settings.lexer.read source).program with
  | error fault =>
      rw [hread] at read
      obtain ⟨fault, -, written⟩ := compileTo_of_error sink hread
      obtain ⟨fault', -, written'⟩ := compileTo_of_error sink read
      rw [fault, fault', written, written']
      exact ⟨rfl, rfl⟩
  | ok p =>
      rw [hread] at read
      obtain ⟨fault, -, written⟩ := compileTo_of_ok sink hread
      obtain ⟨fault', -, written'⟩ := compileTo_of_ok sink read
      obtain ⟨same, -, sunk⟩ := compiler.compileProgram_relettered Text.keepsCapitals_toUpper p sink
      rw [fault, fault', written, written']
      exact ⟨same, sunk⟩

theorem Interpreter.run_toUpper {interpreter : Interpreter} {symbol : CodePoint}
    (hsymbol : Lexer.symbol? interpreter.settings.lexer.commentSymbol = .ok symbol)
    (hunreserved : symbol.Unreserved) (source : String) :
    (interpreter.run source.toUpper).fault =
        (interpreter.run source).fault.map (InterpreterFault.relettered Char.toUpper) ∧
      (interpreter.run source.toUpper).interpreter = (interpreter.run source).interpreter := by
  have read := LexerSettings.read_toUpper hsymbol hunreserved source
  cases hread : (interpreter.settings.lexer.read source).program with
  | error fault =>
      rw [hread] at read
      obtain ⟨fault, left⟩ := run_of_error hread
      obtain ⟨fault', left'⟩ := run_of_error read
      rw [fault, fault', left, left']
      exact ⟨rfl, rfl⟩
  | ok p =>
      rw [hread] at read
      obtain ⟨fault, left⟩ := run_of_ok hread
      obtain ⟨fault', left'⟩ := run_of_ok read
      obtain ⟨same, after⟩ := interpreter.runProgram_relettered Text.keepsCapitals_toUpper p
      rw [fault, fault', left, left']
      exact ⟨same, after⟩

/-! ## Faults of one family -/

/-- Two diagnostics of one family and line. -/
def Diagnostic.Akin (d d' : Diagnostic) : Prop :=
  d'.kind = d.kind ∧ d'.line = d.line

/-- Two compilations were given up for reasons of one family and line. -/
inductive CompileFault.Akin : CompileFault → CompileFault → Prop where
  | source {d d' : Diagnostic} :
      d.Akin d' → Akin (.source (.diagnostic d)) (.source (.diagnostic d'))
  | diagnostic {d d' : Diagnostic} : d.Akin d' → Akin (.diagnostic d) (.diagnostic d')

/-- Two runs were given up for reasons of one family and line, or for the same reason. -/
inductive InterpreterFault.Akin : InterpreterFault → InterpreterFault → Prop where
  | source {d d' : Diagnostic} :
      d.Akin d' → Akin (.source (.diagnostic d)) (.source (.diagnostic d'))
  | diagnostic {d d' : Diagnostic} : d.Akin d' → Akin (.run (.diagnostic d)) (.run (.diagnostic d'))
  | number (fault : NumberFault) : Akin (.run (.number fault)) (.run (.number fault))
  | drawing (fault : DrawFault) : Akin (.run (.drawing fault)) (.run (.drawing fault))

theorem Diagnostic.akin_of_relettered {d d' : Diagnostic} (h : d.relettered f = d'.relettered f) :
    d.Akin d' := by
  constructor
  · rw [← d.kind_relettered (f := f), h, kind_relettered]
  · rw [← d.line_relettered (f := f), h, line_relettered]

/-- Faults of texts with the same capitals are of one family and line. -/
theorem InterpreterFault.akin_of_relettered {fault fault' : InterpreterFault}
    (h : fault.relettered f = fault'.relettered f)
    (hread : ∀ cause, fault ≠ .source (.symbol cause)) :
    fault.Akin fault' := by
  cases fault with
  | source fault =>
      cases fault with
      | symbol cause => exact absurd rfl (hread cause)
      | diagnostic d =>
          cases fault' with
          | run => cases h
          | source fault' =>
              cases fault' with
              | symbol => cases h
              | diagnostic d' =>
                  simp only [relettered, SourceFault.relettered, source.injEq,
                    SourceFault.diagnostic.injEq] at h
                  exact .source (Diagnostic.akin_of_relettered h)
  | run fault =>
      cases fault' with
      | source => cases h
      | run fault' =>
          simp only [relettered, run.injEq] at h
          cases fault with
          | diagnostic d =>
              cases fault' with
              | diagnostic d' =>
                  simp only [RunFault.relettered, RunFault.diagnostic.injEq] at h
                  exact .diagnostic (Diagnostic.akin_of_relettered h)
              | number | drawing => cases h
          | number fault =>
              cases fault' with
              | number =>
                  cases h
                  exact .number fault
              | diagnostic | drawing => cases h
          | drawing fault =>
              cases fault' with
              | drawing =>
                  cases h
                  exact .drawing fault
              | diagnostic | number => cases h

theorem CompileFault.akin_of_relettered {fault fault' : CompileFault}
    (h : fault.relettered f = fault'.relettered f)
    (hread : (∃ d, fault = .source (.diagnostic d)) ∨ ∃ d, fault = .diagnostic d) :
    fault.Akin fault' := by
  obtain ⟨d, rfl⟩ | ⟨d, rfl⟩ := hread
  · cases fault' with
    | diagnostic | sink => cases h
    | source fault' =>
        cases fault' with
        | symbol => cases h
        | diagnostic d' =>
            simp only [relettered, SourceFault.relettered, source.injEq,
              SourceFault.diagnostic.injEq] at h
            exact .source (Diagnostic.akin_of_relettered h)
  · cases fault' with
    | source | sink => cases h
    | diagnostic d' =>
        simp only [relettered, diagnostic.injEq] at h
        exact .diagnostic (Diagnostic.akin_of_relettered h)

variable {data : Datum} {settings : Settings}

theorem Interpreter.run_ne_symbol {interpreter : Interpreter}
    (h : Settings.ofDatum data = .ok interpreter.settings) {source : String}
    {fault : InterpreterFault}
    (hfault : (interpreter.run source).fault = some fault) (cause : SymbolFault) :
    fault ≠ .source (.symbol cause) := by
  rintro rfl
  cases hread : (interpreter.settings.lexer.read source).program with
  | error fault =>
      obtain ⟨d, rfl, -⟩ := LexerSettings.lexical_of_read h hread
      cases (run_of_error hread).1.symm.trans hfault
  | ok p =>
      have blamed := (run_of_ok hread).1.symm.trans hfault
      unfold runProgram at blamed
      dsimp only at blamed
      split at blamed <;> cases blamed

theorem compileTo_diagnosed (h : Settings.ofDatum data = .ok settings) {source : String}
    {fault : CompileFault}
    (hfault : ((Compiler.start settings none).compileTo source {}).fault = some fault) :
    (∃ d, fault = .source (.diagnostic d)) ∨ ∃ d, fault = .diagnostic d := by
  cases hread : ((Compiler.start settings none).settings.lexer.read source).program with
  | error found =>
      obtain ⟨d, rfl, -⟩ := LexerSettings.lexical_of_read h hread
      cases (Compiler.compileTo_of_error {} hread).1.symm.trans hfault
      exact .inl ⟨d, rfl⟩
  | ok p =>
      have blamed := (Compiler.compileTo_of_ok {} hread).1.symm.trans hfault
      rw [((Compiler.start settings none).compileProgram_unfailing p rfl).1] at blamed
      obtain ⟨found, -, rfl⟩ := Option.map_eq_some_iff.mp blamed
      exact .inr ⟨found.diagnostic, rfl⟩

/-- The size of letters of ASCII makes no difference. Under any settings that are read, texts with
the same capitals are compiled to the same script, or refused for reasons of one family and line;
and from any state of an interpreter both lead to the same state, with the same calls to the
surface, and end well or fail for such reasons. -/
theorem engines_ignore_letter_size (h : Settings.ofDatum data = .ok settings) {s t : String}
    (hsame : s.toUpper = t.toUpper) :
    ((∃ text, compileSource settings s = .ok text ∧ compileSource settings t = .ok text) ∨
      ∃ fault fault', compileSource settings s = .error fault ∧
        compileSource settings t = .error fault' ∧
        fault.Akin fault') ∧
    ∀ interpreter : Interpreter, interpreter.settings = settings →
      (interpreter.run t).interpreter = (interpreter.run s).interpreter ∧
        Option.Rel InterpreterFault.Akin (interpreter.run s).fault (interpreter.run t).fault := by
  obtain ⟨symbol, hsymbol, unreserved⟩ := Settings.symbol?_of_ofDatum h
  -- Each text is compared with the text in capitals, which is the same for both.
  constructor
  · have compiled (source : String) :=
      @Compiler.compileTo_toUpper (.start settings none) symbol hsymbol unreserved source {}
    obtain ⟨fault, sink⟩ := compiled s
    obtain ⟨fault', sink'⟩ := compiled t
    rw [hsame, fault'] at fault
    rw [hsame, sink'] at sink
    unfold compileSource
    dsimp only
    cases hs : ((Compiler.start settings none).compileTo s {}).fault with
    | none =>
        rw [hs, Option.map_none, Option.map_eq_none_iff] at fault
        rw [fault, sink]
        exact .inl ⟨_, rfl, rfl⟩
    | some cause =>
        rw [hs, Option.map_some, Option.map_eq_some_iff] at fault
        obtain ⟨cause', ht, alike⟩ := fault
        rw [ht]
        exact .inr ⟨cause, cause', rfl, rfl,
          CompileFault.akin_of_relettered alike.symm (compileTo_diagnosed h hs)⟩
  · rintro interpreter rfl
    obtain ⟨fault, left⟩ := interpreter.run_toUpper hsymbol unreserved s
    obtain ⟨fault', left'⟩ := interpreter.run_toUpper hsymbol unreserved t
    rw [hsame, fault'] at fault
    rw [hsame, left'] at left
    refine ⟨left, ?_⟩
    cases hs : (interpreter.run s).fault with
    | none =>
        rw [hs, Option.map_none, Option.map_eq_none_iff] at fault
        rw [fault]
        exact .none
    | some cause =>
        rw [hs, Option.map_some, Option.map_eq_some_iff] at fault
        obtain ⟨cause', ht, alike⟩ := fault
        rw [ht]
        exact .some
          (InterpreterFault.akin_of_relettered alike.symm (Interpreter.run_ne_symbol h hs))

/-- A color, a keyword and a word that is none, which is quoted in its own letters; one of these is
    not of ASCII. -/
theorem engines_ignore_letter_size_mixed :
    Settings.ofDatum .null = .ok {} ∧ "ink ReD\nfoö".toUpper = "INK red\nFOö".toUpper ∧
      compileSource {} "ink ReD\nfoö" =
        .error (.diagnostic ⟨.grammatical (.unknownKeyword "foö"), some 2⟩) ∧
      (∃ d, compileSource {} "INK red\nFOö" = .error (.diagnostic d) ∧ d.kind = .grammatical ∧
        d.line = some 2) ∧
      ∃ fresh, Interpreter.start {} none .discard .standard = .ok fresh ∧
        (fresh.run "INK red\nFOö").interpreter = (fresh.run "ink ReD\nfoö").interpreter := by
  have settings : Settings.ofDatum .null = .ok {} := by cbv
  have same : "ink ReD\nfoö".toUpper = "INK red\nFOö".toUpper := by
    rw [← String.toList_inj, String.toUpper, String.toUpper, String.toList_map, String.toList_map]
    decide
  have refused : compileSource {} "ink ReD\nfoö" =
    .error (.diagnostic ⟨.grammatical (.unknownKeyword "foö"), some 2⟩) := by decide +kernel
  let fresh : Interpreter :=
    ⟨{}, Turtle.displacement, false, .discard, ⟨.initial {}, ⟨256, [], []⟩, 0, 0, 0, #[]⟩⟩
  have stack := @LoopStack.ofCapacity_ok 256 .standard (by decide) (by decide)
  have started : Interpreter.start {} none .discard .standard = .ok fresh := by
    rw [Interpreter.start, stack]
    rfl
  obtain ⟨⟨text, taken, -⟩ | ⟨fault, fault', hfault, hfault', akin⟩, runs⟩ :=
    engines_ignore_letter_size settings same
  · cases refused.symm.trans taken
  · cases refused.symm.trans hfault
    refine ⟨settings, same, refused, ?_, fresh, started, (runs fresh rfl).1⟩
    cases akin with
    | diagnostic akin => exact ⟨_, hfault', akin⟩

end TurtleGraphics
