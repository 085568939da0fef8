import TurtleGraphics.Proofs.Interpreter.Painting
import TurtleGraphics.Proofs.Tool.Work

/-! # The jobs of the tools

A job fails as its engine does: lexing, compiling or running the text raises a diagnostic. Whatever
else is raised breaks the job off. Until then a job says nothing that matters.
-/

namespace TurtleGraphics

variable {settings : Settings} {machine : Machine} {text : String} {job : Job} {p : Program}

/-! ### Quiet notices -/

theorem Notice.quiet_of_ne {notice : Notice} (h : ∀ tool message, notice ≠ .gaveUp tool message) :
    notice.Quiet := by
  cases notice with
  | gaveUp tool message => exact absurd rfl (h tool message)
  | token | built | began | compiled | ran | readSource | wrotePage | drew | endedAt | totals
        | saved | rendered =>
      simp [Quiet, level, Level.weight]

theorem Notice.quiet_began (begun : List Keyword) :
    ∀ notice ∈ begun.map Notice.began, notice.Quiet :=
  List.forall_mem_map.mpr fun _ _ => quiet_of_ne nofun

theorem LexerSettings.quiet_read (settings : LexerSettings) (source : String) :
    ∀ notice ∈ (settings.read source).notices, notice.Quiet := by
  have tokens : ∀ debug : Bool, ∀ remarks : List String,
      ∀ notice ∈ (if debug then remarks.map Notice.token else []), notice.Quiet := by
    intro debug remarks
    split
    · exact List.forall_mem_map.mpr fun _ _ => Notice.quiet_of_ne nofun
    · exact List.forall_mem_nil _
  unfold read
  split
  · exact List.forall_mem_nil _
  · dsimp only
    split
    · exact tokens _ _
    · exact List.forall_mem_append.mpr
        ⟨tokens _ _, List.forall_mem_singleton.mpr (Notice.quiet_of_ne nofun)⟩

theorem Compiler.quiet_report (compiler : Compiler) (c : Compilation) :
    ∀ notice ∈ compiler.report c, notice.Quiet := by
  unfold report
  split
  · exact Notice.quiet_began _
  · exact List.forall_mem_nil _

theorem Compiler.quiet_compileProgram (compiler : Compiler) (p : Program) (sink : Sink) :
    ∀ notice ∈ (compiler.compileProgram p sink).notices, notice.Quiet := by
  rw [compileProgram_eq]
  generalize Compilation.ofWalk (p.walk compiler.settings.engine.maxRepeat) (.start sink) = walked
  obtain ⟨c, _ | fault⟩ := walked
  · exact List.forall_mem_append.mpr
      ⟨quiet_report _ c, List.forall_mem_singleton.mpr (Notice.quiet_of_ne nofun)⟩
  · exact quiet_report _ c

theorem Compiler.quiet_printProgram (compiler : Compiler) (p : Program) (sink : Sink) :
    ∀ notice ∈ (compiler.printProgram p sink).notices, notice.Quiet := by
  rw [printProgram_eq]
  rcases Instruction.printed 0 (p.walk compiler.settings.engine.maxRepeat).instructions with
    ⟨front, _ | ⟨stuck, fault⟩⟩
  · exact compiler.quiet_compileProgram p sink
  · dsimp only [printUpTo]
    split <;> exact quiet_report _ _

theorem Compiler.quiet_printTo (compiler : Compiler) (source : String) (sink : Sink) :
    ∀ notice ∈ (compiler.printTo source sink).notices, notice.Quiet := by
  have read := compiler.settings.lexer.quiet_read source
  unfold printTo
  generalize compiler.settings.lexer.read source = reading at read
  obtain ⟨_ | p, notices⟩ := reading
  · exact read
  · exact List.forall_mem_append.mpr ⟨read, compiler.quiet_printProgram p sink⟩

theorem Interpreter.quiet_runProgram (interpreter : Interpreter) (p : Program) :
    ∀ notice ∈ (interpreter.runProgram p).notices, notice.Quiet := by
  obtain ⟨settings, stride, trace, surface, execution⟩ := interpreter
  unfold runProgram
  dsimp only
  generalize execution.fresh.run settings stride trace p surface = run
  obtain ⟨ending, after, surface'⟩ := run
  have begun := Notice.quiet_began after.traced.toList
  have last : (Notice.ran after.commands after.lines).Quiet := Notice.quiet_of_ne nofun
  have ran := List.forall_mem_append.mpr ⟨begun, List.forall_mem_singleton.mpr last⟩
  cases ending with
  | failed fault => exact begun
  | finished | unfinished => exact ran

theorem Interpreter.quiet_run (interpreter : Interpreter) (source : String) :
    ∀ notice ∈ (interpreter.run source).notices, notice.Quiet := by
  have read := interpreter.settings.lexer.quiet_read source
  unfold run
  generalize interpreter.settings.lexer.read source = reading at read
  obtain ⟨_ | p, notices⟩ := reading
  · exact read
  · exact List.forall_mem_append.mpr ⟨read, interpreter.quiet_runProgram p⟩

/-! ### What is raised for text -/

namespace Interpreter

variable {interpreter : Interpreter}

theorem raised_of_error {fault : SourceFault}
    (h : (interpreter.settings.lexer.read text).program = .error fault) :
    (interpreter.run text).raised = some (InterpreterFault.source fault).raised := by
  rw [InterpreterRun.raised, (run_of_error h).1, Option.map_some]

theorem raised_of_ok (h : (interpreter.settings.lexer.read text).program = .ok p) :
    (interpreter.run text).raised = (interpreter.runProgram p).raised := by
  rw [InterpreterRun.raised, (run_of_ok h).1, InterpreterRun.raised]

end Interpreter

/-! ### What becomes of text -/

/-- How a job runs its program: whether each command is reported, and on which surface. A page is
    not run. -/
inductive Job.Runs (settings : Settings) (memory : Memory) :
    Job → Option Bool → Surface → Prop where
  | trace {lines : Bool} : Runs settings memory (.trace lines) (some true) (.record #[])
  | render {output : Option String} {marker trace : Bool} {blank : Canvas} :
      Canvas.ofSettings settings memory = .ok blank →
      Runs settings memory (.render output marker trace) (if trace then some true else none)
        (.raster settings.palette blank memory)

/-- The interpreter that runs the program of a job. -/
inductive Job.Starts (settings : Settings) (machine : Machine) (job : Job) :
    Interpreter → Prop where
  | intro {choice : Option Bool} {surface : Surface} {start : Interpreter} :
      job.Runs settings machine.memory choice surface →
      Interpreter.start settings choice surface machine.memory = .ok start →
      Starts settings machine job { start with stride := machine.trigonometry.stride }

/-- The compiler that compiles the program of a job. -/
inductive Job.Compiles (settings : Settings) : Job → Compiler → Prop where
  | intro {output : Option String} {raw : Bool} {title : String} {trace : Bool} :
      Compiles settings (.compile output raw title trace)
        (.start settings (if trace then some true else none))

/-- There is no memory for the canvas or the stack of a job. -/
inductive Job.Unready (settings : Settings) (memory : Memory) : Job → ToolFault → Prop where
  | canvas {output : Option String} {marker trace : Bool} {fault : TableFault} :
      Canvas.ofSettings settings memory = .error fault →
      Unready settings memory (.render output marker trace) (.canvas fault)
  | stack {job : Job} {choice : Option Bool} {surface : Surface} {fault : CapacityFault} :
      job.Runs settings memory choice surface →
      Interpreter.start settings choice surface memory = .error fault →
      Unready settings memory job (.capacity fault)

/-- Lexing, compiling or running the text for a job raises a diagnostic. -/
inductive Job.Raises (settings : Settings) (machine : Machine) (text : String) (job : Job)
    (d : Diagnostic) :
    Prop where
  | lexing : (settings.lexer.read text).program = .error (.diagnostic d) → d.printFault? = none →
      Raises settings machine text job d
  | compiling {compiler : Compiler} {p : Program} : job.Compiles settings compiler →
      (settings.lexer.read text).program = .ok p →
      (compiler.printProgram p {}).raised = some (.fault (.diagnostic d)) →
      Raises settings machine text job d
  | running {engine : Interpreter} {p : Program} : job.Starts settings machine engine →
      (settings.lexer.read text).program = .ok p →
      (engine.runProgram p).raised = some (.fault (.run (.diagnostic d))) →
      Raises settings machine text job d

/-- What else breaks a job off: something cannot be printed, the turtle is lost, or a line cannot be
    drawn. -/
inductive Job.Breaks (settings : Settings) (machine : Machine) (text : String) :
    Job → ToolFault → Prop where
  | lexing {job : Job} {d : Diagnostic} {fault : PrintFault} :
      (settings.lexer.read text).program = .error (.diagnostic d) → d.printFault? = some fault →
      Breaks settings machine text job (.printing fault)
  | compiling {job : Job} {compiler : Compiler} {p : Program} {fault : PrintFault} :
      job.Compiles settings compiler → (settings.lexer.read text).program = .ok p →
      (compiler.printProgram p {}).raised = some (.printing fault) →
      Breaks settings machine text job (.printing fault)
  | page {output : Option String} {title : String} {trace : Bool} {compiler : Compiler}
      {p : Program} {fault : PrintFault} :
      (Job.compile output false title trace).Compiles settings compiler →
      (settings.lexer.read text).program = .ok p → (compiler.printProgram p {}).raised = none →
      Page.print settings title (compiler.printProgram p {}).sink.text = .error fault →
      Breaks settings machine text (.compile output false title trace) (.printing fault)
  | running {job : Job} {engine : Interpreter} {p : Program} {fault : PrintFault} :
      job.Starts settings machine engine → (settings.lexer.read text).program = .ok p →
      (engine.runProgram p).raised = some (.printing fault) →
      Breaks settings machine text job (.printing fault)
  | number {job : Job} {engine : Interpreter} {p : Program} {fault : NumberFault} :
      job.Starts settings machine engine → (settings.lexer.read text).program = .ok p →
      (engine.runProgram p).fault = some (.run (.number fault)) →
      Breaks settings machine text job (.number fault)
  | drawing {job : Job} {engine : Interpreter} {p : Program} {fault : DrawFault} :
      job.Starts settings machine engine → (settings.lexer.read text).program = .ok p →
      (engine.runProgram p).fault = some (.run (.drawing fault)) →
      Breaks settings machine text job (.drawing fault)
  | marker {output : Option String} {trace : Bool} {engine : Interpreter} {p : Program}
      {fault : DrawFault} :
      (Job.render output true trace).Starts settings machine engine →
      (settings.lexer.read text).program = .ok p → (engine.runProgram p).fault = none →
      ((engine.runProgram p).interpreter.drawTurtle none machine.trigonometry).2 = some fault →
      Breaks settings machine text (.render output true trace) (.drawing fault)

namespace Job

variable {engine : Interpreter} {compiler : Compiler} {data : Datum}

theorem Compiles.settings_eq (h : job.Compiles settings compiler) :
    compiler.settings = settings := by
  cases h
  rfl

theorem Starts.settings_eq (h : job.Starts settings machine engine) :
    engine.settings = settings := by
  cases h with
  | intro hruns hstart => exact (Interpreter.keeps_start hstart hstart rfl).1

theorem exists_start {memory : Memory} {choice : Option Bool} {surface : Surface}
    (hready : ∀ fault, ¬ job.Unready settings memory fault)
    (hruns : job.Runs settings memory choice surface) :
    ∃ start, Interpreter.start settings choice surface memory = .ok start := by
  cases hstart : Interpreter.start settings choice surface memory with
  | ok start => exact ⟨start, rfl⟩
  | error fault => exact absurd (.stack hruns hstart) (hready _)

theorem exists_blank {memory : Memory} {output : Option String} {marker trace : Bool}
    (hready : ∀ fault, ¬ (render output marker trace).Unready settings memory fault) :
    ∃ blank, Canvas.ofSettings settings memory = .ok blank := by
  cases hblank : Canvas.ofSettings settings memory with
  | ok blank => exact ⟨blank, rfl⟩
  | error fault => exact absurd (.canvas hblank) (hready _)

theorem exists_engine (hready : ∀ fault, ¬ job.Unready settings machine.memory fault) :
    (∃ compiler, job.Compiles settings compiler) ∨
    ∃ engine, job.Starts settings machine engine := by
  have starts {choice : Option Bool} {surface : Surface}
      (hruns : job.Runs settings machine.memory choice surface) :
      ∃ engine, job.Starts settings machine engine := by
    obtain ⟨start, hstart⟩ := exists_start hready hruns
    exact ⟨_, .intro hruns hstart⟩
  cases job with
  | compile output raw title trace => exact .inl ⟨_, .intro⟩
  | trace lines => exact .inr (starts .trace)
  | render output marker trace =>
      obtain ⟨blank, hblank⟩ := exists_blank hready
      exact .inr (starts (.render hblank))

theorem raises_or_breaks_of_error (hdata : Settings.ofDatum data = .ok settings)
    {fault : SourceFault} (hread : (settings.lexer.read text).program = .error fault) :
    (∃ d, job.Raises settings machine text d) ∨
    ∃ fault, job.Breaks settings machine text fault := by
  obtain ⟨d, rfl, -⟩ := LexerSettings.lexical_of_read hdata hread
  cases hprint : d.printFault? with
  | none => exact .inl ⟨d, .lexing hread hprint⟩
  | some unprinted => exact .inr ⟨_, .lexing hread hprint⟩

theorem compiles_cases (machine : Machine) (hdata : Settings.ofDatum data = .ok settings)
    (h : job.Compiles settings compiler) (text : String) :
    (∃ p, (settings.lexer.read text).program = .ok p ∧ (compiler.printProgram p {}).raised = none) ∨
      (∃ d, job.Raises settings machine text d) ∨
      ∃ fault, job.Breaks settings machine text fault := by
  cases hread : (settings.lexer.read text).program with
  | error fault => exact .inr (raises_or_breaks_of_error hdata hread)
  | ok p =>
      obtain ⟨hnone | ⟨d, hsome, -⟩ | ⟨hprinting, -⟩, -⟩ :=
        compiler.raised_of_unfailing p (show ({} : Sink).failure = none from rfl)
      · exact .inl ⟨p, rfl, hnone⟩
      · exact .inr (.inl ⟨d, .compiling h hread hsome⟩)
      · exact .inr (.inr ⟨_, .compiling h hread hprinting⟩)

theorem starts_cases (hdata : Settings.ofDatum data = .ok settings)
    (h : job.Starts settings machine engine) (text : String) :
    (∃ p, (settings.lexer.read text).program = .ok p ∧ (engine.runProgram p).fault = none) ∨
      (∃ d, job.Raises settings machine text d) ∨
      ∃ fault, job.Breaks settings machine text fault := by
  cases hread : (settings.lexer.read text).program with
  | error fault => exact .inr (raises_or_breaks_of_error hdata hread)
  | ok p =>
      obtain ⟨-, -, left, -, -, hfault, -⟩ := engine.exists_ending p
      cases hending : left.ending.fault with
      | none =>
          rw [hending] at hfault
          exact .inl ⟨p, rfl, hfault⟩
      | some fault =>
          rw [hending] at hfault
          cases fault with
          | number => exact .inr (.inr ⟨_, .number h hread hfault⟩)
          | drawing => exact .inr (.inr ⟨_, .drawing h hread hfault⟩)
          | diagnostic d =>
              have raised : (engine.runProgram p).raised =
                  some (InterpreterFault.run (.diagnostic d)).raised := by
                rw [InterpreterRun.raised, hfault]
                rfl
              obtain ⟨htold, -⟩ | ⟨htold, -⟩ :=
                d.raised_cases (InterpreterFault.run (.diagnostic d))
              · exact .inr (.inl ⟨d, .running h hread (raised.trans (congrArg some htold))⟩)
              · exact .inr (.inr ⟨_, .running h hread (raised.trans (congrArg some htold))⟩)

end Job

/-! ### How a job stops -/

namespace Work

variable {place : Workplace} {journal : Journal} {source : Option String} {color : Bool}
  {halt : Halt} {choice : Option Bool} {surface : Surface} {start engine : Interpreter}
  {compiler : Compiler} {fault : ToolFault} {data : Datum}

/-- A job stops, and what it has said by then does not matter. -/
def Stops (settings : Settings) (place : Workplace) (journal : Journal) (source : Option String)
    (job : Job) (halt : Halt) : Prop :=
  ∃ quiet, (∀ notice ∈ quiet, notice.Quiet) ∧
    (onJob settings source job).Yields { place with journal } (.error halt)
      ((named place journal source).say quiet)

theorem onJob_unready (h : job.Unready settings place.machine.memory fault) :
    (onJob settings source job).Yields { place with journal } (.error (.fault fault))
      { place with journal } := by
  have unstarted {choice : Option Bool} {surface : Surface} {fault : CapacityFault}
      (hstart : Interpreter.start settings choice surface place.machine.memory = .error fault) :
      (runSource settings choice surface source).Yields { place with journal }
        (.error (.fault (.capacity fault))) { place with journal } :=
    .bind .get (.bind_error (.orHalt_error hstart))
  cases h with
  | canvas hblank => exact .bind .get (.bind_error (.orHalt_error hblank))
  | stack hruns hstart =>
      cases hruns with
      | trace => exact (unstarted hstart).bind_error
      | render hblank =>
          exact .bind .get ((Yields.orHalt_ok hblank).bind (unstarted hstart).bind_error)

theorem onJob_unreadable (hready : ∀ fault, ¬ job.Unready settings place.machine.memory fault)
    (hnamed : (named place journal source).journal.outlets = [.terminal color]) {cause : TextFault}
    (htext : place.sourceText source = .error cause) :
    Stops settings place journal source job (ofTextFault cause) := by
  refine ⟨[], List.forall_mem_nil _, ?_⟩
  rw [Workplace.say_nil hnamed]
  obtain ⟨compiler, hcompiles⟩ | ⟨engine, hstarts⟩ := Job.exists_engine hready
  · cases hcompiles
    exact (readSource_error htext).bind_error
  · cases hstarts with
    | @intro choice surface start hruns hstart =>
        have unread : (runSource settings choice surface source).Yields { place with journal }
            (.error (ofTextFault cause)) (named place journal source) :=
          .bind .get ((Yields.orHalt_ok hstart).bind (.bind_error (readSource_error htext)))
        cases hruns with
        | trace => exact unread.bind_error
        | render hblank => exact .bind .get ((Yields.orHalt_ok hblank).bind unread.bind_error)

theorem compile_stops (hnamed : (named place journal source).journal.outlets = [.terminal color])
    (htext : place.sourceText source = .ok text) (hcompiles : job.Compiles settings compiler)
    {raised : Raised CompileFault} (hraised : (compiler.printTo text {}).raised = some raised) :
    Stops settings place journal source job (ofRaised ofCompileFault raised) := by
  have first : (Notice.readSource text.length).Quiet := Notice.quiet_of_ne nofun
  refine ⟨_, List.forall_mem_cons.mpr ⟨first, compiler.quiet_printTo text {}⟩, ?_⟩
  cases hcompiles
  rw [← List.singleton_append, ← Workplace.say_say hnamed]
  exact (readSource_ok htext).bind ((Yields.say _).bind (.bind_error (.haltAt_some hraised)))

theorem runSource_raised (hnamed : (named place journal source).journal.outlets = [.terminal color])
    (htext : place.sourceText source = .ok text)
    (hstart : Interpreter.start settings choice surface place.machine.memory = .ok start)
    (hengine : { start with stride := place.machine.trigonometry.stride } = engine)
    {raised : Raised InterpreterFault} (hraised : (engine.run text).raised = some raised) :
    (runSource settings choice surface source).Yields { place with journal }
      (.error (ofRaised ofInterpreterFault raised))
      ((named place journal source).say
        (.readSource text.length :: (engine.run text).notices)) := by
  subst hengine
  rw [← List.singleton_append, ← Workplace.say_say hnamed]
  exact .bind .get ((Yields.orHalt_ok hstart).bind ((readSource_ok htext).bind
    (.bind (.say _) (.bind_error (.haltAt_some hraised)))))

theorem runSource_ok (hnamed : (named place journal source).journal.outlets = [.terminal color])
    (htext : place.sourceText source = .ok text)
    (hstart : Interpreter.start settings choice surface place.machine.memory = .ok start)
    (hengine : { start with stride := place.machine.trigonometry.stride } = engine)
    (hraised : (engine.run text).raised = none) :
    (runSource settings choice surface source).Yields { place with journal }
      (.ok (engine.run text).interpreter)
      ((named place journal source).say
        (.readSource text.length :: (engine.run text).notices)) := by
  subst hengine
  rw [← List.singleton_append, ← Workplace.say_say hnamed]
  exact .bind .get ((Yields.orHalt_ok hstart).bind ((readSource_ok htext).bind
    (.bind (.say _) (.bind (.haltAt_none hraised) (.pure _)))))

theorem run_stops (hnamed : (named place journal source).journal.outlets = [.terminal color])
    (htext : place.sourceText source = .ok text)
    (hstarts : job.Starts settings place.machine engine)
    {raised : Raised InterpreterFault} (hraised : (engine.run text).raised = some raised) :
    Stops settings place journal source job (ofRaised ofInterpreterFault raised) := by
  have first : (Notice.readSource text.length).Quiet := Notice.quiet_of_ne nofun
  refine ⟨_, List.forall_mem_cons.mpr ⟨first, engine.quiet_run text⟩, ?_⟩
  cases hstarts with
  | intro hruns hstart =>
      have stopped := runSource_raised hnamed htext hstart rfl hraised
      cases hruns with
      | trace => exact stopped.bind_error
      | render hblank => exact .bind .get ((Yields.orHalt_ok hblank).bind stopped.bind_error)

theorem onJob_lexical (hready : ∀ fault, ¬ job.Unready settings place.machine.memory fault)
    (hnamed : (named place journal source).journal.outlets = [.terminal color])
    (htext : place.sourceText source = .ok text) {d : Diagnostic}
    (hread : (settings.lexer.read text).program = .error (.diagnostic d)) :
    Stops settings place journal source job
      (match d.printFault? with
        | none => .gaveUp d.message
        | some unprinted => .fault (.printing unprinted)) := by
  obtain ⟨compiler, hcompiles⟩ | ⟨engine, hstarts⟩ := Job.exists_engine hready
  · rw [← hcompiles.settings_eq] at hread
    have stops := compile_stops hnamed htext hcompiles (Compiler.printTo_of_error {} hread).1
    have raised : (CompileFault.source (.diagnostic d)).raised = .of _ d.printFault? := rfl
    rw [raised] at stops
    cases hprint : d.printFault? <;> rwa [hprint] at stops
  · rw [← hstarts.settings_eq] at hread
    have stops := run_stops hnamed htext hstarts (Interpreter.raised_of_error hread)
    have raised : (InterpreterFault.source (.diagnostic d)).raised = .of _ d.printFault? := rfl
    rw [raised] at stops
    cases hprint : d.printFault? <;> rwa [hprint] at stops

/-- What the engine raises the tool reports. -/
theorem onJob_raises (hready : ∀ fault, ¬ job.Unready settings place.machine.memory fault)
    (hnamed : (named place journal source).journal.outlets = [.terminal color])
    (htext : place.sourceText source = .ok text) {d : Diagnostic}
    (hraises : job.Raises settings place.machine text d) :
    Stops settings place journal source job (.gaveUp d.message) := by
  cases hraises with
  | lexing hread hprint =>
      have stops := onJob_lexical hready hnamed htext hread
      rwa [hprint] at stops
  | compiling hcompiles hread hraised =>
      rw [← hcompiles.settings_eq] at hread
      exact compile_stops hnamed htext hcompiles ((Compiler.printTo_of_ok {} hread).1.trans hraised)
  | running hstarts hread hraised =>
      rw [← hstarts.settings_eq] at hread
      exact run_stops hnamed htext hstarts ((Interpreter.raised_of_ok hread).trans hraised)

theorem page_stops (hnamed : (named place journal source).journal.outlets = [.terminal color])
    (htext : place.sourceText source = .ok text) {output : Option String} {title : String}
    {trace : Bool} (hcompiles : (Job.compile output false title trace).Compiles settings compiler)
    (hraised : (compiler.printTo text {}).raised = none) {unprinted : PrintFault}
    (hpage : Page.print settings title (compiler.printTo text {}).sink.text = .error unprinted) :
    Stops settings place journal source (.compile output false title trace)
      (.fault (.printing unprinted)) := by
  have first : (Notice.readSource text.length).Quiet := Notice.quiet_of_ne nofun
  refine ⟨_, List.forall_mem_cons.mpr ⟨first, compiler.quiet_printTo text {}⟩, ?_⟩
  cases hcompiles
  rw [← List.singleton_append, ← Workplace.say_say hnamed]
  exact (readSource_ok htext).bind ((Yields.say _).bind ((Yields.haltAt_none hraised).bind
    (.bind_error (.orHalt_error hpage))))

theorem marker_stops (hnamed : (named place journal source).journal.outlets = [.terminal color])
    (htext : place.sourceText source = .ok text) {output : Option String} {trace : Bool}
    (hstarts : (Job.render output true trace).Starts settings place.machine engine)
    (hraised : (engine.run text).raised = none) {undrawn : DrawFault}
    (hmarker : ((engine.run text).interpreter.drawTurtle none place.machine.trigonometry).2 =
      some undrawn) :
    Stops settings place journal source (.render output true trace)
      (.fault (.drawing undrawn)) := by
  have first : (Notice.readSource text.length).Quiet := Notice.quiet_of_ne nofun
  refine ⟨_, List.forall_mem_cons.mpr ⟨first, engine.quiet_run text⟩, ?_⟩
  cases hstarts with
  | intro hruns hstart =>
      have ran := runSource_ok hnamed htext hstart rfl hraised
      rw [Workplace.say_eq hnamed] at ran ⊢
      cases hruns with
      | render hblank =>
          exact .bind .get ((Yields.orHalt_ok hblank).bind (ran.bind (.bind .get
            (.bind_error (.haltAt_some hmarker)))))

/-- What breaks a job off ends the tool, with nothing reported. -/
theorem onJob_breaks (hready : ∀ fault, ¬ job.Unready settings place.machine.memory fault)
    (hnamed : (named place journal source).journal.outlets = [.terminal color])
    (htext : place.sourceText source = .ok text)
    (hbreaks : job.Breaks settings place.machine text fault) :
    Stops settings place journal source job (.fault fault) := by
  have runs {engine : Interpreter} {p : Program} {raised : Raised InterpreterFault}
      (hstarts : job.Starts settings place.machine engine)
      (hread : (settings.lexer.read text).program = .ok p)
      (hraised : (engine.runProgram p).raised = some raised) :
      Stops settings place journal source job (ofRaised ofInterpreterFault raised) := by
    rw [← hstarts.settings_eq] at hread
    exact run_stops hnamed htext hstarts ((Interpreter.raised_of_ok hread).trans hraised)
  cases hbreaks with
  | lexing hread hprint =>
      have stops := onJob_lexical hready hnamed htext hread
      rwa [hprint] at stops
  | compiling hcompiles hread hraised =>
      rw [← hcompiles.settings_eq] at hread
      exact compile_stops hnamed htext hcompiles ((Compiler.printTo_of_ok {} hread).1.trans hraised)
  | page hcompiles hread hraised hpage =>
      rw [← hcompiles.settings_eq] at hread
      obtain ⟨raised, -, sink⟩ := Compiler.printTo_of_ok {} hread
      rw [← sink] at hpage
      exact page_stops hnamed htext hcompiles (raised.trans hraised) hpage
  | running hstarts hread hraised => exact runs hstarts hread hraised
  | number hstarts hread hfault =>
      exact runs hstarts hread (congrArg (Option.map InterpreterFault.raised) hfault)
  | drawing hstarts hread hfault =>
      exact runs hstarts hread (congrArg (Option.map InterpreterFault.raised) hfault)
  | marker hstarts hread hfault hmarker =>
      rw [← hstarts.settings_eq] at hread
      obtain ⟨fault, after⟩ := Interpreter.run_of_ok hread
      rw [← after] at hmarker
      have raised := congrArg (Option.map InterpreterFault.raised) (fault.trans hfault)
      exact marker_stops hnamed htext hstarts raised hmarker

end Work

/-! ### How a job is done -/

/-- The output of a job can be written. -/
def Job.Writes (files : FileTree) : Job → Prop
  | .compile output _ _ _ => ∀ name, output = some name → name ≠ "" →
      ∀ text, (files.writeText (Path.ofString name) text .utf8).2 = none
  | .trace _ => True
  | .render output _ _ => ∃ name, output = some name ∧
      ∀ canvas : Canvas, 0 < canvas.width → 0 < canvas.height →
        (files.savePicture (Path.ofString name) (.ofCanvas canvas)).2 = none

theorem Canvas.extent_ofSettings {memory : Memory} {blank : Canvas}
    (h : Canvas.ofSettings settings memory = .ok blank) (palette : Palette) :
    (Surface.raster palette blank memory).extent =
      some (settings.canvas.width.toNat, settings.canvas.height.toNat, memory) := by
  obtain ⟨-, -, h⟩ := exists_of_bind_ok h
  cases h
  rfl

theorem Surface.canvas?_of_extent {surface : Surface} {width height : Nat} {memory : Memory}
    (h : surface.extent = some (width, height, memory)) :
    ∃ canvas, surface.canvas? = some canvas ∧ canvas.width = width ∧ canvas.height = height := by
  cases surface with
  | discard | record => cases h
  | raster palette canvas memory =>
      cases h
      exact ⟨canvas, rfl, rfl, rfl⟩

namespace Interpreter

variable {memory : Memory}

theorem start_eq {choice : Option Bool} {surface : Surface} {start : Interpreter}
    (hstart : Interpreter.start settings choice surface memory = .ok start) : ∃ stack,
    start = ⟨settings, Turtle.displacement, choice.getD settings.engine.trace, surface,
      ⟨.initial settings.turtle, stack, 0, 0, 0, #[]⟩⟩ := by
  obtain ⟨stack, -, hstart⟩ := exists_of_bind_ok hstart
  exact ⟨stack, (Except.ok.inj hstart).symm⟩

theorem extent_start {choice : Option Bool} {surface : Surface} {start : Interpreter}
    (hstart : Interpreter.start settings choice surface memory = .ok start) :
    start.surface.extent = surface.extent := by
  obtain ⟨stack, rfl⟩ := start_eq hstart
  rfl

theorem exists_canvas {after : Interpreter} {width height : Nat} {marker : Bool}
    {trigonometry : Trigonometry} (hextent : after.surface.extent = some (width, height, memory))
    (hmarked : marker = true → (after.drawTurtle none trigonometry).2 = none) :
    let drawn := if marker then after.drawTurtle none trigonometry else (after, none)
    drawn.2 = none ∧ ∃ canvas, drawn.1.surface.canvas? = some canvas ∧
      canvas.width = width ∧ canvas.height = height := by
  cases marker with
  | false => exact ⟨rfl, Surface.canvas?_of_extent hextent⟩
  | true =>
      have kept :=
        Surface.extent_drawTurtle after.settings.turtle after.turtle after.surface trigonometry
      exact ⟨hmarked rfl, Surface.canvas?_of_extent (kept.trans hextent)⟩

end Interpreter

namespace Work

variable {place : Workplace} {journal : Journal} {source : Option String} {color : Bool}
  {data : Datum} {choice : Option Bool} {surface : Surface} {start : Interpreter}

theorem Yields.takeOver {written : FileTree × Option WriteFault} (h : written.2 = none) :
    (takeOver written).Yields place (.ok ()) { place with files := written.1 } :=
  .bind rfl (.haltAt_none h)

theorem printTo_of_not_raises (hdata : Settings.ofDatum data = .ok settings)
    {output : Option String} {raw : Bool} {title : String} {trace : Bool} {compiler : Compiler}
    (hcompiles : (Job.compile output raw title trace).Compiles settings compiler)
    (hraises : ∀ d, ¬ (Job.compile output raw title trace).Raises settings place.machine text d)
    (hbreaks : ∀ fault, ¬ (Job.compile output raw title trace).Breaks settings place.machine
      text fault) :
    (compiler.printTo text {}).raised = none ∧
      (raw = false → ∃ page, Page.print settings title (compiler.printTo text {}).sink.text =
        .ok page) := by
  obtain ⟨p, hread, hraised⟩ | ⟨d, hraises'⟩ | ⟨fault, hbreaks'⟩ :=
    Job.compiles_cases place.machine hdata hcompiles text
  · have same := hread
    rw [← hcompiles.settings_eq] at same
    obtain ⟨raised, -, sink⟩ := Compiler.printTo_of_ok {} same
    refine ⟨raised.trans hraised, ?_⟩
    rintro rfl
    cases hpage : Page.print settings title (compiler.printTo text {}).sink.text with
    | ok page => exact ⟨page, rfl⟩
    | error fault =>
        rw [sink] at hpage
        exact absurd (.page hcompiles hread hraised hpage) (hbreaks _)
  · exact absurd hraises' (hraises d)
  · exact absurd hbreaks' (hbreaks fault)

theorem handOver_succeeds {output : Option String} {ready : Workplace} {files : FileTree}
    (hwrites : ∀ name, output = some name → name ≠ "" → ∀ text,
      (files.writeText (Path.ofString name) text .utf8).2 = none)
    (hfiles : ready.files = files) (written : String) :
    (match output.filter (· ≠ "") with
      | none => modify fun place => place.print written
      | some name => do
        takeOver ((← get).files.writeText (Path.ofString name) written .utf8)
        say [.wrotePage name] : Work Unit).Succeeds ready := by
  cases hname : output.filter (· ≠ "") with
  | none => exact ⟨_, rfl⟩
  | some name =>
      obtain ⟨hgiven, hname'⟩ := Option.filter_eq_some_iff.mp hname
      apply Succeeds.of_bind .get
      rw [hfiles]
      apply Succeeds.of_bind (.takeOver (hwrites name hgiven (by simpa using hname') written))
      exact (Yields.say _).succeeds

theorem compile_ok (hdata : Settings.ofDatum data = .ok settings) {output : Option String}
    {raw : Bool} {title : String} {trace : Bool}
    (hwrites : (Job.compile output raw title trace).Writes place.files)
    (hnamed : (named place journal source).journal.outlets = [.terminal color])
    (htext : place.sourceText source = .ok text)
    (hraises : ∀ d, ¬ (Job.compile output raw title trace).Raises settings place.machine text d)
    (hbreaks : ∀ fault, ¬ (Job.compile output raw title trace).Breaks settings place.machine
      text fault) :
    (compile settings source output raw title trace).Succeeds { place with journal } := by
  obtain ⟨hraised, hpage⟩ := printTo_of_not_raises hdata .intro hraises hbreaks
  unfold compile
  apply Succeeds.of_bind (readSource_ok htext)
  generalize (Compiler.start settings (if trace then some true else none)).printTo text {} = result
    at hraised hpage ⊢
  apply Succeeds.of_bind (.say _)
  apply Succeeds.of_bind (.haltAt_none hraised)
  rw [Workplace.say_say hnamed, Workplace.say_eq hnamed]
  cases raw with
  | true =>
      apply Succeeds.of_bind (.pure _)
      apply handOver_succeeds hwrites
      rfl
  | false =>
      obtain ⟨page, hpage⟩ := hpage rfl
      apply Succeeds.of_bind (.orHalt_ok hpage)
      apply handOver_succeeds hwrites
      rfl

theorem runSource_of_not_raises (hdata : Settings.ofDatum data = .ok settings)
    (hruns : job.Runs settings place.machine.memory choice surface)
    (hstart : Interpreter.start settings choice surface place.machine.memory = .ok start)
    (hnamed : (named place journal source).journal.outlets = [.terminal color])
    (htext : place.sourceText source = .ok text)
    (hraises : ∀ d, ¬ job.Raises settings place.machine text d)
    (hbreaks : ∀ fault, ¬ job.Breaks settings place.machine text fault) :
    let engine : Interpreter := { start with stride := place.machine.trigonometry.stride }
    ∃ p lines, (settings.lexer.read text).program = .ok p ∧ (engine.runProgram p).fault = none ∧
      (runSource settings choice surface source).Yields { place with journal }
        (.ok (engine.runProgram p).interpreter) ((named place journal source).warn lines) := by
  intro engine
  have starts : job.Starts settings place.machine engine := .intro hruns hstart
  obtain ⟨p, hread, hfault⟩ | ⟨d, hraises'⟩ | ⟨fault, hbreaks'⟩ :=
    Job.starts_cases hdata starts text
  · have same := hread
    rw [← starts.settings_eq] at same
    obtain ⟨fault, after⟩ := Interpreter.run_of_ok same
    have raised := congrArg (Option.map InterpreterFault.raised) (fault.trans hfault)
    have ran := runSource_ok hnamed htext hstart rfl raised
    rw [Workplace.say_eq hnamed, after] at ran
    exact ⟨p, _, hread, hfault, ran⟩
  · exact absurd hraises' (hraises d)
  · exact absurd hbreaks' (hbreaks fault)

theorem trace_ok (hdata : Settings.ofDatum data = .ok settings) {lines : Bool}
    (hready : ∀ fault, ¬ (Job.trace lines).Unready settings place.machine.memory fault)
    (hnamed : (named place journal source).journal.outlets = [.terminal color])
    (htext : place.sourceText source = .ok text)
    (hraises : ∀ d, ¬ (Job.trace lines).Raises settings place.machine text d)
    (hbreaks : ∀ fault, ¬ (Job.trace lines).Breaks settings place.machine text fault) :
    (trace settings source lines).Succeeds { place with journal } := by
  obtain ⟨start, hstart⟩ := Job.exists_start hready .trace
  obtain ⟨p, told, -, -, yields⟩ :=
    runSource_of_not_raises hdata .trace hstart hnamed htext hraises hbreaks
  unfold trace
  apply Succeeds.of_bind yields
  cases lines <;> exact ⟨_, rfl⟩

theorem render_ok (hdata : Settings.ofDatum data = .ok settings) {output : Option String}
    {marker trace : Bool} (hready : ∀ fault, ¬ (Job.render output marker trace).Unready settings
      place.machine.memory fault)
    (hchecked : settings.Checked) (hwrites : (Job.render output marker trace).Writes place.files)
    (hnamed : (named place journal source).journal.outlets = [.terminal color])
    (htext : place.sourceText source = .ok text)
    (hraises : ∀ d, ¬ (Job.render output marker trace).Raises settings place.machine text d)
    (hbreaks : ∀ fault, ¬ (Job.render output marker trace).Breaks settings place.machine
      text fault) :
    (render settings source output marker trace).Succeeds { place with journal } := by
  obtain ⟨blank, hblank⟩ := Job.exists_blank hready
  obtain ⟨start, hstart⟩ := Job.exists_start hready (.render hblank)
  obtain ⟨p, told, hread, hfault, yields⟩ :=
    runSource_of_not_raises hdata (.render hblank) hstart hnamed htext hraises hbreaks
  let engine : Interpreter := { start with stride := place.machine.trigonometry.stride }
  have extent : (engine.runProgram p).interpreter.surface.extent =
      some (settings.canvas.width.toNat, settings.canvas.height.toNat, place.machine.memory) := by
    rw [(engine.keeps_runProgram p).extent]
    exact (Interpreter.extent_start hstart).trans (Canvas.extent_ofSettings hblank settings.palette)
  have unmarked (hmarker : marker = true) :
      ((engine.runProgram p).interpreter.drawTurtle none place.machine.trigonometry).2 = none := by
    subst hmarker
    rcases hdrawn :
      ((engine.runProgram p).interpreter.drawTurtle none place.machine.trigonometry).2 with
        _ | fault
    · rfl
    · exact absurd (.marker (.intro (.render hblank) hstart) hread hfault hdrawn) (hbreaks _)
  obtain ⟨undamaged, canvas, hcanvas, hwidth, hheight⟩ := Interpreter.exists_canvas extent unmarked
  obtain ⟨name, rfl, hwritable⟩ := hwrites
  have wide : 0 < canvas.width := by
    have := hchecked.width
    omega
  have high : 0 < canvas.height := by
    have := hchecked.height
    omega
  unfold render
  apply Succeeds.of_bind .get
  apply Succeeds.of_bind (.orHalt_ok hblank)
  apply Succeeds.of_bind yields
  generalize hplace : (named place journal source).warn told = ready
  have machine : ready.machine = place.machine := by
    rw [← hplace]
    rfl
  have files : ready.files = place.files := by
    rw [← hplace]
    rfl
  apply Succeeds.of_bind .get
  dsimp only at undamaged hcanvas ⊢
  rw [machine]
  generalize (if marker = true then (engine.runProgram p).interpreter.drawTurtle none
    place.machine.trigonometry
    else ((engine.runProgram p).interpreter, none)) = drawn at undamaged hcanvas ⊢
  apply Succeeds.of_bind (.haltAt_none undamaged)
  rw [hcanvas]
  apply Succeeds.of_bind .get
  rw [files]
  apply Succeeds.of_bind (.takeOver (hwritable canvas wide high))
  exact (Yields.say _).succeeds

/-- A job is done if its text raises nothing and nothing breaks it off. -/
theorem onJob_ok (hdata : Settings.ofDatum data = .ok settings)
    (hready : ∀ fault, ¬ job.Unready settings place.machine.memory fault)
    (hchecked : settings.Checked) (hwrites : job.Writes place.files)
    (hnamed : (named place journal source).journal.outlets = [.terminal color])
    (htext : place.sourceText source = .ok text)
    (hraises : ∀ d, ¬ job.Raises settings place.machine text d)
    (hbreaks : ∀ fault, ¬ job.Breaks settings place.machine text fault) :
    (onJob settings source job).Succeeds { place with journal } := by
  cases job with
  | compile output raw title trace => exact compile_ok hdata hwrites hnamed htext hraises hbreaks
  | trace lines => exact trace_ok hdata hready hnamed htext hraises hbreaks
  | render output marker trace =>
      exact render_ok hdata hready hchecked hwrites hnamed htext hraises hbreaks

end Work

end TurtleGraphics
