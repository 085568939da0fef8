import Mathlib
import TurtleGraphics.Proofs.Tool.Breaking

/-! # How a tool ends

A tool does its job, or it reports one error and leaves everything else as it was. What else may end
it is told apart: no memory, a source that is no text or whose name no file can have, and what
breaks the job off. Then nothing is reported.
-/

namespace TurtleGraphics

namespace Request

variable {request : Request} {settings : Settings} {place after : Workplace} {message : String}
  {fault : ToolFault}

/-- The source cannot be read, or lexing, compiling or running its text raises a diagnostic. -/
inductive Fails (request : Request) (settings : Settings) (place : Workplace) : String → Prop where
  | unreadable {cause : FileFault} :
      (∀ fault, ¬ request.job.Unready settings place.machine.memory fault) →
      place.sourceText request.source = .error (.file cause) → cause.reason ≠ .nullCharacter →
      Fails request settings place cause.message
  | raised {text : String} {d : Diagnostic} :
      (∀ fault, ¬ request.job.Unready settings place.machine.memory fault) →
      place.sourceText request.source = .ok text →
      request.job.Raises settings place.machine text d →
      Fails request settings place d.message

/-- There is no memory for the job, the source is no text, no file can have its name, or the job
    breaks off. -/
inductive Escapes (request : Request) (settings : Settings) (place : Workplace) :
    ToolFault → Prop where
  | unready {fault : ToolFault} : request.job.Unready settings place.machine.memory fault →
      Escapes request settings place fault
  | undecodable {cause : Text.DecodingFault} :
      (∀ fault, ¬ request.job.Unready settings place.machine.memory fault) →
      place.sourceText request.source = .error (.decoding cause) →
      Escapes request settings place (.decoding cause)
  | unnamable {cause : FileFault} :
      (∀ fault, ¬ request.job.Unready settings place.machine.memory fault) →
      place.sourceText request.source = .error (.file cause) → cause.reason = .nullCharacter →
      Escapes request settings place (.source cause)
  | breaks {text : String} {fault : ToolFault} :
      (∀ fault, ¬ request.job.Unready settings place.machine.memory fault) →
      place.sourceText request.source = .ok text →
      request.job.Breaks settings place.machine text fault →
      Escapes request settings place fault

def sourceContext (request : Request) : Entries :=
  [("source", .text (Workplace.sourceName request.source))]

/-- Output and files are as they were, and what stands on the terminal are notices that tell of no
error and then those that are last. -/
structure Leaves (request : Request) (settings : Settings) (place after : Workplace)
    (journal : Journal) (last : List Notice) : Prop where
  output : after.output = place.output
  files : after.files = place.files
  records : request.Records settings place request.sourceContext journal
  errors : ∃ quiet, (∀ notice ∈ quiet, notice.Quiet) ∧
    (let told := Workplace.linesOf { place with journal } (settings.logging.color && place.terminal)
     after.errors = place.errors ++ (told quiet).flatten ++ (told last).flatten)

/-- The tool has reported an error and nothing else that matters, and has left output and files as
they were. The report is a line of its own, unless the level, the clock or the context keeps it
back. -/
def GivesUp (request : Request) (settings : Settings) (place after : Workplace) (message : String) :
    Prop :=
  let report := Notice.gaveUp request.job.tool message
  ∃ journal, request.Leaves settings place after journal [report] ∧
    ∀ moment, Moment.ofSeconds place.now = .ok moment → journal.threshold ≤ Level.error.weight →
      (report.recorded place.now).printFault? place.machine.nesting journal.context = none →
      let color := settings.logging.color && place.terminal
      Workplace.linesOf { place with journal } color [report] =
        [(report.recorded place.now).human color journal.context moment message ++
          Phrase.ofString "\n"]

theorem linesOf_gaveUp {color : Bool} {tool : ToolName} {moment : Moment}
    (hmoment : Moment.ofSeconds place.now = .ok moment)
    (hadmits : place.journal.threshold ≤ Level.error.weight)
    (hprint : ((Notice.gaveUp tool message).recorded place.now).printFault? place.machine.nesting
      place.journal.context = none) :
    place.linesOf color [.gaveUp tool message] =
      [((Notice.gaveUp tool message).recorded place.now).human color place.journal.context moment
        message ++
        Phrase.ofString "\n"] := by
  generalize hrecord : (Notice.gaveUp tool message).recorded place.now = record at hprint ⊢
  have named : record.named = record := by
    subst hrecord
    cases tool <;> rfl
  have admitted : place.journal.admits record = true := by
    subst hrecord
    exact decide_eq_true hadmits
  have created : Moment.ofSeconds record.created = .ok moment := by
    subst hrecord
    exact hmoment
  have spoken : record.message = .ok (Phrase.ofString message) := by
    subst hrecord
    rfl
  have written :
      record.named.written place.machine.nesting (.human color) place.pid place.journal.context =
      .ok (record.human color place.journal.context moment (Phrase.ofString message)) := by
    rw [named, Record.written_of_printable hprint]
    simp only [Record.write, created, spoken, bind, Except.bind, Except.mapError, pure, Except.pure]
  subst hrecord
  exact Workplace.linesFor_single admitted written

/-! ### From the work to the end -/

variable {journal : Journal} {result : Except Halt Unit}

theorem whole_yields
    (prepared : (Work.prepare request).Yields place (.ok settings) { place with journal })
    (yields : (Work.onJob settings request.source request.job).Yields { place with journal }
      result after) :
    (ExceptT.run
      (do Work.onJob (← Work.prepare request) request.source request.job : Work Unit)).run place =
        (result, after) := by
  have whole :
      (Work.prepare request >>= fun settings =>
        Work.onJob settings request.source request.job).Yields place result after :=
    prepared.bind yields
  exact whole

theorem fulfil_of_ok
    (prepared : (Work.prepare request).Yields place (.ok settings) { place with journal })
    (yields : (Work.onJob settings request.source request.job).Yields { place with journal }
      (.ok ()) after) :
    request.fulfil place = (.ok 0, after.onJournal Journal.close) := by
  unfold fulfil
  dsimp only
  rw [whole_yields prepared yields]

theorem fulfil_of_gaveUp
    (prepared : (Work.prepare request).Yields place (.ok settings) { place with journal })
    (yields : (Work.onJob settings request.source request.job).Yields { place with journal }
      (.error (.gaveUp message)) after) :
    request.fulfil place =
      (.ok 1, (after.say [.gaveUp request.job.tool message]).onJournal Journal.close) := by
  unfold fulfil
  dsimp only
  rw [whole_yields prepared yields]

theorem fulfil_of_fault
    (prepared : (Work.prepare request).Yields place (.ok settings) { place with journal })
    (yields : (Work.onJob settings request.source request.job).Yields { place with journal }
      (.error (.fault fault)) after) :
    request.fulfil place = (.error fault, after.onJournal Journal.close) := by
  unfold fulfil
  dsimp only
  rw [whole_yields prepared yields]

theorem Records.named (h : request.Records settings place [] journal) :
    request.Records settings place request.sourceContext (journal.push request.sourceContext) := by
  refine ⟨h.outlets, h.threshold, ?_⟩
  change journal.context.putAll _ = _
  rw [h.context]
  rfl

theorem leaves_of_said (records : request.Records settings place [] journal) {quiet : List Notice}
    (hquiet : ∀ notice ∈ quiet, notice.Quiet) (last : List Notice) :
    request.Leaves settings place
      (((Work.named place journal request.source).say (quiet ++ last)).onJournal Journal.close)
      (journal.push request.sourceContext) last := by
  have named := records.named
  have outlets : (Work.named place journal request.source).journal.outlets =
      [.terminal (settings.logging.color && place.terminal)] := named.outlets
  rw [Workplace.say_eq outlets]
  refine ⟨rfl, rfl, named, quiet, hquiet, ?_⟩
  simp [Workplace.onJournal, Workplace.warn, Workplace.linesOf, Work.named, sourceContext,
    Journal.linesFor_append]

theorem givesUp_of_stops (records : request.Records settings place [] journal)
    (prepared : (Work.prepare request).Yields place (.ok settings) { place with journal })
    (stops : Work.Stops settings place journal request.source request.job (.gaveUp message)) :
    (request.fulfil place).1 = .ok 1 ∧
    request.GivesUp settings place (request.fulfil place).2 message := by
  obtain ⟨quiet, hquiet, yields⟩ := stops
  have outlets : (Work.named place journal request.source).journal.outlets =
      [.terminal (settings.logging.color && place.terminal)] := records.named.outlets
  rw [fulfil_of_gaveUp prepared yields, Workplace.say_say outlets]
  refine ⟨rfl, _, leaves_of_said records hquiet _, fun moment hmoment hadmits hprint => ?_⟩
  exact @linesOf_gaveUp { place with journal := journal.push request.sourceContext } message _ _ _
    hmoment hadmits hprint

theorem leaves_of_stops (records : request.Records settings place [] journal)
    (prepared : (Work.prepare request).Yields place (.ok settings) { place with journal })
    (stops : Work.Stops settings place journal request.source request.job (.fault fault)) :
    (request.fulfil place).1 = .error fault ∧
      ∃ journal, request.Leaves settings place (request.fulfil place).2 journal [] := by
  obtain ⟨quiet, hquiet, yields⟩ := stops
  rw [fulfil_of_fault prepared yields]
  have left := leaves_of_said records hquiet []
  rw [List.append_nil] at left
  exact ⟨rfl, _, left⟩

/-- The settings can be used and name no log file. -/
structure Ready (request : Request) (settings : Settings) (place : Workplace) : Prop where
  configures : request.config.Configures place settings
  unlogged : settings.logging.file = none ∨ settings.logging.file = some []
  tidy : place.journal.Tidy

/-- A source that cannot be read, and text that raises a diagnostic, are reported. -/
theorem fulfil_of_fails (h : request.Ready settings place)
    (hfails : request.Fails settings place message) :
    (request.fulfil place).1 = .ok 1 ∧
    request.GivesUp settings place (request.fulfil place).2 message := by
  obtain ⟨journal, records, prepared⟩ := Work.prepare_ok h.configures h.unlogged h.tidy
  have outlets : (Work.named place journal request.source).journal.outlets =
      [.terminal (settings.logging.color && place.terminal)] := records.named.outlets
  cases hfails with
  | unreadable hready htext hreason =>
      have stops := Work.onJob_unreadable hready outlets htext
      rw [Work.ofTextFault, if_neg hreason] at stops
      exact givesUp_of_stops records prepared stops
  | raised hready htext hraises =>
      exact givesUp_of_stops records prepared (Work.onJob_raises hready outlets htext hraises)

/-- What ends the tool otherwise leaves no report. -/
theorem fulfil_of_escapes (h : request.Ready settings place)
    (hescapes : request.Escapes settings place fault) :
    (request.fulfil place).1 = .error fault ∧
      ∃ journal, request.Leaves settings place (request.fulfil place).2 journal [] := by
  obtain ⟨journal, records, prepared⟩ := Work.prepare_ok h.configures h.unlogged h.tidy
  have outlets : (Work.named place journal request.source).journal.outlets =
      [.terminal (settings.logging.color && place.terminal)] := records.named.outlets
  cases hescapes with
  | unready hunready =>
      rw [fulfil_of_fault prepared (Work.onJob_unready hunready)]
      refine ⟨rfl, _, rfl, rfl, records.named, [], List.forall_mem_nil _, ?_⟩
      simp [Workplace.onJournal, Workplace.linesOf, Journal.linesFor, Journal.lines]
  | undecodable hready htext =>
      exact leaves_of_stops records prepared (Work.onJob_unreadable hready outlets htext)
  | unnamable hready htext hreason =>
      have stops := Work.onJob_unreadable hready outlets htext
      rw [Work.ofTextFault, if_pos hreason] at stops
      exact leaves_of_stops records prepared stops
  | breaks hready htext hbreaks =>
      exact leaves_of_stops records prepared (Work.onJob_breaks hready outlets htext hbreaks)

theorem fulfil_of_none (h : request.Ready settings place) (hwrites : request.job.Writes place.files)
    (hfails : ∀ message, ¬ request.Fails settings place message)
    (hescapes : ∀ fault, ¬ request.Escapes settings place fault) :
    (request.fulfil place).1 = .ok 0 := by
  obtain ⟨data, hdata⟩ := h.configures.ofDatum
  obtain ⟨-, -, -, checked⟩ := Settings.readFrom_of_ofDatum hdata
  obtain ⟨journal, records, prepared⟩ := Work.prepare_ok h.configures h.unlogged h.tidy
  have ready : ∀ fault, ¬ request.job.Unready settings place.machine.memory fault :=
    fun fault hunready => hescapes fault (.unready hunready)
  cases htext : place.sourceText request.source with
  | error fault =>
      cases fault with
      | decoding cause => exact absurd (.undecodable ready htext) (hescapes _)
      | file cause =>
          by_cases hreason : cause.reason = .nullCharacter
          · exact absurd (.unnamable ready htext hreason) (hescapes _)
          · exact absurd (.unreadable ready htext hreason) (hfails _)
  | ok text =>
      obtain ⟨after, yields⟩ :=
        Work.onJob_ok hdata ready checked hwrites records.named.outlets htext
        (fun d hraises => hfails _ (.raised ready htext hraises))
        (fun fault hbreaks => hescapes _ (.breaks ready htext hbreaks))
      exact congrArg Prod.fst (fulfil_of_ok prepared yields)

/-- Whatever the source holds, a tool with settings that name no log file and with an output that
can be written ends in one of three ways. Where the source cannot be read, or lexing, compiling or
running its text raises a diagnostic, the tool reports that, returns one, and leaves its output and
the files as they were. Where there is no memory for the job, the source is no text, no file can
have its name, or something breaks the job off, that ends the tool, nothing is reported, and output
and files are left as well. In every other case the tool does its job and returns zero. With memory
for what it draws, nothing breaks off a job whose program ends in time, but a number of the settings
or of an extremely long text that cannot be printed. -/
theorem fulfil_ends (hready : request.Ready settings place)
    (hwrites : request.job.Writes place.files) :
    let ended := request.fulfil place
    (∀ message, request.Fails settings place message →
      ended.1 = .ok 1 ∧ request.GivesUp settings place ended.2 message) ∧
    (∀ fault, request.Escapes settings place fault →
      ended.1 = .error fault ∧ ∃ journal, request.Leaves settings place ended.2 journal []) ∧
    ((∀ message, ¬ request.Fails settings place message) →
      (∀ fault, ¬ request.Escapes settings place fault) → ended.1 = .ok 0) ∧
    ∀ text fault, place.machine.trigonometry.Bounded →
      request.job.Fits settings place.machine.memory →
      (∀ p, (settings.lexer.read text).program = .ok p → request.job.Ends p) →
      request.job.Breaks settings place.machine text fault →
      fault = .printing .tooManyDigits ∧ Job.Unprintable settings text := by
  intro ended
  refine ⟨fun _ => fulfil_of_fails hready, fun _ => fulfil_of_escapes hready,
    fulfil_of_none hready hwrites, ?_⟩
  intro text fault hbounded hfits hends hbreaks
  obtain ⟨data, hdata⟩ := hready.configures.ofDatum
  obtain ⟨-, -, -, checked⟩ := Settings.readFrom_of_ofDatum hdata
  exact hbreaks.unprintable hdata hbounded checked hfits hends

theorem configures_empty (hreader : place.machine.reader = .standard)
    (hthere : place.files.has ⟨["c"]⟩ = .ok true)
    (htext : place.files.streamText ⟨["c"]⟩ = .ok "") :
    (OptionValue.text "c").Configures place {} := by
  have path : Path.ofString "c" = ⟨["c"]⟩ := Path.ofString_name (by decide) (by decide) (by decide)
  refine ⟨_, .inr ⟨"c", rfl, rfl⟩, ?_⟩
  rw [path, hreader]
  simp only [Settings.load, Datum.load, hthere, htext]
  rfl

/-- An image of a program that is typed and breaks off behind its first keyword. -/
theorem fulfil_ends_typed :
    let request : Request := ⟨none, .text "c", none, .render (some "a.png") true false⟩
    let place : Workplace := {
      files := { nodes := [(["c"], .file 0 (.bytes .empty))], fresh := 1 }
      input := "FORWARD".toUTF8
      pid := 7
      now := .whole 0
      machine := { trigonometry := .still } }
    let message := "syntax error: unexpected end of program in line 1"
    request.Ready {} place ∧ request.job.Writes place.files ∧ (request.fulfil place).1 = .ok 1 ∧
      request.GivesUp {} place (request.fulfil place).2 message := by
  intro request place message
  have text : place.sourceText request.source = .ok "FORWARD" := by decide +kernel
  have read : (({} : Settings).lexer.read "FORWARD").program =
      .ok #[⟨.identifier, 1, "FORWARD", 0⟩] := by
    decide +kernel
  let canvas := Canvas.blank 640 480 (Palette.standard .black)
  have room : Table.check .standard ⟨.byte, [480, 640, 3]⟩ = .ok () := by decide +kernel
  have blank : Canvas.ofSettings {} .standard = .ok canvas := by
    change (do
      Table.check .standard ⟨.byte, [480, 640, 3]⟩
      return canvas : Except TableFault Canvas) = _
    rw [room]
    rfl
  let surface := Surface.raster ({} : Settings).palette canvas .standard
  let start : Interpreter :=
    ⟨{}, Turtle.displacement, false, surface, ⟨.initial {}, ⟨256, [], []⟩, 0, 0, 0, #[]⟩⟩
  have stack := @LoopStack.ofCapacity_ok 256 .standard (by decide) (by decide)
  have started : Interpreter.start {} none surface .standard = .ok start := by
    rw [Interpreter.start, stack]
    rfl
  have ready : request.Ready {} place := by
    refine ⟨configures_empty rfl ?_ ?_, .inl rfl, Journal.tidy_nil rfl rfl⟩ <;> decide +kernel
  have writes : request.job.Writes place.files := by
    refine ⟨"a.png", rfl, fun canvas hwidth hheight => ?_⟩
    have pixels :
        ¬ ((Picture.ofCanvas canvas).width = 0 ∨ (Picture.ofCanvas canvas).height = 0) := by
      change ¬ (canvas.width = 0 ∨ canvas.height = 0)
      omega
    have path : Path.ofString "a.png" = ⟨["a.png"]⟩ :=
      Path.ofString_name (by decide) (by decide) (by decide)
    have directory : place.files.ensureDirectory (Path.parent ⟨["a.png"]⟩) =
        (place.files, none) := by
      decide +kernel
    have temporary : Path.withName ⟨["a.png"]⟩
        (Path.stem ⟨["a.png"]⟩ ++ FileTree.temporarySuffix ++ Path.suffix ⟨["a.png"]⟩) =
          .ok ⟨["a.tmp.png"]⟩ := by
      decide +kernel
    have format : FileTree.formatOf ⟨["a.tmp.png"]⟩ = .ok .png := by decide +kernel
    rw [path]
    simp only [FileTree.savePicture, directory, temporary, format, if_neg pixels]
    rfl
  have roomy : ∀ fault, ¬ request.job.Unready {} place.machine.memory fault := by
    intro fault hunready
    cases hunready with
    | canvas hblank => cases blank.symm.trans hblank
    | stack hruns hstart =>
        cases hruns with
        | render hblank =>
            cases blank.symm.trans hblank
            cases started.symm.trans hstart
  have fails : request.Fails {} place message := by
    have fault : ({ start with stride := Trigonometry.still.stride }.runProgram
        #[⟨.identifier, 1, "FORWARD", 0⟩]).raised =
          some (.fault (.run (.diagnostic ⟨.grammatical .unexpectedEnd, some 1⟩))) := by
      decide +kernel
    exact .raised roomy text (.running (.intro (.render blank) started) read fault)
  obtain ⟨exit, gives⟩ := (fulfil_ends ready writes).1 message fails
  exact ⟨ready, writes, exit, gives⟩

/-- A byte that begins no character, behind a keyword, ends the tool with an error that nobody
    reports. -/
theorem fulfil_undecodable :
    let place : Workplace := {
      files := {
        nodes := [(["c"], .file 0 (.bytes .empty)),
          (["p"], .file 1 (.bytes ⟨#[0x48, 0x4f, 0x4d, 0x45, 0xff]⟩))]
        fresh := 2 }
      pid := 7
      now := .whole 0 }
    ∃ request, Request.ofArguments .compile ["-c", "c", "p"] = .ok request ∧
      request.Ready {} place ∧ request.job.Writes place.files ∧
      (request.fulfil place).1 = .error (.decoding ⟨.invalidStart, 0xff, 4, 1⟩) ∧
      ∃ journal, request.Leaves {} place (request.fulfil place).2 journal [] := by
  intro place
  let request : Request := ⟨some "p", .text "c", none, .compile none false "Logo" false⟩
  have asked : Request.ofArguments .compile ["-c", "c", "p"] = .ok request := by decide +kernel
  have ready : request.Ready {} place := by
    refine ⟨configures_empty rfl ?_ ?_, .inl rfl, Journal.tidy_nil rfl rfl⟩ <;> decide +kernel
  have path : Path.ofString "p" = ⟨["p"]⟩ := Path.ofString_name (by decide) (by decide) (by decide)
  have source : place.sourceText (some "p") = .error (.decoding ⟨.invalidStart, 0xff, 4, 1⟩) := by
    change place.files.readText (Path.ofString "p") = _
    rw [path]
    decide +kernel
  have roomy : ∀ fault, ¬ request.job.Unready {} place.machine.memory fault := by
    intro fault hunready
    cases hunready with
    | stack hruns => cases hruns
  obtain ⟨exit, left⟩ := fulfil_of_escapes ready (.undecodable roomy source)
  exact ⟨_, asked, ready, nofun, exit, left⟩

end Request

end TurtleGraphics
