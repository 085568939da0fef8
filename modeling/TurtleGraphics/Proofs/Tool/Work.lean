import TurtleGraphics.Proofs.Journal.Outlets
import TurtleGraphics.Proofs.Settings.Raising
import TurtleGraphics.Proofs.Settings.Sound
import TurtleGraphics.Tool

/-! # The work of a tool

What a piece of work comes to, step by step. Until a tool has done its job all that it changes is
the journal and what stands on the terminal, so a workplace on the way is told by its journal and by
the notices so far.
-/

namespace TurtleGraphics

def Notice.recorded (created : Seconds) (notice : Notice) : Record :=
  { level := notice.level, speaker := notice.speaker, template := notice.message, created }

/-- A notice that tells of no error. -/
def Notice.Quiet (notice : Notice) : Prop :=
  notice.level.weight < Level.error.weight

namespace Journal

variable {ε : Type} {journal : Journal} {nesting : Nat} {pid : Record.ProcessId} {outlet : Outlet}

theorem lines_append (write : Record → Except ε Phrase) (records more : List Record) :
    lines write (records ++ more) = lines write records ++ lines write more :=
  List.filterMap_append

theorem linesFor_append (records more : List Record) :
    journal.linesFor nesting pid (records ++ more) outlet =
      journal.linesFor nesting pid records outlet ++ journal.linesFor nesting pid more outlet := by
  unfold linesFor
  rw [List.filter_append, lines_append]

end Journal

namespace Workplace

variable {place : Workplace} {color : Bool}

/-- What a terminal gets of notices. -/
def linesOf (place : Workplace) (color : Bool) (notices : List Notice) : List Phrase :=
  place.journal.linesFor place.machine.nesting place.pid
    ((notices.filter Notice.isPrintable).map fun notice => (notice.recorded place.now).named)
      (.terminal color)

/-- With nothing but a terminal attached, notices go there and nowhere else. -/
theorem say_eq (h : place.journal.outlets = [.terminal color]) (notices : List Notice) :
    place.say notices = place.warn (place.linesOf color notices) := by
  have recorded (told : List Notice) :
      (told.map fun notice => notice.recorded place.now).map Record.named =
      told.map fun notice => (notice.recorded place.now).named := List.map_map ..
  unfold say log
  simp only [h, List.isEmpty_cons, Bool.false_eq_true, if_false, List.foldl_cons,
    List.foldl_nil, deliver]
  exact congrArg (fun records => place.warn
    (place.journal.linesFor place.machine.nesting place.pid records (.terminal color))) (recorded _)

theorem say_say (h : place.journal.outlets = [.terminal color]) (notices more : List Notice) :
    (place.say notices).say more = place.say (notices ++ more) := by
  have stays : (place.warn (place.linesOf color notices)).journal.outlets = [.terminal color] := h
  rw [say_eq h, say_eq stays, say_eq h]
  simp [warn, linesOf, Journal.linesFor_append]

theorem say_nil (h : place.journal.outlets = [.terminal color]) : place.say [] = place := by
  rw [say_eq h]
  simp [warn, linesOf, Journal.linesFor, Journal.lines]

end Workplace

namespace Work

variable {α β : Type} {work : Work α} {next : α → Work β} {place middle after : Workplace}

/-- What a piece of work comes to. -/
def Yields (work : Work α) (place : Workplace) (result : Except Halt α) (after : Workplace) :
    Prop :=
  (ExceptT.run work).run place = (result, after)

theorem Yields.bind {a : α} {result : Except Halt β} (h : work.Yields place (.ok a) middle)
    (h' : (next a).Yields middle result after) : (work >>= next).Yields place result after := by
  unfold Yields at h
  simp only [Yields, ExceptT.run_bind, StateT.run_bind, h]
  exact h'

theorem Yields.bind_error {halt : Halt} (h : work.Yields place (.error halt) after) :
    (work >>= next).Yields place (.error halt) after := by
  unfold Yields at h
  simp only [Yields, ExceptT.run_bind, StateT.run_bind, h]
  rfl

/-- The work is done in the end. -/
def Succeeds (work : Work Unit) (place : Workplace) : Prop :=
  ∃ after, work.Yields place (.ok ()) after

theorem Yields.succeeds {work : Work Unit} (h : work.Yields place (.ok ()) after) :
    work.Succeeds place :=
  ⟨after, h⟩

theorem Succeeds.of_bind {next : α → Work Unit} {a : α} (h : work.Yields place (.ok a) middle)
    (h' : (next a).Succeeds middle) : (work >>= next).Succeeds place :=
  h'.imp fun _ => h.bind

theorem Yields.pure (a : α) : (pure a : Work α).Yields place (.ok a) place :=
  rfl

theorem Yields.get : (get : Work Workplace).Yields place (.ok place) place :=
  rfl

theorem Yields.say (notices : List Notice) :
    (say notices).Yields place (.ok ()) (place.say notices) :=
  rfl

theorem Yields.orHalt_ok {ε : Type} {halt : ε → Halt} {result : Except ε α} {a : α}
    (h : result = .ok a) :
    (orHalt halt result).Yields place (.ok a) place := by
  rw [h]
  rfl

theorem Yields.orHalt_error {ε : Type} {halt : ε → Halt} {result : Except ε α} {e : ε}
    (h : result = .error e) :
    (orHalt halt result).Yields place (.error (halt e)) place := by
  rw [h]
  rfl

theorem Yields.haltAt_none {ε : Type} {halt : ε → Halt} {fault : Option ε} (h : fault = none) :
    (haltAt halt fault).Yields place (.ok ()) place := by
  rw [h]
  rfl

theorem Yields.haltAt_some {ε : Type} {halt : ε → Halt} {fault : Option ε} {e : ε}
    (h : fault = some e) :
    (haltAt halt fault).Yields place (.error (halt e)) place := by
  rw [h]
  rfl

theorem Yields.nameSource (name : String) : (nameSource name).Yields place (.ok ())
    { place with journal := place.journal.push [("source", .text name)] } :=
  rfl

end Work

/-! ### Settings -/

/-- The settings of the file that an option names, or of the standard file without the option. -/
def OptionValue.Configures (place : Workplace) (settings : Settings) (option : OptionValue) :
    Prop :=
  ∃ path, (option = .absent ∧ path = none ∨ ∃ name, option = .text name ∧
    path = some (Path.ofString name)) ∧
    Settings.load place.machine.reader place.machine.nesting place.files path = .ok settings

variable {place : Workplace} {settings : Settings} {request : Request} {option : OptionValue}

theorem Settings.parse_of_load {reader : DataReader} {nesting : Nat} {files : FileTree}
    {path : Option Path} (h : load reader nesting files path = .ok settings) :
    ∃ data, parse nesting data = .ok settings := by
  cases path with
  | none =>
      obtain ⟨data, -, loaded⟩ := exists_of_bind_ok h
      exact ⟨data, ok_of_mapError_ok loaded⟩
  | some path =>
      obtain ⟨has, -, loaded⟩ := exists_of_bind_ok h
      cases has with
      | false => cases loaded
      | true =>
          obtain ⟨data, -, loaded⟩ := exists_of_bind_ok loaded
          exact ⟨data, ok_of_mapError_ok loaded⟩

theorem OptionValue.Configures.ofDatum (h : option.Configures place settings) :
    ∃ data, Settings.ofDatum data = .ok settings := by
  obtain ⟨path, -, hload⟩ := h
  obtain ⟨data, hparse⟩ := Settings.parse_of_load hload
  exact ⟨data, Settings.ofDatum_of_parse hparse⟩

theorem OptionValue.Configures.loadSettings (h : option.Configures place settings) :
    (Work.loadSettings option).Yields place (.ok settings) place := by
  obtain ⟨path, hpath, hload⟩ := h
  have loaded : (Work.loadFrom path).Yields place (.ok settings) place :=
    .bind .get (.orHalt_ok hload)
  obtain ⟨rfl, rfl⟩ | ⟨name, rfl, rfl⟩ := hpath
  · exact loaded
  · exact loaded

/-- The journal as a request asks for it: it has nothing but the terminal. -/
structure Request.Records (request : Request) (settings : Settings) (place : Workplace)
    (context : Entries) (journal : Journal) : Prop where
  outlets : journal.outlets = [.terminal (settings.logging.color && place.terminal)]
  threshold :
    Level.threshold? (Text.uppercase (Work.journalOptions settings request).level) =
      some journal.threshold
  context :
  journal.context =
    (place.journal.context.putAll [("tool", .text request.job.tool.name)]).putAll context

theorem Level.threshold?_name (level : Level) :
    threshold? (Text.uppercase level.name) = some level.weight := by
  cases level <;> decide +kernel

theorem Request.exists_threshold (request : Request)
    (hsettings : ∃ data, Settings.ofDatum data = .ok settings) :
    ∃ level, (Work.journalOptions settings request).level = Level.name level := by
  unfold Work.journalOptions
  cases request.level with
  | some level => exact ⟨level, rfl⟩
  | none =>
      obtain ⟨data, hdata⟩ := hsettings
      obtain ⟨entries, -, read, -⟩ := Settings.readFrom_of_ofDatum hdata
      obtain ⟨_, -, hlogging⟩ := read.logging
      obtain ⟨level, -, hlevel⟩ := Section.level_of_logging hlogging
      exact ⟨level, hlevel⟩

/-- Without a log file the journal is set up, and nothing else happens. -/
theorem Work.prepare_ok (hsettings : request.config.Configures place settings)
    (hfile : settings.logging.file = none ∨ settings.logging.file = some [])
    (htidy : place.journal.Tidy) :
    ∃ journal, request.Records settings place [] journal ∧
      (prepare request).Yields place (.ok settings) { place with journal } := by
  obtain ⟨level, hlevel⟩ := request.exists_threshold hsettings.ofDatum
  have threshold : Level.threshold? (Text.uppercase (journalOptions settings request).level) =
      some level.weight := by
    rw [hlevel, level.threshold?_name]
  obtain ⟨-, outlets, context⟩ :=
    Workplace.restart_journal htidy (journalOptions settings request) level.weight
  have unopened : (place.restart (journalOptions settings request) level.weight).openFile
      (journalOptions settings request) =
      (place.restart (journalOptions settings request) level.weight, none) := by
    unfold Workplace.openFile
    rcases hfile with hfile | hfile <;> simp [journalOptions, hfile]
  have ready : place.setUp (journalOptions settings request) =
      ((place.restart (journalOptions settings request) level.weight).onJournal
        fun journal => journal.push (journalOptions settings request).context, none) := by
    unfold Workplace.setUp
    simp only [threshold, unopened]
  refine ⟨(place.restart (journalOptions settings request) level.weight).journal.push
    (journalOptions settings request).context, ⟨outlets, threshold, ?_⟩, ?_⟩
  · change ((place.restart (journalOptions settings request) level.weight).journal.context).putAll
      _ = _
    rw [context]
    rfl
  · unfold prepare
    refine hsettings.loadSettings.bind ?_
    refine .bind .get ?_
    rw [ready]
    rfl

/-! ### Source text -/

namespace Workplace

/-- The text of a source: of a file, or of standard input. -/
def sourceText (place : Workplace) (source : Option String) : Except TextFault String :=
  match source.filter (· ≠ "-") with
  | none => place.inputText.mapError .decoding
  | some name => place.files.readText (Path.ofString name)

def sourceName (source : Option String) : String :=
  match source.filter (· ≠ "-") with
  | none => "<stdin>"
  | some name => (Path.ofString name).name

end Workplace

namespace Work

variable {journal : Journal} {source : Option String}

/-- What is left to say once the source has its name in the context. -/
def named (place : Workplace) (journal : Journal) (source : Option String) : Workplace :=
  { place with journal := journal.push [("source", .text (Workplace.sourceName source))] }

theorem readSource_ok {text : String} (h : place.sourceText source = .ok text) :
    (readSource source).Yields { place with journal } (.ok text)
      ((named place journal source).say [.readSource text.length]) := by
  unfold Workplace.sourceText at h
  unfold readSource named Workplace.sourceName
  cases hsource : source.filter (· ≠ "-") with
  | none =>
      simp only [hsource] at h ⊢
      have decoded : place.inputText = .ok text := ok_of_mapError_ok h
      exact (Yields.nameSource _).bind
        (.bind .get (.bind (.orHalt_ok decoded) (.bind (.say _) (.pure text))))
  | some name =>
      simp only [hsource] at h ⊢
      exact (Yields.nameSource _).bind
        (.bind .get (.bind (.orHalt_ok h) (.bind (.say _) (.pure text))))

theorem readSource_error {fault : TextFault} (h : place.sourceText source = .error fault) :
    (readSource source).Yields { place with journal } (.error (ofTextFault fault))
      (named place journal source) := by
  unfold Workplace.sourceText at h
  unfold readSource named Workplace.sourceName
  cases hsource : source.filter (· ≠ "-") with
  | none =>
      simp only [hsource] at h ⊢
      cases hdecoded : place.inputText with
      | ok text =>
          rw [hdecoded] at h
          cases h
      | error cause =>
          rw [hdecoded] at h
          cases h
          exact (Yields.nameSource _).bind (.bind .get (.bind_error (.orHalt_error hdecoded)))
  | some name =>
      simp only [hsource] at h ⊢
      exact (Yields.nameSource _).bind (.bind .get (.bind_error (.orHalt_error h)))

end Work

end TurtleGraphics
