import TurtleGraphics.CommandLine
import TurtleGraphics.Printing.Engine
import TurtleGraphics.Workplace

/-! # The tools

Each tool reads its settings, sets up the journal, reads source text, and does its job. A fault of
the source text, or of the file that holds it, is reported in the journal; the tool has then given
up. Every other fault ends the tool at once. Whatever was written before a fault stays written.
-/

namespace TurtleGraphics

/-- A fault that ends a tool at once. -/
inductive ToolFault where
  /-- An option that names a file was given without a name. -/
  | noFileName
  /-- There are no settings. -/
  | settings (fault : LoadFault)
  /-- The journal cannot be set up. -/
  | journal (fault : JournalFault)
  /-- The source has a name that no file can have. -/
  | source (fault : FileFault)
  /-- The source is no text. -/
  | decoding (fault : Text.DecodingFault)
  /-- The settings name no usable comment symbol. -/
  | symbol (fault : SymbolFault)
  /-- The settings give the loop stack no usable capacity. -/
  | capacity (fault : CapacityFault)
  /-- The settings give the canvas no usable size. -/
  | canvas (fault : TableFault)
  /-- A number has no counterpart where one is needed. -/
  | number (fault : NumberFault)
  /-- A line cannot be drawn. -/
  | drawing (fault : DrawFault)
  /-- The output took no more text. -/
  | sink (fault : SinkFault)
  /-- The output was not written. -/
  | write (fault : WriteFault)
  /-- What is to be told has no text. -/
  | printing (fault : PrintFault)

namespace ToolFault

def message : ToolFault → String
  | .noFileName => "expected str, bytes or os.PathLike object, not list"
  | .settings fault => fault.message
  | .journal fault => fault.message
  | .source fault => fault.message
  | .decoding fault => fault.message
  | .symbol fault => fault.message
  | .capacity fault => fault.message
  | .canvas fault => fault.message
  | .number fault => fault.message
  | .drawing fault => fault.message
  | .sink fault => fault.reason
  | .write fault => fault.message
  | .printing fault => fault.message

end ToolFault

/-- Why a tool stops before its job is done. -/
inductive Halt where
  /-- It reports a message and gives up. -/
  | gaveUp (message : String)
  /-- It is ended by a fault. -/
  | fault (fault : ToolFault)

/-- Work that may halt. What was done at the workplace before stays done. -/
abbrev Work := ExceptT Halt (StateM Workplace)

namespace Work

/-- The result of something that may fail, or a halt. -/
def orHalt {ε α : Type} (halt : ε → Halt) : Except ε α → Work α
  | .ok a => pure a
  | .error e => throw (halt e)

/-- Give up at a diagnostic or be ended by an unusable symbol. -/
def ofSourceFault : SourceFault → Halt
  | .symbol fault => .fault (.symbol fault)
  | .diagnostic d => .gaveUp d.message

/-- Give up at a diagnostic or be ended by another fault of a run. -/
def ofInterpreterFault : InterpreterFault → Halt
  | .source fault => ofSourceFault fault
  | .run (.diagnostic d) => .gaveUp d.message
  | .run (.number fault) => .fault (.number fault)
  | .run (.drawing fault) => .fault (.drawing fault)

/-- Give up at a diagnostic or be ended by another fault of a compilation. -/
def ofCompileFault : CompileFault → Halt
  | .source fault => ofSourceFault fault
  | .diagnostic d => .gaveUp d.message
  | .sink fault => .fault (.sink fault)

/-- Halt at what is raised. A fault of printing ends the tool. -/
def ofRaised {ε : Type} (halt : ε → Halt) : Raised ε → Halt
  | .fault fault => halt fault
  | .printing fault => .fault (.printing fault)

/-- Give up at a file that cannot be read or be ended by one that holds no text, or by a name that
    no file can have. -/
def ofTextFault : TextFault → Halt
  | .file fault =>
    if fault.reason = .nullCharacter then .fault (.source fault) else .gaveUp fault.message
  | .decoding fault => .fault (.decoding fault)

def say (notices : List Notice) : Work Unit :=
  modify fun place => place.say notices

/-- Halt if there is something to halt for. -/
def haltAt {ε : Type} (halt : ε → Halt) : Option ε → Work Unit
  | none => pure ()
  | some e => throw (halt e)

def nameSource (name : String) : Work Unit :=
  modify fun place => place.onJournal fun journal => journal.push [("source", .text name)]

/-- The source text of a file, or of standard input without a file or for a single hyphen. -/
def readSource (source : Option String) : Work String := do
  let text ←
    match source.filter (· ≠ "-") with
    | none =>
      nameSource "<stdin>"
      orHalt (.fault ∘ .decoding) (← get).inputText
    | some name =>
      let path := Path.ofString name
      nameSource path.name
      orHalt ofTextFault ((← get).files.readText path)
  say [.readSource text.length]
  return text

/-- Take over the files after the output was written, or be ended by the fault. -/
def takeOver (written : FileTree × Option WriteFault) : Work Unit := do
  modify fun place => { place with files := written.1 }
  haltAt (.fault ∘ .write) written.2

/-- Compile a program, as a page or as bare statements, to a file or to standard output. -/
def compile (settings : Settings) (source output : Option String) (raw : Bool) (title : String)
    (trace : Bool) : Work Unit := do
  let text ← readSource source
  let result := (Compiler.start settings (if trace then some true else none)).printTo text {}
  say result.notices
  haltAt (ofRaised ofCompileFault) result.raised
  let compiled := result.sink.text
  let written ←
    if raw then pure compiled
    else orHalt (.fault ∘ .printing) (Page.print settings title compiled)
  match output.filter (· ≠ "") with
  | none => modify fun place => place.print written
  | some name =>
    let target := Path.ofString name
    takeOver ((← get).files.writeText target written .utf8)
    say [.wrotePage name]

/-- Run a program on a surface, after everything else that can be wrong was looked at. -/
def runSource (settings : Settings) (trace : Option Bool) (surface : Surface)
    (source : Option String) : Work Interpreter := do
  let machine := (← get).machine
  let start ← orHalt (.fault ∘ .capacity) (Interpreter.start settings trace surface machine.memory)
  let start := { start with stride := machine.trigonometry.stride }
  let result := start.run (← readSource source)
  say result.notices
  haltAt (ofRaised ofInterpreterFault) result.raised
  return result.interpreter

/-- Report what a program does, and each line it draws if asked to. -/
def trace (settings : Settings) (source : Option String) (lines : Bool) : Work Unit := do
  let after ← runSource settings (some true) (.record #[]) source
  let calls := after.surface.calls.toList
  let drawn := calls.filterMap DrawCall.line?
  if lines then say (drawn.map fun (segment, ink) => .drew segment ink)
  say [.endedAt after.turtle,
    .totals after.execution.commands drawn.length (calls.length - drawn.length)]

/-- Save an image of what a program draws, with the turtle's marker or without. -/
def render (settings : Settings) (source output : Option String) (marker trace : Bool) :
    Work Unit := do
  let memory := (← get).machine.memory
  let blank ← orHalt (.fault ∘ .canvas) (Canvas.ofSettings settings memory)
  let surface := Surface.raster settings.palette blank memory
  let after ← runSource settings (if trace then some true else none) surface source
  let trigonometry := (← get).machine.trigonometry
  let (after, fault) := if marker then after.drawTurtle none trigonometry else (after, none)
  haltAt (.fault ∘ .drawing) fault
  let canvas := after.surface.canvas?.getD blank
  match output with
  | none => throw (.fault .noFileName)
  | some name =>
    takeOver ((← get).files.savePicture (Path.ofString name) (.ofCanvas canvas))
    say [.saved canvas.width canvas.height name, .rendered after.execution.lines]

def onJob (settings : Settings) (source : Option String) : Job → Work Unit
  | .compile output raw title withTrace => compile settings source output raw title withTrace
  | .trace lines => trace settings source lines
  | .render output marker withTrace => render settings source output marker withTrace

/-- What the settings and a request say about the journal. -/
def journalOptions (settings : Settings) (request : Request) : JournalOptions where
  level := (request.level.map Level.name).getD settings.logging.level
  file := settings.logging.file
  json := settings.logging.json
  color := settings.logging.color
  context := [("tool", .text request.job.tool.name)]

def loadFrom (path : Option Path) : Work Settings := do
  let place ← get
  let machine := place.machine
  orHalt (.fault ∘ .settings) (Settings.load machine.reader machine.nesting place.files path)

/-- The settings of the file that an option names, or of the standard file without the option. -/
def loadSettings : OptionValue → Work Settings
  | .absent => loadFrom none
  | .nothing => throw (.fault .noFileName)
  | .text name => loadFrom (some (Path.ofString name))

def prepare (request : Request) : Work Settings := do
  let settings ← loadSettings request.config
  let (place, fault) := (← get).setUp (journalOptions settings request)
  set place
  haltAt (.fault ∘ .journal) fault
  return settings

end Work

namespace Request

/-- Fulfil a request: the number that tells whether the job was done, or the fault that ended the
    tool, and the workplace afterwards. -/
def fulfil (request : Request) (place : Workplace) : Except ToolFault Nat × Workplace :=
  let work : Work Unit := do Work.onJob (← Work.prepare request) request.source request.job
  match (ExceptT.run work).run place with
  | (.ok (), place) => (.ok 0, place.onJournal Journal.close)
  | (.error (.fault fault), place) => (.error fault, place.onJournal Journal.close)
  | (.error (.gaveUp message), place) =>
    (.ok 1, (place.say [.gaveUp request.job.tool message]).onJournal Journal.close)

end Request

end TurtleGraphics
