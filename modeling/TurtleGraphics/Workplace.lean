import TurtleGraphics.Files.Atomic
import TurtleGraphics.Files.Data
import TurtleGraphics.Journal
import TurtleGraphics.Turtle

/-! # Workplaces

A workplace is what a tool works with: files, the standard streams, a clock, a journal, and a
machine.
-/

namespace TurtleGraphics

/-- What tools find on a machine. -/
structure Machine where
  /-- The functions that moves are computed with. -/
  trigonometry : Trigonometry := .standard
  /-- How data files are read. -/
  reader : DataReader := .standard
  memory : Memory := .standard
  /-- How many levels of nested data can be printed. -/
  nesting : Nat := 900

/-- Files, streams, a clock, a journal and a machine. -/
structure Workplace where
  files : FileTree := .empty
  directory : String := Path.root
  input : ByteArray := .empty
  /-- What was written to standard output. -/
  output : String := ""
  /-- What was written to standard error. -/
  errors : Phrase := []
  /-- Whether standard error leads to a terminal. -/
  terminal : Bool := false
  pid : Record.ProcessId
  now : Seconds
  journal : Journal := {}
  machine : Machine := {}

namespace Workplace

/-- The text of standard input, with plain newlines. -/
def inputText (place : Workplace) : Except Text.DecodingFault String :=
  Text.decodeLines place.input

def print (place : Workplace) (text : String) : Workplace :=
  { place with output := place.output ++ text }

def warn (place : Workplace) (lines : List Phrase) : Workplace :=
  { place with errors := place.errors ++ lines.flatten }

/-- Write lines to an outlet. A file takes only those that are made of characters. -/
def deliver (place : Workplace) (lines : List Phrase) : Outlet → Workplace
  | .terminal _ => place.warn lines
  | .file serial _ =>
    let text := String.join (lines.filterMap Phrase.toString?)
    { place with files := place.files.append serial text.toUTF8 }

def log (place : Workplace) (records : List Record) : Workplace :=
  let journal := place.journal
  let records := records.map Record.named
  let nesting := place.machine.nesting
  if journal.outlets.isEmpty then place.warn (journal.bareLines nesting records)
  else journal.outlets.foldl
    (fun after outlet => after.deliver (journal.linesFor nesting place.pid records outlet) outlet)
    place

/-- Log notices, as far as they have a text. -/
def say (place : Workplace) (notices : List Notice) : Workplace :=
  place.log ((notices.filter Notice.isPrintable).map fun notice => {
    level := notice.level
    speaker := notice.speaker
    template := notice.message
    created := place.now })

def onJournal (place : Workplace) (change : Journal → Journal) : Workplace :=
  { place with journal := change place.journal }

/-- Attach the log file, after making the directories above it. The file is opened where the path
    leads if no name in it leads up again. -/
def attachFile (place : Workplace) (path : Path) (json : Bool) : Workplace × Option FileFault :=
  match place.files.ensureDirectory path.parent with
  | (files, some fault) => ({ place with files }, some fault)
  | (files, none) =>
    match files.touch path.direct with
    | .error fault => ({ place with files }, some fault)
    | .ok (serial, files) =>
      let style := if json then RecordStyle.json else .human false
      ({ place with files, journal := place.journal.attach (.file serial style) }, none)

/-- Attach the log file of a name, if it can be written. The directories above it come first, and
    the file itself is named from the root on. -/
def attachNamed (place : Workplace) (name : Phrase) (json : Bool) :
    Workplace × Option JournalFault :=
  match name.toString? with
  | some text =>
    let (place, fault) := place.attachFile (Path.ofString text) json
    (place, fault.map .file)
  | none =>
    let above := Phrase.ofNames name.names.dropLast
    match above.toString? with
    | none => (place, (NameFault.of? above).map .unwritable)
    | some text =>
      match place.files.ensureDirectory (Path.ofString text) with
      | (files, some fault) => ({ place with files }, some (.file fault))
      | (files, none) =>
        let full := Phrase.ofNames (Phrase.ofString place.directory :: name.names)
        ({ place with files }, (NameFault.of? full).map .unwritable)

/-- Attach the log file, if one is asked for. -/
def openFile (place : Workplace) (options : JournalOptions) : Workplace × Option JournalFault :=
  match options.file with
  | none => (place, none)
  | some [] => (place, none)
  | some name => place.attachNamed name options.json

/-- Take off what was attached, and attach the terminal if it is asked for. -/
def restart (place : Workplace) (options : JournalOptions) (threshold : Nat) : Workplace :=
  place.onJournal fun journal =>
    let journal := { journal.detachInstalled with threshold }
    if options.toTerminal then journal.attach (.terminal (options.color && place.terminal))
      else journal

/-- Set up the journal anew. An unknown level changes nothing; a log file that cannot be opened
    leaves the journal without it and without the new context. -/
def setUp (place : Workplace) (options : JournalOptions) : Workplace × Option JournalFault :=
  match Level.threshold? (Text.uppercase options.level) with
  | none => (place, some (.unknownLevel options.level))
  | some threshold =>
    match (place.restart options threshold).openFile options with
    | (place, some fault) => (place, some fault)
    | (place, none) => (place.onJournal fun journal => journal.push options.context, none)

end Workplace

end TurtleGraphics
