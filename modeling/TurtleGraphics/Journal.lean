import TurtleGraphics.Files.Name
import TurtleGraphics.Files.Tree
import TurtleGraphics.Printing.Record

/-! # The journal

A journal passes records on to its outlets, if they matter enough. While it has no outlet, only the
bare messages of records that need attention are passed on, to the terminal.
-/

namespace TurtleGraphics

/-- Where records are written. -/
inductive Outlet where
  /-- To whoever watches, with color or without. -/
  | terminal (color : Bool)
  /-- To the end of the file of a number. -/
  | file (serial : Nat) (style : RecordStyle)
  deriving Repr, DecidableEq

namespace Outlet

def style : Outlet → RecordStyle
  | .terminal color => .human color
  | .file _ style => style

end Outlet

/-- An outlet that was made. -/
structure Handler where
  /-- Which one it is: no two that were made have the same number. -/
  number : Nat
  /-- Where it writes. -/
  outlet : Outlet
  deriving Repr, DecidableEq

/-- How much has to matter, where it is written, and what is known of the surroundings. -/
structure Journal where
  /-- The least weight that is passed on. -/
  threshold : Nat := Level.warning.weight
  /-- What records are passed on to, in the order in which it is served. -/
  attached : List Handler := []
  /-- What was attached here and is to be taken off again. -/
  installed : List Handler := []
  /-- A number that no handler has had yet. -/
  fresh : Nat := 0
  /-- The context of every record. -/
  context : Entries := []

/-- What a journal is to be like. -/
structure JournalOptions where
  /-- The name of the least severe level that is passed on. -/
  level : String := "INFO"
  /-- The log file, if there is one. -/
  file : Option Phrase := none
  /-- Whether the log file holds JSON. -/
  json : Bool := false
  /-- Whether a terminal shows colors. -/
  color : Bool := true
  /-- Whether records are written to the terminal. -/
  toTerminal : Bool := true
  context : Entries := []

/-- Why a journal is not as it was to be. -/
inductive JournalFault where
  | unknownLevel (name : String)
  | file (fault : FileFault)
  | unwritable (fault : NameFault)
  deriving Repr, DecidableEq

namespace JournalFault

def message : JournalFault → String
  | .unknownLevel name => "Unknown log level: " ++ name
  | .file fault => fault.message
  | .unwritable fault => fault.message

end JournalFault

namespace Journal

def push (journal : Journal) (entries : Entries) : Journal :=
  { journal with context := journal.context.putAll entries }

def pop (journal : Journal) (names : List Phrase) : Journal :=
  { journal with context := names.foldl Entries.remove journal.context }

def popAll (journal : Journal) : Journal :=
  { journal with context := [] }

/-- The outlets, in the order in which they are served. -/
def outlets (journal : Journal) : List Outlet :=
  journal.attached.map Handler.outlet

def attach (journal : Journal) (outlet : Outlet) : Journal :=
  let handler : Handler := ⟨journal.fresh, outlet⟩
  { journal with
    attached := journal.attached ++ [handler]
    installed := journal.installed ++ [handler]
    fresh := journal.fresh + 1 }

def detach (journal : Journal) (handler : Handler) : Journal :=
  { journal with attached := journal.attached.filter fun other => other.number ≠ handler.number }

def detachInstalled (journal : Journal) : Journal :=
  { journal.installed.foldl detach journal with installed := [] }

def close (journal : Journal) : Journal :=
  journal.detachInstalled.popAll

def admits (journal : Journal) (record : Record) : Bool :=
  journal.threshold ≤ record.level.weight

/-- Whether a record is passed on even if there is no outlet. -/
def needsAttention (record : Record) : Bool :=
  Level.warning.weight ≤ record.level.weight

/-- Records as lines. A record that cannot be written is left out. -/
def lines {ε : Type} (write : Record → Except ε Phrase) (records : List Record) : List Phrase :=
  records.filterMap fun record =>
    match write record with
    | .ok phrase => some (phrase ++ Phrase.ofString "\n")
    | .error _ => none

/-- What an outlet gets of records, where there is room for so many levels of nested data. -/
def linesFor (journal : Journal) (nesting : Nat) (pid : Record.ProcessId) (records : List Record)
    (outlet : Outlet) : List Phrase :=
  lines (Record.written nesting outlet.style pid journal.context) (records.filter journal.admits)

/-- What the terminal gets of records while there is no outlet. -/
def bareLines (journal : Journal) (nesting : Nat) (records : List Record) : List Phrase :=
  lines (Record.spoken nesting) ((records.filter journal.admits).filter needsAttention)

end Journal

end TurtleGraphics
