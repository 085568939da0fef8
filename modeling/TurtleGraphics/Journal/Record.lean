import TurtleGraphics.Journal.Level
import TurtleGraphics.Journal.Moment
import TurtleGraphics.Journal.Template

/-! # Records

A record is one entry of a log. It is written on one line for people, or as one JSON object for
programs. Both show the context, which is what the surroundings of the work are known to be.
-/

namespace TurtleGraphics

/-- An error that a record tells of. -/
structure Failure where
  kind : String
  /-- What it says. -/
  text : String
  deriving Repr, DecidableEq

namespace Failure

def shown (failure : Failure) : String :=
  if failure.text.isEmpty then failure.kind else failure.kind ++ ": " ++ failure.text

end Failure

/-- One entry of a log. -/
structure Record where
  /-- How much it matters. -/
  level : Level
  /-- The part of the program that speaks. -/
  speaker : String
  /-- What it says, with places for arguments. -/
  template : String
  arguments : List Datum := []
  /-- When it was made. -/
  created : Seconds
  /-- The error it tells of, if there is one. -/
  failure : Option Failure := none

/-- Why a record cannot be written. -/
inductive RecordFault where
  | moment (fault : MomentFault)
  | template (fault : TemplateFault)

namespace RecordFault

def message : RecordFault → String
  | .moment fault => fault.message
  | .template fault => fault.message

end RecordFault

/-- How records are written. -/
inductive RecordStyle where
  /-- One line for people, with the level in color or without. -/
  | human (color : Bool)
  /-- One JSON object. -/
  | json
  deriving Repr, DecidableEq

namespace Record

/-- The name of the whole program, as opposed to its parts. -/
def wholeProgram : String := "root"

/-- The record of a speaker. One without a name speaks for the whole program. -/
def named (record : Record) : Record :=
  if record.speaker.isEmpty then { record with speaker := wholeProgram } else record

/-- The number of the process that the log belongs to. -/
abbrev ProcessId := Nat

/-- What a terminal needs to hear before the level. -/
def colorCode : Level → String
  | .debug => "\x1b[36m"
  | .info => "\x1b[32m"
  | .warning => "\x1b[33m"
  | .error => "\x1b[31m"
  | .critical => "\x1b[35m"

def colorReset : String := "\x1b[0m"

def levelColumn (color : Bool) (level : Level) : String :=
  let column := String.ofList (level.name.toList ++ List.replicate (8 - level.name.length) ' ')
  if color then colorCode level ++ column ++ colorReset else column

def contextText (context : Entries) : Phrase :=
  List.intercalate (Phrase.ofString " ")
    (context.map fun (name, value) => name ++ "=" ++ value.shown)

def message (record : Record) : Except RecordFault Phrase :=
  (Template.fill record.template record.arguments).mapError .template

/-- A record and its message on one line, and on further lines the error it tells of. -/
def human (color : Bool) (context : Entries) (moment : Moment) (record : Record)
    (message : Phrase) : Phrase :=
  let around := contextText context
  let start := Phrase.ofString (moment.short ++ " | " ++ levelColumn color record.level ++ " | ")
  let line := start ++ (if around.isEmpty then [] else around ++ Phrase.ofString " | ") ++ message
  match record.failure with
  | none => line
  | some failure => line ++ Phrase.ofString ("\n" ++ failure.shown)

/-- The entries of a record as an object. The context may take the place of the first five. -/
def entries (pid : ProcessId) (context : Entries) (moment : Moment) (record : Record)
    (message : Phrase) : Entries :=
  let own : Entries := [
    ("t", .text moment.long),
    ("lvl", .text record.level.name),
    ("name", .text record.speaker),
    ("pid", .int pid),
    ("msg", .text message)]
  let known := own.putAll context
  match record.failure with
  | none => known
  | some failure => known.put "exc" (.text failure.shown)

/-- A record as it is written, without the end of its line. -/
def write (style : RecordStyle) (pid : ProcessId) (context : Entries) (record : Record) :
    Except RecordFault Phrase := do
  let moment ← (Moment.ofSeconds record.created).mapError .moment
  let message ← record.message
  match style with
  | .human color => return record.human color context moment message
  | .json => return (Datum.mapping (record.entries pid context moment message)).json

end Record

end TurtleGraphics
