import TurtleGraphics.Journal.Notice
import TurtleGraphics.Journal.Record
import TurtleGraphics.Printing

/-! # Records and notices in print

A record is written once its message and the context are printed. Where one of them has no text, the
record has none.
-/

namespace TurtleGraphics

namespace Record

variable (nesting : Nat)

/-- Why the message of a record cannot be printed, if it cannot. -/
def messageFault? (record : Record) : Option PrintFault :=
  (Template.shown record.template record.arguments).findSome? (Datum.printFault? nesting)

/-- Why a record cannot be printed, if it cannot. -/
def printFault? (context : Entries) (record : Record) : Option PrintFault :=
  (record.messageFault? nesting).or
    ((context.map Prod.snd).findSome? (Datum.printFault? nesting))

/-- The message of a record, where there is room for so many levels of nested data. -/
def spoken (record : Record) : Except (Raised RecordFault) Phrase :=
  match record.messageFault? nesting with
  | some fault => .error (.printing fault)
  | none => record.message.mapError .fault

/-- A record as it is written, where there is room for so many levels of nested data. The time is
    told first. -/
def written (style : RecordStyle) (pid : ProcessId) (context : Entries) (record : Record) :
    Except (Raised RecordFault) Phrase :=
  match Moment.ofSeconds record.created, record.printFault? nesting context with
  | .ok _, some fault => .error (.printing fault)
  | _, _ => (record.write style pid context).mapError .fault

end Record

namespace Notice

/-- The numbers that a notice shows and that have no bound. -/
def numbers : Notice → List Int
  | .drew s _ => [s.x1, s.y1, s.x2, s.y2]
  | .endedAt turtle => [turtle.x, turtle.y, turtle.angle]
  | _ => []

/-- Whether a notice has a text. -/
def isPrintable (notice : Notice) : Bool :=
  (notice.numbers.findSome? PrintFault.ofInt?).isNone

end Notice

end TurtleGraphics
