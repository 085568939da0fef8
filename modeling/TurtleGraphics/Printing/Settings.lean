import TurtleGraphics.Printing
import TurtleGraphics.Settings.Reader

/-! # What the reading of settings raises

A fault of settings is raised with its message, which shows the value that is at fault. The name of
the level and the name of the log file are made from the text of whatever value stands there.
-/

namespace TurtleGraphics

namespace SettingsFault

/-- The values that the message shows. -/
def shown : SettingsFault → List Datum
  | .rootNotMapping _ => []
  | .sectionNotMapping _ _ => []
  | .notAnInteger _ got => [got]
  | .notABoolean _ got => [got]
  | .unknownColor _ got => [got]
  | .symbolNotSingle got => [got]
  | .symbolReserved symbol => [.text symbol]
  | .unknownPaletteColor name => [.text name]
  | .notRgb _ got => [got]
  | .unknownLevel name => [.text name]
  | .canvasNotPositive width height => [.int width, .int height]
  | .homeOutside x y width height => [.int x, .int y, .int width, .int height]
  | .glyphNotPositive size => [.int size]
  | .capacityNotEven capacity => [.int capacity]
  | .repeatNotPositive limit => [.int limit]

def printFault? (nesting : Nat) (fault : SettingsFault) : Option PrintFault :=
  fault.shown.findSome? (Datum.printFault? nesting)

/-- What is raised for a fault where there is room for so many levels of nested data. -/
def raised (nesting : Nat) (fault : SettingsFault) : Raised SettingsFault :=
  .of fault (fault.printFault? nesting)

end SettingsFault

namespace Section

/-- See to it that the value of an entry can be printed. -/
def demandText (nesting : Nat) (sec : Section) (key : String) :
    Except (Raised SettingsFault) Unit :=
  match (sec.entries.value? key).bind (Datum.printFault? nesting) with
  | none => .ok ()
  | some fault => .error (.printing fault)

/-- The level is printed first and the log file last. -/
def parseLogging (nesting : Nat) (sec : Section) : Except (Raised SettingsFault) LogSettings := do
  sec.demandText nesting "level"
  let logging ← sec.logging.mapError (SettingsFault.raised nesting)
  sec.demandText nesting "file"
  return logging

end Section

namespace Settings

def parseEntries (nesting : Nat) (data : Entries) : Except (Raised SettingsFault) Settings := do
  let raise {α : Type} (x : Except SettingsFault α) : Except (Raised SettingsFault) α :=
    x.mapError (SettingsFault.raised nesting)
  let canvas ← raise (Section.of data "canvas" >>= Section.canvas)
  let turtle ← raise (Section.of data "turtle" >>= Section.turtle)
  let lexer ← raise (Section.of data "lexer" >>= Section.lexer)
  let engine ← raise (Section.of data "engine" >>= Section.engine)
  let palette ← raise (Section.of data "palette" >>= Section.palette)
  let logging ← raise (Section.of data "logging") >>= Section.parseLogging nesting
  raise (check { canvas, turtle, lexer, engine, palette, logging })

/-- The settings of structured data, or what is raised where there is room for so many levels of
    nested data. -/
def parse (nesting : Nat) : Datum → Except (Raised SettingsFault) Settings
  | .null => parseEntries nesting []
  | .mapping entries => parseEntries nesting entries
  | other => .error (SettingsFault.raised nesting (.rootNotMapping other))

end Settings

end TurtleGraphics
