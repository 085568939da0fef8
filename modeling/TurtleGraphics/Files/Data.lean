import TurtleGraphics.Datum.Document
import TurtleGraphics.Files.Tree
import TurtleGraphics.Printing.Settings
import TurtleGraphics.Text.Stream

/-! # Data files

Structured data and settings are read from files, by whatever reader there is. The standard settings
come from a file as well, which is always there.
-/

namespace TurtleGraphics

/-- The text that bytes write in UTF-8, with plain newlines. -/
def Text.decodeLines (bytes : ByteArray) : Except DecodingFault String :=
  return String.ofList (plainNewlines (← decode bytes).toList)

/-- Why a file gave no text. -/
inductive TextFault where
  | file (fault : FileFault)
  | decoding (fault : Text.DecodingFault)
  deriving Repr, DecidableEq

namespace FileTree

def readBytes (tree : FileTree) (path : Path) : Except FileFault ByteArray :=
  (tree.read path).map Content.data

/-- The text of a file, with plain newlines. -/
def readText (tree : FileTree) (path : Path) : Except TextFault String := do
  let data ← (tree.readBytes path).mapError .file
  (Text.decodeLines data).mapError .decoding

/-- The text of a file that is read as a stream, with plain newlines. -/
def streamText (tree : FileTree) (path : Path) : Except TextFault String := do
  let data ← (tree.readBytes path).mapError .file
  let text ← (Text.decodeStream data).mapError .decoding
  return String.ofList (Text.plainNewlines text.toList)

end FileTree

/-- Why a file gave no data. -/
inductive DataFault where
  | missing (path : Path)
  | text (fault : TextFault)
  | malformed (path : Path)
  | tooManyDigits (count : Nat)
  deriving Repr, DecidableEq

namespace TextFault

def message : TextFault → String
  | .file fault => fault.message
  | .decoding fault => fault.message

end TextFault

namespace DataFault

/-- The fault of the text at a path. -/
def ofSyntax (path : Path) : SyntaxFault → DataFault
  | .malformed => .malformed path
  | .tooManyDigits count => .tooManyDigits count

def message : DataFault → String
  | .missing path => "YAML file not found: " ++ path.toString
  | .text fault => fault.message
  | .malformed path => "Failed to parse YAML file " ++ path.toString
  | .tooManyDigits count =>
    "Exceeds the limit (" ++ toString mostDigits ++
      " digits) for integer string conversion: value has " ++
      toString count ++ " digits; use sys.set_int_max_str_digits() to increase the limit"

end DataFault

/-- Why there are no settings. -/
inductive LoadFault where
  | missing (path : Path)
  | data (fault : DataFault)
  | settings (fault : SettingsFault)
  | printing (fault : PrintFault)

namespace LoadFault

def ofRaised : Raised SettingsFault → LoadFault
  | .fault fault => .settings fault
  | .printing fault => .printing fault

def message : LoadFault → String
  | .missing path => "Configuration file not found: " ++ path.toString
  | .data fault => fault.message
  | .settings fault => fault.message
  | .printing fault => fault.message

end LoadFault

def Datum.load (reader : DataReader) (tree : FileTree) (path : Path) : Except DataFault Datum := do
  if !(← (tree.has path).mapError (.text ∘ .file)) then throw (.missing path)
  let text ← (tree.streamText path).mapError .text
  (reader text).mapError (.ofSyntax path)

namespace Settings

/-- The name of the file with the standard settings. -/
def standardPath : Path := ⟨["logo.yaml"]⟩

/-- What the file with the standard settings holds. -/
def standardText : String :=
  "# logo-toolchain default configuration.
#
# Every key is optional; omitted keys take the values shown here.

canvas:
  width_px: 640
  height_px: 480

turtle:
  home_x: 320          # HOME and start position, pixels
  home_y: 240
  paper: black         # initial background color
  ink: white           # initial pen color
  glyph_size_px: 10    # turtle marker drawn by logo-render
  glyph_color: red

lexer:
  comment_symbol: \"#\"
  debug: false         # log every token at DEBUG

engine:
  stack_capacity: 256  # two slots per REPEAT nesting level
  max_repeat: 65535
  trace: false         # log \"TRACE: <COMMAND>\" for each dispatched command
  normalize_angle: true

palette:               # RGB, 0..255
  black: [0, 0, 0]
  white: [255, 255, 255]
  red: [255, 0, 0]
  green: [0, 255, 0]
  blue: [0, 0, 255]
  yellow: [255, 255, 0]
  gray: [136, 136, 136]
  magenta: [255, 0, 255]

logging:
  level: INFO
  json: false
  color: true
  file: null
"

/-- The settings of a file, or those of the standard file without one, where there is room for so
    many levels of nested data. -/
def load (reader : DataReader) (nesting : Nat) (tree : FileTree) :
    Option Path → Except LoadFault Settings
  | none => do
    let data ← (reader standardText).mapError (.data ∘ .ofSyntax standardPath)
    (parse nesting data).mapError .ofRaised
  | some path => do
    if !(← (tree.has path).mapError (.data ∘ .text ∘ .file)) then throw (.missing path)
    let data ← (Datum.load reader tree path).mapError .data
    (parse nesting data).mapError .ofRaised

end Settings

end TurtleGraphics
