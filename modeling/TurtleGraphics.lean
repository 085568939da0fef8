import TurtleGraphics.Canvas
import TurtleGraphics.Canvas.Clip
import TurtleGraphics.Color
import TurtleGraphics.Command
import TurtleGraphics.CommandLine
import TurtleGraphics.CommandLine.Argument
import TurtleGraphics.Compiler
import TurtleGraphics.Datum
import TurtleGraphics.Datum.Printer
import TurtleGraphics.Datum.Reader
import TurtleGraphics.Diagnostic
import TurtleGraphics.Execution
import TurtleGraphics.Files.Atomic
import TurtleGraphics.Files.Data
import TurtleGraphics.Files.Name
import TurtleGraphics.Files.Path
import TurtleGraphics.Files.Tree
import TurtleGraphics.Interpreter
import TurtleGraphics.Journal
import TurtleGraphics.Journal.Level
import TurtleGraphics.Journal.Moment
import TurtleGraphics.Journal.Notice
import TurtleGraphics.Journal.Place
import TurtleGraphics.Journal.Record
import TurtleGraphics.Journal.Template
import TurtleGraphics.Keyword
import TurtleGraphics.LoopStack
import TurtleGraphics.Main
import TurtleGraphics.Number.Double
import TurtleGraphics.Number.Literal
import TurtleGraphics.Number.Rounded
import TurtleGraphics.Number.Scalar
import TurtleGraphics.Number.Shortest
import TurtleGraphics.Number.Table
import TurtleGraphics.Page
import TurtleGraphics.Picture
import TurtleGraphics.Picture.Amount
import TurtleGraphics.Picture.Checksum
import TurtleGraphics.Picture.Encoding
import TurtleGraphics.Picture.Format
import TurtleGraphics.Program
import TurtleGraphics.Program.Instruction
import TurtleGraphics.Proofs.Canvas.Clip
import TurtleGraphics.Proofs.Canvas.Pixels
import TurtleGraphics.Proofs.Canvas.Reversal
import TurtleGraphics.Proofs.Canvas.Samples
import TurtleGraphics.Proofs.Canvas.Sampling
import TurtleGraphics.Proofs.Canvas.Window
import TurtleGraphics.Proofs.Compiler.Language
import TurtleGraphics.Proofs.Compiler.Output
import TurtleGraphics.Proofs.Compiler.Refusal
import TurtleGraphics.Proofs.Compiler.Sequence
import TurtleGraphics.Proofs.Datum.Entries
import TurtleGraphics.Proofs.Datum.Escapes
import TurtleGraphics.Proofs.Datum.Json
import TurtleGraphics.Proofs.Datum.Names
import TurtleGraphics.Proofs.Datum.Numerals
import TurtleGraphics.Proofs.Execution.Dispatch
import TurtleGraphics.Proofs.Execution.Ending
import TurtleGraphics.Proofs.Execution.Ground
import TurtleGraphics.Proofs.Execution.Halting
import TurtleGraphics.Proofs.Execution.Journey
import TurtleGraphics.Proofs.Execution.Loops
import TurtleGraphics.Proofs.Execution.Obeyed
import TurtleGraphics.Proofs.Execution.Reach
import TurtleGraphics.Proofs.Execution.Rewording
import TurtleGraphics.Proofs.Execution.Sequence
import TurtleGraphics.Proofs.Execution.Stack
import TurtleGraphics.Proofs.Files.Failure
import TurtleGraphics.Proofs.Files.Replacement
import TurtleGraphics.Proofs.Interpreter.Bounds
import TurtleGraphics.Proofs.Interpreter.Capitals
import TurtleGraphics.Proofs.Interpreter.Compiled
import TurtleGraphics.Proofs.Interpreter.Failure
import TurtleGraphics.Proofs.Interpreter.Faults
import TurtleGraphics.Proofs.Interpreter.Heading
import TurtleGraphics.Proofs.Interpreter.History
import TurtleGraphics.Proofs.Interpreter.Normalizing
import TurtleGraphics.Proofs.Interpreter.Painting
import TurtleGraphics.Proofs.Interpreter.Reversal
import TurtleGraphics.Proofs.Interpreter.Safety
import TurtleGraphics.Proofs.Interpreter.Sequence
import TurtleGraphics.Proofs.Interpreter.Unrolling
import TurtleGraphics.Proofs.Journal.Calls
import TurtleGraphics.Proofs.Journal.Failure
import TurtleGraphics.Proofs.Journal.Record
import TurtleGraphics.Proofs.Number.Canonical
import TurtleGraphics.Proofs.Number.Digits
import TurtleGraphics.Proofs.Number.Error
import TurtleGraphics.Proofs.Number.HalfAway
import TurtleGraphics.Proofs.Number.Magnitude
import TurtleGraphics.Proofs.Number.Nearest
import TurtleGraphics.Proofs.Number.Rounding
import TurtleGraphics.Proofs.Number.Scientific
import TurtleGraphics.Proofs.Number.Shortest
import TurtleGraphics.Proofs.Number.Sign
import TurtleGraphics.Proofs.Number.Value
import TurtleGraphics.Proofs.Number.Whole
import TurtleGraphics.Proofs.Page.Embedding
import TurtleGraphics.Proofs.Page.Moves
import TurtleGraphics.Proofs.Program.Boundary
import TurtleGraphics.Proofs.Program.Capitals
import TurtleGraphics.Proofs.Program.CommentSymbol
import TurtleGraphics.Proofs.Program.Layout
import TurtleGraphics.Proofs.Program.LineEnds
import TurtleGraphics.Proofs.Program.Nesting
import TurtleGraphics.Proofs.Program.Rewording
import TurtleGraphics.Proofs.Program.Sequence
import TurtleGraphics.Proofs.Program.Standing
import TurtleGraphics.Proofs.Program.Unrolling
import TurtleGraphics.Proofs.Script.Reading
import TurtleGraphics.Proofs.Script.Running
import TurtleGraphics.Proofs.Settings.Fields
import TurtleGraphics.Proofs.Settings.Kinds
import TurtleGraphics.Proofs.Settings.Overriding
import TurtleGraphics.Proofs.Settings.Sections
import TurtleGraphics.Proofs.Settings.Sound
import TurtleGraphics.Proofs.Text.Capitals
import TurtleGraphics.Proofs.Text.Characters
import TurtleGraphics.Proofs.Text.Lines
import TurtleGraphics.Proofs.Token.Relettering
import TurtleGraphics.Proofs.Token.Seam
import TurtleGraphics.Proofs.Tool.Exit
import TurtleGraphics.Proofs.Tool.Jobs
import TurtleGraphics.Proofs.Tool.Work
import TurtleGraphics.Proofs.Turtle.Distance
import TurtleGraphics.Proofs.Turtle.Heading
import TurtleGraphics.Proofs.Turtle.Marker
import TurtleGraphics.Proofs.Turtle.Reversal
import TurtleGraphics.Proofs.Turtle.Stride
import TurtleGraphics.Script
import TurtleGraphics.Script.Sink
import TurtleGraphics.Settings
import TurtleGraphics.Settings.Fault
import TurtleGraphics.Settings.Reader
import TurtleGraphics.Source
import TurtleGraphics.Surface
import TurtleGraphics.Text.Alphanumeric
import TurtleGraphics.Text.Cased
import TurtleGraphics.Text.DecimalDigit
import TurtleGraphics.Text.Encoding
import TurtleGraphics.Text.Hexadecimal
import TurtleGraphics.Text.LetterRun
import TurtleGraphics.Text.Lines
import TurtleGraphics.Text.Lowercase
import TurtleGraphics.Text.Phrase
import TurtleGraphics.Text.Printable
import TurtleGraphics.Text.Quoted
import TurtleGraphics.Text.Ranges
import TurtleGraphics.Text.Stream
import TurtleGraphics.Text.Uppercase
import TurtleGraphics.Token
import TurtleGraphics.Token.Lexer
import TurtleGraphics.Token.Scan
import TurtleGraphics.Tool
import TurtleGraphics.Turtle
import TurtleGraphics.Workplace
