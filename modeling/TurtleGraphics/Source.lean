import TurtleGraphics.Journal.Notice
import TurtleGraphics.Program

/-! # Source text under given settings -/

namespace TurtleGraphics

/-- Why source text gave no program. -/
inductive SourceFault where
  /-- The settings name no usable comment symbol. -/
  | symbol (fault : SymbolFault)
  /-- The text has a fault. -/
  | diagnostic (d : Diagnostic)
  deriving Repr, DecidableEq

/-- Source text that was read, or why it could not be, and what there is to say about it. -/
structure SourceReading where
  program : Except SourceFault Program
  notices : List Notice

namespace LexerSettings

/-- Read source text. A program that could not be read is not announced. -/
def read (settings : LexerSettings) (source : String) : SourceReading :=
  match Lexer.symbol? settings.commentSymbol with
  | .error fault => ⟨.error (.symbol fault), []⟩
  | .ok symbol =>
    let reading := Reading.of symbol source
    let tokens := if settings.debug then reading.remarks.map Notice.token else []
    match reading.program with
    | .error d => ⟨.error (.diagnostic d), tokens⟩
    | .ok program => ⟨.ok program, tokens ++ [.built program.size reading.lines]⟩

end LexerSettings

end TurtleGraphics
