import TurtleGraphics.Token
import TurtleGraphics.Text.Quoted

/-! # Diagnostics

Whatever stops the reading, compiling or running of a program is a diagnostic: a cause, and the
source line where it is known. The wording is made from the cause in one place.
-/

namespace TurtleGraphics

/-- The four families of diagnostics. -/
inductive DiagnosticKind where
  /-- The source text does not fall into tokens. -/
  | lexical
  /-- The tokens do not form commands. -/
  | grammatical
  /-- The loops nest too deep, or one closes that never opened. -/
  | stack
  /-- The output took no more text. -/
  | emit
  deriving Repr, DecidableEq

namespace DiagnosticKind

def name : DiagnosticKind → String
  | .lexical => "lexical"
  | .grammatical => "syntax"
  | .stack => "stack"
  | .emit => "emit"

/-- The whole message: family, detail and, where known, the line. -/
def report (kind : DiagnosticKind) (detail : String) (line : Option Int) : String :=
  let message := kind.name ++ " error: " ++ detail
  match line with
  | none => message
  | some line => message ++ " in line " ++ toString line

end DiagnosticKind

/-- The kinds of step that a program keeps. -/
inductive StepKind where
  | identifier
  | number
  deriving Repr, DecidableEq

namespace StepKind

/-- The same kind among all kinds of token. -/
def toTokenKind : StepKind → TokenKind
  | .identifier => .identifier
  | .number => .number

def name (kind : StepKind) : String :=
  kind.toTokenKind.name

end StepKind

/-- What can be wrong with source text. -/
inductive LexicalFault where
  | unknownCharacter (c : Char)
  | characterAfterNumber (c : Char)
  | numberTooLarge
  | unterminatedString
  deriving Repr, DecidableEq

namespace LexicalFault

def detail : LexicalFault → String
  | .unknownCharacter c => "unknown character 0x" ++ Text.hexadecimal 2 c.toNat
  | .characterAfterNumber c =>
    "unexpected character 0x" ++ Text.hexadecimal 2 c.toNat ++ " after number"
  | .numberTooLarge => "number too large (maximum " ++ toString maxNumber ++ ")"
  | .unterminatedString => "unterminated string"

end LexicalFault

/-- What can be wrong with the steps of a program. -/
inductive GrammarFault where
  | unexpectedStep (kind : StepKind)
  | unknownKeyword (text : String)
  | unexpectedEnd
  | wrongKind (expected got : StepKind)
  | numberOutOfRange (number : Int)
  | unknownColor (text : String)
  | unknownPenState (text : String)
  | countOutOfRange (count limit : Int)
  deriving Repr, DecidableEq

namespace GrammarFault

def detail : GrammarFault → String
  | .unexpectedStep kind => "unexpected token " ++ kind.name
  | .unknownKeyword text => "unknown keyword " ++ Text.quoted text
  | .unexpectedEnd => "unexpected end of program"
  | .wrongKind expected got =>
    "invalid parameter type, expected " ++ expected.name ++ " got " ++ got.name
  | .numberOutOfRange number => "number " ++ toString number ++ " is out of range"
  | .unknownColor text => "unrecognized color " ++ Text.quoted text
  | .unknownPenState text => "invalid pen state " ++ Text.quoted text
  | .countOutOfRange count limit =>
    "repeat count " ++ toString count ++ " is out of range 1.." ++ toString limit

end GrammarFault

/-- What can go wrong with the stack of open loops. -/
inductive StackFault where
  | overflow
  | empty
  deriving Repr, DecidableEq

namespace StackFault

def detail : StackFault → String
  | .overflow => "stack overflow"
  | .empty => "stack empty"

end StackFault

/-- Why a program was given up. -/
inductive Cause where
  | lexical (fault : LexicalFault)
  | grammatical (fault : GrammarFault)
  | stack (fault : StackFault)
  | emit (reason : String)
  deriving Repr, DecidableEq

namespace Cause

def kind : Cause → DiagnosticKind
  | .lexical _ => .lexical
  | .grammatical _ => .grammatical
  | .stack _ => .stack
  | .emit _ => .emit

def detail : Cause → String
  | .lexical fault => fault.detail
  | .grammatical fault => fault.detail
  | .stack fault => fault.detail
  | .emit reason => "cannot write output: " ++ reason

end Cause

/-- Why a program was given up, and in which line. -/
structure Diagnostic where
  cause : Cause
  /-- The line, where one is known. -/
  line : Option Int
  deriving Repr, DecidableEq

namespace Diagnostic

def kind (d : Diagnostic) : DiagnosticKind :=
  d.cause.kind

def detail (d : Diagnostic) : String :=
  d.cause.detail

def message (d : Diagnostic) : String :=
  d.kind.report d.detail d.line

end Diagnostic

end TurtleGraphics
