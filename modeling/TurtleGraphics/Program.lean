import TurtleGraphics.Token.Lexer

/-! # Programs

A program is the sequence of words and numbers of its source text. All other tokens only separate
them and are left out.
-/

namespace TurtleGraphics

/-- One word or number of a program. -/
structure Step where
  /-- Whether the step is a word or a number. -/
  kind : StepKind
  line : Int
  /-- The word. -/
  text : String := ""
  number : Int := 0
  deriving Repr, DecidableEq

/-- Why a token cannot be a step of a program. -/
inductive StepFault where
  | unknownKind (name : String)
  | notAStep (kind : TokenKind)
  deriving Repr, DecidableEq

namespace StepFault

def message : StepFault → String
  | .unknownKind name => Text.quoted name ++ " is not a valid TokenKind"
  | .notAStep kind => "program steps hold identifiers or numbers, got " ++ kind.name

end StepFault

namespace Step

def ofToken (token : Token) : Except StepFault Step :=
  match token.kind with
  | .identifier => .ok ⟨.identifier, token.line, token.text, token.number⟩
  | .number => .ok ⟨.number, token.line, token.text, token.number⟩
  | kind => .error (.notAStep kind)

/-- The step of a token whose kind is given by name. -/
def ofNamed (kind : String) (line : Int) (text : String) (number : Int) : Except StepFault Step :=
  match TokenKind.ofName? kind with
  | none => .error (.unknownKind kind)
  | some kind => ofToken ⟨kind, line, text, number⟩

def toToken (step : Step) : Token :=
  ⟨step.kind.toTokenKind, step.line, step.text, step.number⟩

end Step

/-- Words and numbers in source order. -/
abbrev Program := Array Step

namespace Program

def ofTokens (tokens : List Token) : Program :=
  (tokens.filterMap fun token => (Step.ofToken token).toOption).toArray

/-- The line of the last step, if there is one. -/
def lastLine (p : Program) : Option Int :=
  p.back?.map Step.line

end Program

/-- One complete reading of source text. -/
structure Reading where
  /-- Every scan, up to the end of the text or the first fault. -/
  spots : List Spot
  deriving Repr, DecidableEq

namespace Reading

/-- Read source text, where `symbol` starts a comment. -/
def of (symbol : CodePoint) (source : String) : Reading :=
  ⟨(Cursor.start source).spots symbol⟩

/-- The fault that ended the reading, if one did. -/
def diagnostic? (r : Reading) : Option Diagnostic :=
  r.spots.findSome? Spot.diagnostic?

/-- The program, unless there is a fault. -/
def program (r : Reading) : Except Diagnostic Program :=
  match r.diagnostic? with
  | some d => .error d
  | none => .ok (.ofTokens (r.spots.filterMap Spot.token?))

/-- The number of lines up to where the reading ended. -/
def lines (r : Reading) : Nat :=
  match r.spots.getLast? with
  | some spot => spot.start.line
  | none => 1

/-- What a lexer that reports its work says, in order. -/
def remarks (r : Reading) : List String :=
  r.spots.filterMap Spot.remark?

end Reading

namespace Program

def build (symbol : CodePoint) (source : String) : Except Diagnostic Program :=
  (Reading.of symbol source).program

end Program

end TurtleGraphics
