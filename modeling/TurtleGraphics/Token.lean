/-! # Tokens of the turtle language

Source text falls into seven kinds of token. Only identifiers and numbers carry instructions; the
others separate them or speak to the reader.
-/

namespace TurtleGraphics

/-- The kinds of token. -/
inductive TokenKind where
  /-- The end of the source text. -/
  | endOfFile
  /-- A punctuation character. -/
  | literal
  /-- A word that starts with a letter. -/
  | identifier
  /-- Text between quotes. -/
  | string
  /-- Decimal digits. -/
  | number
  /-- A remark up to the end of its line. -/
  | comment
  /-- The end of a line. -/
  | endOfLine
  deriving Repr, DecidableEq

namespace TokenKind

def all : List TokenKind :=
  [.endOfFile, .literal, .identifier, .string, .number, .comment, .endOfLine]

def name : TokenKind → String
  | .endOfFile => "end of file"
  | .literal => "literal"
  | .identifier => "identifier"
  | .string => "string"
  | .number => "number"
  | .comment => "comment"
  | .endOfLine => "end of line"

def ofName? (name : String) : Option TokenKind :=
  all.find? fun kind => kind.name = name

end TokenKind

/-- A token. Tokens read from source text have lines from 1 on; tokens built by hand may have
    any. -/
structure Token where
  kind : TokenKind
  /-- The line on which the token starts. -/
  line : Int
  /-- Word, character, remark or text between the quotes. -/
  text : String := ""
  number : Int := 0
  deriving Repr, DecidableEq

/-- The largest magnitude of a number. -/
def maxNumber : Nat := 2147483647

/-- The characters that stand for themselves as tokens. -/
def literals : List Char := "!@#$%^&*()[]\x7b\x7d:;.,<>/?+-".toList

def isLiteral (c : Char) : Bool :=
  literals.contains c

def isQuote (c : Char) : Bool :=
  c = '"' || c = '\''

/-- Whether the character only separates tokens; a carriage return does, so that both line-end
    conventions read alike. -/
def isBlank (c : Char) : Bool :=
  c = ' ' || c = '\t' || c = '\r'

def endsIdentifier (c : Char) : Bool :=
  isBlank c || isLiteral c || c = '\n'

end TurtleGraphics
