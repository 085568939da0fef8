import TurtleGraphics.Diagnostic

/-! # The next token

A scan looks at source text without leading blanks and finds either a lexeme, which is exactly a
front part of that text, or a fault together with the characters that were read before it showed.
-/

namespace TurtleGraphics

/-- A token as it is spelled. -/
inductive Lexeme where
  | endOfFile
  | endOfLine
  /-- A remark, from its symbol up to the newline. -/
  | comment (symbol : Char) (rest : List Char)
  | literal (c : Char)
  /-- Text between two quotes, which may differ. -/
  | string (opening : Char) (text : List Char) (closing : Char)
  | number (first : Char) (rest : List Char)
  | identifier (first : Char) (rest : List Char)
  deriving Repr, DecidableEq

namespace Lexeme

def spelling : Lexeme → List Char
  | .endOfFile => []
  | .endOfLine => ['\n']
  | .comment symbol rest => symbol :: rest
  | .literal c => [c]
  | .string opening text closing => opening :: text ++ [closing]
  | .number first rest => first :: rest
  | .identifier first rest => first :: rest

def valueOf (digits : List Char) : Nat :=
  digits.foldl (fun n c => 10 * n + (c.toNat - '0'.toNat)) 0

/-- The token of the lexeme, on the line where it starts. -/
def token (line : Int) : Lexeme → Token
  | .endOfFile => ⟨.endOfFile, line, "", 0⟩
  | .endOfLine => ⟨.endOfLine, line, "\n", 0⟩
  | .comment symbol rest => ⟨.comment, line, String.ofList (symbol :: rest), 0⟩
  | .literal c => ⟨.literal, line, String.ofList [c], 0⟩
  | .string _ text _ => ⟨.string, line, String.ofList text, 0⟩
  | .number first rest => ⟨.number, line, "", valueOf (first :: rest)⟩
  | .identifier first rest => ⟨.identifier, line, String.ofList (first :: rest), 0⟩

/-- Every lexeme but the last one has a character. -/
theorem spelling_length_pos {l : Lexeme} (h : l ≠ .endOfFile) : 0 < l.spelling.length := by
  cases l <;> simp_all [spelling]

end Lexeme

/-- What a scan finds. -/
inductive Scan where
  /-- A lexeme at the front of the text. -/
  | lexeme (found : Lexeme)
  /-- A fault that showed after the characters `read`. -/
  | fault (cause : LexicalFault) (read : List Char)
  deriving Repr, DecidableEq

namespace Scan

/-- The characters that the scan takes from the front of the text. -/
def read : Scan → List Char
  | .lexeme found => found.spelling
  | .fault _ read => read

/-- Text after its opening quote. Either quote closes it. -/
def string (opening : Char) (rest : List Char) : Scan :=
  match rest.dropWhile (!isQuote ·) with
  | closing :: _ => .lexeme (.string opening (rest.takeWhile (!isQuote ·)) closing)
  | [] => .fault .unterminatedString (opening :: rest)

/-- A number after its first digit. What follows must be a blank or an end. -/
def number (first : Char) (rest : List Char) : Scan :=
  let digits := rest.takeWhile Char.isDigit
  let inRange : Scan :=
    if Lexeme.valueOf (first :: digits) ≤ maxNumber then .lexeme (.number first digits)
    else .fault .numberTooLarge (first :: digits)
  match rest.dropWhile Char.isDigit with
  | [] => inRange
  | next :: _ =>
    if isBlank next || next = '\n' then inRange
    else .fault (.characterAfterNumber next) (first :: digits)

/-- The scan of text without leading blanks, where `symbol` starts a comment. -/
def start (symbol : CodePoint) : List Char → Scan
  | [] => .lexeme .endOfFile
  | c :: rest =>
    if c = '\n' then .lexeme .endOfLine
    else if .ofChar c = symbol then .lexeme (.comment c (rest.takeWhile (· ≠ '\n')))
    else if isLiteral c then .lexeme (.literal c)
    else if isQuote c then string c rest
    else if c.isDigit then number c rest
    else if c.isAlpha then .lexeme (.identifier c (rest.takeWhile (!endsIdentifier ·)))
    else .fault (.unknownCharacter c) []

end Scan

end TurtleGraphics
