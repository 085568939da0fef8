import TurtleGraphics.Token.Scan

/-! # Reading tokens in order

A cursor stands between two characters of the source text and knows its line. Reading a token skips
blanks, scans, and moves the cursor past what the scan took, also when the scan finds a fault.
Reading all tokens leaves one spot for each scan, the last being the end of the text or a fault.
-/

namespace TurtleGraphics

/-- A place in source text. -/
structure Cursor where
  /-- The characters that are still unread. -/
  rest : List Char
  /-- How many characters were read. -/
  position : Nat
  /-- The line of the next character, from 1 on. -/
  line : Nat
  deriving Repr, DecidableEq

namespace Cursor

def start (source : String) : Cursor :=
  ⟨source.toList, 0, 1⟩

/-- The place `n` characters further on. -/
def advance (c : Cursor) (n : Nat) : Cursor :=
  ⟨c.rest.drop n, c.position + n, c.line + (c.rest.take n).count '\n'⟩

/-- The place of the next character that is no blank. -/
def skipBlanks (c : Cursor) : Cursor :=
  c.advance (c.rest.takeWhile isBlank).length

theorem length_advance_le (c : Cursor) (n : Nat) :
    (c.advance n).rest.length ≤ c.rest.length := by
  simp [advance]

theorem length_skipBlanks_le (c : Cursor) : c.skipBlanks.rest.length ≤ c.rest.length :=
  c.length_advance_le _

theorem length_advance_lt {c : Cursor} {n : Nat} (hrest : c.rest ≠ []) (hn : 0 < n) :
    (c.advance n).rest.length < c.rest.length := by
  have := List.length_pos_iff.2 hrest
  simp only [advance, List.length_drop]
  omega

end Cursor

/-- A scan and the place where it starts. -/
structure Spot where
  /-- Where the scan starts, after blanks. -/
  start : Cursor
  /-- What it finds. -/
  scan : Scan
  deriving Repr, DecidableEq

namespace Spot

def stop (spot : Spot) : Cursor :=
  spot.start.advance spot.scan.read.length

def outcome (spot : Spot) : Except Diagnostic Token :=
  match spot.scan with
  | .lexeme found => .ok (found.token spot.start.line)
  | .fault cause _ => .error ⟨.lexical cause, some spot.start.line⟩

def diagnostic? (spot : Spot) : Option Diagnostic :=
  match spot.outcome with
  | .ok _ => none
  | .error d => some d

/-- The token, save for the end of the text. -/
def token? (spot : Spot) : Option Token :=
  match spot.scan with
  | .lexeme .endOfFile => none
  | .lexeme found => some (found.token spot.start.line)
  | .fault _ _ => none

/-- What a lexer that reports its work says about the spot. -/
def remark? (spot : Spot) : Option String :=
  let located (what : String) : String := what ++ " at position " ++ toString spot.start.position
  match spot.scan with
  | .lexeme .endOfFile => none
  | .lexeme .endOfLine => some (located "End of line")
  | .lexeme (.comment _ _) => some (located "Found comment")
  | .lexeme (.literal c) => some (located ("Literal 0x" ++ Text.hexadecimal 2 c.toNat))
  | .lexeme (.string _ _ _) => some (located "Found string literal")
  | .lexeme (.number _ _) => some (located "Found number")
  | .lexeme (.identifier _ _) => some (located "Found identifier")
  | .fault .unterminatedString _ => some (located "Found string literal")
  | .fault .numberTooLarge _ => some (located "Found number")
  | .fault (.characterAfterNumber _) _ => some (located "Found number")
  | .fault (.unknownCharacter _) _ => none

end Spot

namespace Cursor

def spot (symbol : CodePoint) (c : Cursor) : Spot :=
  ⟨c.skipBlanks, Scan.start symbol c.skipBlanks.rest⟩

/-- Only the end of the text leaves nothing to read. -/
theorem rest_ne_nil_of_spot {symbol : CodePoint} {c : Cursor} {found : Lexeme}
    (hscan : (c.spot symbol).scan = .lexeme found) (hfound : found ≠ .endOfFile) :
    (c.spot symbol).start.rest ≠ [] := by
  intro hnil
  simp only [spot] at hscan hnil
  rw [hnil, Scan.start] at hscan
  exact hfound (Scan.lexeme.inj hscan).symm

/-- All scans from a place on, up to and including the end of the text or the first fault. -/
def spots (symbol : CodePoint) (c : Cursor) : List Spot :=
  match _hscan : (c.spot symbol).scan with
  | .lexeme found =>
    if _hfound : found = .endOfFile then [c.spot symbol]
    else c.spot symbol :: spots symbol (c.spot symbol).stop
  | .fault _ _ => [c.spot symbol]
termination_by c.rest.length
decreasing_by
  have hlt := length_advance_lt (rest_ne_nil_of_spot _hscan _hfound)
    (Lexeme.spelling_length_pos _hfound)
  have hle := c.length_skipBlanks_le
  simp only [Spot.stop, _hscan, Scan.read]
  exact Nat.lt_of_lt_of_le hlt hle

end Cursor

/-- Why the next token could not be read. -/
inductive LexerFault where
  | diagnostic (d : Diagnostic)
  | pastEnd
  deriving Repr, DecidableEq

namespace LexerFault

def message : LexerFault → String
  | .diagnostic d => d.message
  | .pastEnd => "next_token() called after end of file"

end LexerFault

/-- Why a comment symbol cannot be used: it is not a single character. -/
structure SymbolFault where
  symbol : Phrase
  deriving Repr, DecidableEq

namespace SymbolFault

def message (fault : SymbolFault) : String :=
  "comment_symbol must be a single character, got " ++ fault.symbol.quoted

end SymbolFault

/-- A reader that gives out one token at a time. -/
structure Lexer where
  /-- The character that starts a comment. Half of a surrogate pair starts none. -/
  symbol : CodePoint
  /-- The place of the next token. -/
  cursor : Cursor
  /-- Whether the end of the text was given out. -/
  finished : Bool
  deriving Repr, DecidableEq

namespace Lexer

def symbol? (text : Phrase) : Except SymbolFault CodePoint :=
  match text with
  | [symbol] => .ok symbol
  | _ => .error ⟨text⟩

def start (symbol : CodePoint) (source : String) : Lexer :=
  ⟨symbol, .start source, false⟩

/-- The spot of the next scan; there is none after the end of the text. -/
def spot? (l : Lexer) : Option Spot :=
  if l.finished then none else some (l.cursor.spot l.symbol)

/-- The next token and the lexer after it. A fault leaves the lexer after the characters that were
    read; the end of the text is given out once. -/
def next (l : Lexer) : Except LexerFault Token × Lexer :=
  match l.spot? with
  | none => (.error .pastEnd, l)
  | some spot =>
    let finished := spot.scan == .lexeme .endOfFile
    (spot.outcome.mapError .diagnostic, { l with cursor := spot.stop, finished })

end Lexer

/-- Every token of source text but its end. -/
def tokenize (symbol : CodePoint) (source : String) : Except Diagnostic (List Token) :=
  let spots := (Cursor.start source).spots symbol
  match spots.findSome? Spot.diagnostic? with
  | some d => .error d
  | none => .ok (spots.filterMap Spot.token?)

end TurtleGraphics
