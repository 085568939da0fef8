import TurtleGraphics.Text.Alphanumeric

/-! # Lines of text

Besides the newline there are other characters that end a line; a carriage return and a newline
after it end one line together. Lines keep their ends.
-/

namespace TurtleGraphics.Text

/-- The characters that end a line. -/
def lineEnds : List Char :=
  ['\n', '\r', '\x0b', '\x0c', '\x1c', '\x1d', '\x1e', '\u0085', '\u2028', '\u2029']

/-- Put a character in front of the first line. -/
def consFirst (c : Char) : List (List Char) → List (List Char)
  | [] => [[c]]
  | line :: rest => (c :: line) :: rest

/-- The lines of text, each with its end. -/
def linesOf : List Char → List (List Char)
  | [] => []
  | '\r' :: '\n' :: rest => ['\r', '\n'] :: linesOf rest
  | c :: rest => if lineEnds.contains c then [c] :: linesOf rest else consFirst c (linesOf rest)

/-- Whether there is nothing to see on a line. -/
def isBlankLine (line : List Char) : Bool :=
  line.all isSeparator

/-- Text with `margin` in front of every line on which there is something to see. -/
def indent (margin text : List Char) : List Char :=
  (linesOf text).flatMap fun line => if isBlankLine line then line else margin ++ line

def dropFinalNewlines (text : List Char) : List Char :=
  (text.reverse.dropWhile (· = '\n')).reverse

/-- Text with every carriage return, alone or before a newline, turned into a newline. -/
def plainNewlines : List Char → List Char
  | [] => []
  | '\r' :: '\n' :: rest => '\n' :: plainNewlines rest
  | '\r' :: rest => '\n' :: plainNewlines rest
  | c :: rest => c :: plainNewlines rest

/-- Text with each occurrence of `mark` replaced, from the left and without overlap. After an
    occurrence, `skip` characters of it are still to be passed over. -/
def replaceFrom (mark replacement : List Char) (skip : Nat) : List Char → List Char
  | [] => []
  | c :: rest =>
    if 0 < skip then replaceFrom mark replacement (skip - 1) rest
    else if mark ≠ [] ∧ mark.isPrefixOf (c :: rest) then
      replacement ++ replaceFrom mark replacement (mark.length - 1) rest
    else c :: replaceFrom mark replacement 0 rest

/-- Text with each occurrence of `mark` replaced. -/
def replaceAll (mark replacement text : List Char) : List Char :=
  replaceFrom mark replacement 0 text

end TurtleGraphics.Text
