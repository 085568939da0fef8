import TurtleGraphics.Journal.Notice
import TurtleGraphics.Text.DecimalDigit

/-! # Command-line arguments

An argument either names an option or stands for itself. Options have a long name after two
hyphens, which may be cut short as long as it stays unique, and some have a short name of one letter
after one hyphen. A value may follow the long name after an equals sign and the short name at once.
After the short name of an option without a value, letters are the short names of further options.
-/

namespace TurtleGraphics

/-- The options of the tools. -/
inductive OptionName where
  /-- Says how a tool is used. -/
  | help
  /-- Names the settings file. -/
  | config
  /-- Takes the place of the configured log level. -/
  | logLevel
  /-- Names the file to write. -/
  | output
  /-- Asks for bare statements instead of a page. -/
  | raw
  /-- Gives the page its title. -/
  | title
  /-- Asks to report each command. -/
  | trace
  /-- Asks to report each line drawn. -/
  | lines
  /-- Asks to leave out the turtle's marker. -/
  | noTurtle
  deriving Repr, DecidableEq

namespace OptionName

def long : OptionName → List Char
  | .help => "--help".toList
  | .config => "--config".toList
  | .logLevel => "--log-level".toList
  | .output => "--output".toList
  | .raw => "--raw".toList
  | .title => "--title".toList
  | .trace => "--trace".toList
  | .lines => "--lines".toList
  | .noTurtle => "--no-turtle".toList

def letter? : OptionName → Option Char
  | .help => some 'h'
  | .config => some 'c'
  | .output => some 'o'
  | _ => none

def takesValue : OptionName → Bool
  | .config => true
  | .logLevel => true
  | .output => true
  | .title => true
  | _ => false

end OptionName

def ToolName.options : ToolName → List OptionName
  | .compile => [.help, .config, .logLevel, .output, .raw, .title, .trace]
  | .trace => [.help, .config, .logLevel, .lines]
  | .render => [.help, .config, .logLevel, .output, .noTurtle, .trace]

/-- What an argument is. -/
inductive Argument where
  /-- It stands for itself. -/
  | plain (text : String)
  /-- It names an option, and may bring its value. -/
  | option (name : OptionName) (value : Option String)
  /-- It names an option without a value, and then one with a value, which it may bring. -/
  | pair (first second : OptionName) (value : Option String)
  /-- It looks like an option that is not known. -/
  | unknown
  deriving Repr, DecidableEq

namespace Argument

/-- Text up to the first equals sign, and what follows it if there is one. -/
def splitValue (text : List Char) : List Char × Option String :=
  match text.dropWhile (· ≠ '=') with
  | [] => (text, none)
  | _ :: value => (text.takeWhile (· ≠ '='), some (String.ofList value))

def fullyNamed? (known : List OptionName) (text : List Char) : Option OptionName :=
  known.find? fun name => name.long = text || name.letter?.any fun letter => ['-', letter] = text

/-- An option without a value, and letters that are the short names of further options. A letter
    that is no such name makes the text a value that the option cannot have. -/
def withLetters (known : List OptionName) (first : OptionName) : List Char → Argument
  | [] => .option first none
  | letter :: rest =>
    match known.find? fun name => name.letter? = some letter with
    | none => .option first (some (String.ofList (letter :: rest)))
    | some second =>
      if second.takesValue then
        .pair first second (if rest = [] then none else some (String.ofList rest))
      else withLetters known second rest

/-- An option whose short name has text after it. -/
def withTail (known : List OptionName) (name : OptionName) (tail : List Char) : Argument :=
  if name.takesValue then .option name (some (String.ofList tail)) else withLetters known name tail

/-- An option that is named in full before an equals sign. -/
def withValue (known : List OptionName) (name : OptionName) (short : Bool) (value : String) :
    Argument :=
  if short ∧ !name.takesValue ∧ value ≠ "" then withLetters known name value.toList
  else .option name (some value)

/-- What text may mean that names no option in full: a long name that is cut short, or a short name
    with text after it. -/
def candidates (known : List OptionName) : List Char → List Argument
  | '-' :: '-' :: rest =>
    let (start, value) := splitValue ('-' :: '-' :: rest)
    (known.filter fun name => start.isPrefixOf name.long).map (.option · value)
  | '-' :: letter :: tail =>
    (known.filter fun name => name.letter? = some letter).map (withTail known · tail)
  | _ => []

/-- Whether there is nothing left, or a newline only. -/
def isOver (text : List Char) : Bool :=
  text = [] || text = ['\n']

/-- Whether text is a hyphen and a number, with digits before a period or after it, and perhaps a
    newline. -/
def isNegativeNumber : List Char → Bool
  | '-' :: rest =>
    let after := rest.dropWhile Text.isDecimalDigit
    match after with
    | '.' :: decimals =>
      decimals.head?.any Text.isDecimalDigit && isOver (decimals.dropWhile Text.isDecimalDigit)
    | _ => rest.head?.any Text.isDecimalDigit && isOver after
  | _ => false

/-- Whether text can be an option at all: a hyphen that does not stand alone. -/
def looksLikeOption : List Char → Bool
  | '-' :: _ :: _ => true
  | _ => false

/-- What text is among the known options; nothing if it could mean several. -/
def ofText? (known : List OptionName) (text : String) : Option Argument :=
  let cs := text.toList
  let (start, value) := splitValue cs
  if !looksLikeOption cs then some (.plain text)
  else
    match fullyNamed? known cs, fullyNamed? known start, candidates known cs with
    | some name, _, _ => some (.option name none)
    | none, some name, _ => some (withValue known name (start.length = 2) (value.getD ""))
    | none, none, [found] => some found
    | none, none, _ :: _ :: _ => none
    | none, none, [] =>
      if isNegativeNumber cs || cs.contains ' ' then some (.plain text) else some .unknown

end Argument

end TurtleGraphics
