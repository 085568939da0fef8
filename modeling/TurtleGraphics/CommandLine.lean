import TurtleGraphics.CommandLine.Argument
import TurtleGraphics.Journal.Level

/-! # Command lines

A command line asks a tool for one piece of work. Options may stand anywhere; what stands for itself
names the source file, and there is at most one of that. Two hyphens alone say that no options
follow. As the value of an option they stand for none: the option is given, but says nothing.
-/

namespace TurtleGraphics

/-- What an option that takes a value says. -/
inductive OptionValue where
  | absent
  | nothing
  | text (value : String)
  deriving Repr, DecidableEq

namespace OptionValue

/-- The value, if there is one. -/
def text? : OptionValue → Option String
  | .text value => some value
  | _ => none

end OptionValue

/-- What a tool is asked to do. -/
inductive Job where
  /-- Compile to a file or to standard output, as a page of some title or as bare statements. -/
  | compile (output : Option String) (raw : Bool) (title : String) (trace : Bool)
  /-- Report what the program does, and each line if asked to. -/
  | trace (lines : Bool)
  /-- Save an image, with the turtle's marker or without. It may turn out that no file was named. -/
  | render (output : Option String) (marker : Bool) (trace : Bool)
  deriving Repr, DecidableEq

namespace Job

def tool : Job → ToolName
  | .compile _ _ _ _ => .compile
  | .trace _ => .trace
  | .render _ _ _ => .render

end Job

/-- A job, and what every tool is told. -/
structure Request where
  /-- The source file; without one the source text is on standard input. -/
  source : Option String
  /-- The settings file, if it is not the standard settings that count. -/
  config : OptionValue
  /-- The level that takes the place of the configured one. -/
  level : Option Level
  job : Job
  deriving Repr, DecidableEq

/-- Why a command line asks for no work. -/
inductive Refusal where
  /-- It asks how the tool is used. -/
  | help
  /-- It does not say what the tool needs, or more than it knows. -/
  | misuse
  deriving Repr, DecidableEq

/-- How an option is written, with a value if it takes one. -/
def OptionName.usage (name : OptionName) : String :=
  let long := String.ofList name.long
  "[" ++ (if name.takesValue then long ++ " VALUE" else long) ++ "]"

def ToolName.usage (tool : ToolName) : String :=
  "usage: " ++ " ".intercalate (tool.name :: tool.options.map OptionName.usage) ++ " [source]"

/-- The arguments of a command line, sorted. -/
structure Arguments where
  source : Option String := none
  /-- The options that were given, the last one first, with their values. -/
  options : List (OptionName × Option String) := []
  /-- Whether the last argument was the source file. -/
  sourceLast : Bool := false
  /-- Whether there was an argument too many. -/
  excess : Bool := false
  deriving Repr, DecidableEq

namespace Arguments

def addPlain (found : Arguments) (text : String) : Arguments :=
  match found.source with
  | none => { found with source := some text, sourceLast := true }
  | some _ => { found with sourceLast := false, excess := true }

/-- What stands for no value. -/
def noValue : String := "--"

/-- Add an option with its value, if it has one. Only levels restrict it. -/
def addOption (found : Arguments) (name : OptionName) (value : Option String) :
    Except Refusal Arguments :=
  let value := value.filter (· ≠ noValue)
  if name = .help then .error .help
  else if name = .logLevel ∧ value.any fun text => (Level.ofName? text).isNone then .error .misuse
  else .ok { found with options := (name, value) :: found.options, sourceLast := false }

/-- Add arguments, the values of options among them. -/
def addAll (found : Arguments) : List Argument → Except Refusal Arguments
  | [] => .ok found
  | .plain text :: rest => addAll (found.addPlain text) rest
  | .unknown :: rest => addAll { found with sourceLast := false, excess := true } rest
  | .pair first second (some value) :: rest => do
    addAll (← (← found.addOption first none).addOption second (some value)) rest
  | .pair first second none :: rest => do
    match rest with
    | .plain value :: rest =>
      addAll (← (← found.addOption first none).addOption second (some value)) rest
    | _ => throw .misuse
  | .option name (some value) :: rest => do
    if !name.takesValue then throw .misuse
    addAll (← found.addOption name (some value)) rest
  | .option name none :: rest => do
    if !name.takesValue then addAll (← found.addOption name none) rest
    else
      match rest with
      | .plain value :: rest => addAll (← found.addOption name (some value)) rest
      | _ => throw .misuse

/-- Add what follows two hyphens. They may follow the source file, but then nothing else may. -/
def addLast (found : Arguments) (rest : List String) : Arguments :=
  match found.source, rest with
  | none, _ => rest.foldl addPlain found
  | some _, [] => { found with excess := found.excess || !found.sourceLast }
  | some _, _ :: _ => { found with excess := true }

def ofList (known : List OptionName) (arguments : List String) : Except Refusal Arguments := do
  let before := arguments.takeWhile (· ≠ noValue)
  match before.mapM (Argument.ofText? known) with
  | none => throw .misuse
  | some classified =>
    let found ← addAll {} classified
    match arguments.dropWhile (· ≠ noValue) with
    | [] => return found
    | _ :: rest => return found.addLast rest

/-- What an option said when it was given last. -/
def value (found : Arguments) (name : OptionName) : OptionValue :=
  match found.options.lookup name with
  | none => .absent
  | some none => .nothing
  | some (some text) => .text text

def has (found : Arguments) (name : OptionName) : Bool :=
  (found.options.lookup name).isSome

end Arguments

namespace Request

/-- The title of a page. One that says nothing is shown as an empty list. -/
def titleOf : OptionValue → String
  | .absent => "Logo"
  | .nothing => "[]"
  | .text title => title

/-- The job that sorted arguments ask a tool for. An image needs a file to be saved to. -/
def jobOf (found : Arguments) : ToolName → Except Refusal Job
  | .compile => .ok (.compile (found.value .output).text? (found.has .raw)
      (titleOf (found.value .title)) (found.has .trace))
  | .trace => .ok (.trace (found.has .lines))
  | .render =>
    if found.has .output then
      .ok (.render (found.value .output).text? (!found.has .noTurtle) (found.has .trace))
    else .error .misuse

def ofArguments (tool : ToolName) (arguments : List String) : Except Refusal Request := do
  let found ← Arguments.ofList tool.options arguments
  if found.excess then throw .misuse
  return {
    source := found.source
    config := found.value .config
    level := (found.value .logLevel).text?.bind Level.ofName?
    job := ← jobOf found tool }

end Request

end TurtleGraphics
