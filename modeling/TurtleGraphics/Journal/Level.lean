import TurtleGraphics.Text.Uppercase

/-! # Levels of a log -/

namespace TurtleGraphics

/-- How much a record matters. -/
inductive Level where
  /-- Only for those who look for a fault. -/
  | debug
  /-- The usual course of events. -/
  | info
  /-- Something that may need attention. -/
  | warning
  /-- Something that failed. -/
  | error
  /-- Something that stops everything. -/
  | critical
  deriving Repr, DecidableEq

namespace Level

/-- The levels from the least severe up. -/
def all : List Level :=
  [.debug, .info, .warning, .error, .critical]

def name : Level → String
  | .debug => "DEBUG"
  | .info => "INFO"
  | .warning => "WARNING"
  | .error => "ERROR"
  | .critical => "CRITICAL"

/-- The weight of the level; a heavier record matters more. -/
def weight : Level → Nat
  | .debug => 10
  | .info => 20
  | .warning => 30
  | .error => 40
  | .critical => 50

def ofName? (name : String) : Option Level :=
  all.find? fun level => level.name = name

/-- The least weight that a name asks for. Besides the names of levels there are two short names,
    and one that asks for everything. -/
def threshold? (name : String) : Option Nat :=
  match ofName? name with
  | some level => some level.weight
  | none =>
    match name with
    | "WARN" => some 30
    | "FATAL" => some 50
    | "NOTSET" => some 0
    | _ => none

end Level

end TurtleGraphics
