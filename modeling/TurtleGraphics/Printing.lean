import TurtleGraphics.Datum

/-! # What can be printed

An integer is printed in decimal digits up to a number of them, and nested data up to a depth. What
needs a text that there is not raises a fault of its own in place of its own message.
-/

namespace TurtleGraphics

/-- Why there is no text of a value. -/
inductive PrintFault where
  /-- An integer has too many digits. -/
  | tooManyDigits
  /-- Data is nested too deep. -/
  | tooDeep
  deriving Repr, DecidableEq

namespace PrintFault

def message : PrintFault → String
  | .tooManyDigits =>
    "Exceeds the limit (" ++ toString mostDigits ++
      " digits) for integer string conversion; use sys.set_int_max_str_digits() to increase the limit"
  | .tooDeep => "maximum recursion depth exceeded while getting the repr of an object"

/-- Why an integer cannot be printed, if it cannot. -/
def ofInt? (value : Int) : Option PrintFault :=
  if value.natAbs < Nat.pow 10 mostDigits then none else some .tooManyDigits

end PrintFault

mutual

/-- Why a value cannot be printed, if it cannot. There is room for `nesting` levels inside it. -/
def Datum.printFault? (nesting : Nat) : Datum → Option PrintFault
  | .int value => PrintFault.ofInt? value
  | .list items => itemsFault? nesting items
  | .mapping entries => entriesFault? nesting entries
  | _ => none

def Datum.itemsFault? : Nat → List Datum → Option PrintFault
  | _, [] => none
  | 0, _ :: _ => some .tooDeep
  | nesting + 1, item :: rest => (item.printFault? nesting).or (itemsFault? (nesting + 1) rest)

def Datum.entriesFault? : Nat → List (Phrase × Datum) → Option PrintFault
  | _, [] => none
  | 0, _ :: _ => some .tooDeep
  | nesting + 1, (_, value) :: rest =>
    (value.printFault? nesting).or (entriesFault? (nesting + 1) rest)

end

/-- What a caller meets where there may be no text for a fault: the fault, or that there is none. -/
inductive Raised (ε : Type) where
  | fault (fault : ε)
  | printing (fault : PrintFault)
  deriving Repr, DecidableEq

namespace Raised

/-- What is raised for a fault whose text cannot be printed for a reason, or can. -/
def of {ε : Type} (fault : ε) : Option PrintFault → Raised ε
  | none => .fault fault
  | some unprinted => .printing unprinted

end Raised

end TurtleGraphics
