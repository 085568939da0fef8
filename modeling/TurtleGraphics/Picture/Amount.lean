import TurtleGraphics.Datum
import TurtleGraphics.Number.Double
import TurtleGraphics.Picture

/-! # Amounts of light

A picture may be given as rows of numbers of one kind. Each number stands for the nearest amount
that a pixel can have, without its fractional part. A kind may be too narrow for a number, or for
the brightest amount.
-/

namespace TurtleGraphics

/-- The numbers that amounts of light are given in. -/
inductive AmountKind where
  /-- Truth values. -/
  | truth
  /-- Integers of so many bits, with a sign or without one. -/
  | whole (signed : Bool) (bits : Nat)
  /-- Numbers with so many significant bits. -/
  | real (bits : Nat)
  deriving Repr, DecidableEq

namespace AmountKind

def name : AmountKind → String
  | .truth => "bool"
  | .whole signed bits => (if signed then "int" else "uint") ++ toString bits
  | .real 11 => "float16"
  | .real 24 => "float32"
  | .real _ => "float64"

/-- Every kind that has a name of its own. -/
def all : List AmountKind :=
  .truth :: [8, 16, 32, 64].flatMap (fun bits => [.whole true bits, .whole false bits]) ++
    [.real 11, .real 24, .real 53]

def ofName? (name : String) : Option AmountKind :=
  all.find? fun kind => kind.name = name

end AmountKind

/-- Why rows of numbers are no picture. -/
inductive AmountFault where
  /-- The kind does not have the integer. -/
  | outOfBounds (kind : AmountKind) (n : Int)
  /-- No kind has the integer. -/
  | tooLarge
  /-- The number stands for none of the kind. -/
  | number (fault : NumberFault)
  deriving Repr, DecidableEq

namespace AmountFault

def message : AmountFault → String
  | .outOfBounds kind n => "Python integer " ++ toString n ++ " out of bounds for " ++ kind.name
  | .tooLarge => "Python int too large to convert to C long"
  | .number fault => fault.message

end AmountFault

namespace AmountKind

/-- How many integers of so many bits there are. -/
def count (bits : Nat) : Int := Int.pow 2 bits

def least (signed : Bool) (bits : Nat) : Int :=
  if signed then -count (bits - 1) else 0

def greatest (signed : Bool) (bits : Nat) : Int :=
  least signed bits + count bits - 1

def checked (signed : Bool) (bits : Nat) (n : Int) : Except AmountFault Int :=
  if least signed bits ≤ n ∧ n ≤ greatest signed bits then return n
  else if least true 64 ≤ n ∧ n ≤ greatest true 64 then throw (.outOfBounds (.whole signed bits) n)
  else throw .tooLarge

/-- The integer of so many bits that differs from a given one by a multiple of their count. The
    given one may be any integer of 64 bits, and any of the kind. -/
def wrapped (signed : Bool) (bits : Nat) (n : Int) : Except AmountFault Int :=
  if least true 64 ≤ n ∧ n ≤ max (greatest true 64) (greatest signed bits) then
    return least signed bits + (n - least signed bits) % count bits
  else throw .tooLarge

def clamp (n : Int) : UInt8 :=
  (max 0 (min n 255)).toNat.toUInt8

/-- The amount that a number of a kind stands for. A number with a fractional part loses it where
    integers are asked for; what is left goes round where it does not fit. -/
def amount (kind : AmountKind) (given : Datum) : Except AmountFault UInt8 :=
  match kind, given with
  | .truth, given => return if given.isEmpty then 0 else 1
  | _, .bool value => return if value then 1 else 0
  | .whole signed bits, .int n => return clamp (← checked signed bits n)
  | .whole signed bits, .float x => do
    let n ← (Double.truncate x).mapError .number
    return clamp (← wrapped signed bits n)
  | .real _, .int n => do
    discard ((Double.ofInt n).mapError .number)
    return clamp n
  | .real bits, .float x =>
    match Binary.ofFloat x with
    | .ok b => return clamp (b.rounded bits).truncate
    | .error _ => return if 0 < x then 255 else 0
  | _, _ => return 0

/-- A pixel given by one amount or by three. -/
def pixel (kind : AmountKind) : Datum → Except AmountFault Rgb
  | .list (red :: green :: blue :: _) =>
    return ⟨← kind.amount red, ← kind.amount green, ← kind.amount blue⟩
  | other => do
    let light ← kind.amount other
    return ⟨light, light, light⟩

/-- Why the brightest amount is no number of the kind, if it is none. -/
def lacksBrightest? : AmountKind → Option AmountFault
  | .whole signed bits =>
    if greatest signed bits < 255 then some (.outOfBounds (.whole signed bits) 255) else none
  | _ => none

end AmountKind

namespace Picture

/-- The pixels of a row; a single number is a row of one. -/
def rowOf : Datum → List Datum
  | .list pixels => pixels
  | pixel => [pixel]

def ofDatum (kind : AmountKind) (rows : Datum) : Except AmountFault Picture := do
  let given := (rowOf rows).map rowOf
  let first := given.head?.getD [.null]
  let mode :=
    match first.head? with
    | some (.list _) => PictureMode.rgb
    | _ => PictureMode.gray
  return ⟨mode, first.length, given.length, ← given.mapM (·.mapM kind.pixel)⟩

end Picture

end TurtleGraphics
