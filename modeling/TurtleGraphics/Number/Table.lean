import TurtleGraphics.Memory
import TurtleGraphics.Number.Rounded

/-! # Tables of numbers

A table holds numbers of one kind along one side or several. The length of a side, and the bytes of
the whole, are counted in signed numbers of 64 bits, and not every table that can be counted can be
held.
-/

namespace TurtleGraphics

/-- What a place of a table holds. -/
inductive PlaceKind where
  | byte
  | double
  deriving Repr, DecidableEq

namespace PlaceKind

def name : PlaceKind → String
  | .byte => "uint8"
  | .double => "float64"

def size : PlaceKind → Nat
  | .byte => 1
  | .double => 8

end PlaceKind

/-- The kind and the sides of a table. -/
structure Table where
  /-- What each place holds. -/
  kind : PlaceKind
  /-- The lengths of the sides, the outermost first. -/
  sides : List Int
  deriving Repr, DecidableEq

/-- Why there is no table as it was asked for. -/
inductive TableFault where
  /-- A side is below zero. -/
  | negativeSide
  /-- A side does not fit a signed number of 64 bits. -/
  | sideTooLong
  /-- The number of bytes does not fit a signed number of 64 bits. -/
  | tooBig
  /-- So many bytes cannot be held. -/
  | beyondMemory (table : Table)
  deriving Repr, DecidableEq

namespace Table

/-- Signed numbers of 64 bits lie below this. -/
def countLimit : Int := Int.pow 2 63

def bytes (table : Table) : Int :=
  table.sides.foldl (· * ·) table.kind.size

/-- The sides as messages show them. One side alone keeps its comma. -/
def shape (table : Table) : String :=
  match table.sides with
  | [side] => "(" ++ toString side ++ ",)"
  | sides => "(" ++ ", ".intercalate (sides.map toString) ++ ")"

/-- The bytes multiplied by one side after the other, each product checked in turn. A side of zero
    does not count. -/
def checkBytes : Int → List Int → Except TableFault Unit
  | _, [] => .ok ()
  | bytes, side :: rest =>
    if side < 0 then .error .negativeSide
    else if side = 0 then checkBytes bytes rest
    else if countLimit ≤ bytes * side then .error .tooBig
    else checkBytes (bytes * side) rest

/-- Whether there is memory for the table, and why it cannot be had if not. -/
def check (memory : Memory) (table : Table) : Except TableFault Unit := do
  if table.sides.any fun side => side < -countLimit || countLimit ≤ side then throw .sideTooLong
  checkBytes table.kind.size table.sides
  if memory.bytes < table.bytes then throw (.beyondMemory table)

/-- Units of memory, each 1024 times the one before. -/
def units : List String := ["bytes", "KiB", "MiB", "GiB", "TiB", "PiB", "EiB"]

/-- A number of bytes in a unit that leaves less than 1024 of it. The quotient is a double, and is
    shown in three digits, or in four where there are four before the point. -/
def sizeText (bytes : Nat) : String :=
  let step := Nat.log2 (max bytes 1) / 10
  let quotient := Binary.rounded 53 ⟨bytes, -10 * (step : Int)⟩
  -- Rounding may reach the next unit.
  let (step, quotient) :=
    if quotient.nearestEven = 1024
      then (step + 1, { quotient with exponent := quotient.exponent - 10 })
    else (step, quotient)
  let significand := quotient.significand.natAbs
  let (whole, decimals) :=
    if step = 0 ∨ 1000 ≤ quotient.nearestEven then
      Decimal.withDecimals 0 significand quotient.exponent
    else (Decimal.rounded 3 significand quotient.exponent).split
  let point := if step = 0 then [] else ['.']
  String.ofList (whole ++ point ++ decimals) ++ " " ++ (units[step]?).getD ""

end Table

namespace TableFault

def message : TableFault → String
  | .negativeSide => "negative dimensions are not allowed"
  | .sideTooLong => "Maximum allowed dimension exceeded"
  | .tooBig =>
    "array is too big; \x60arr.size * arr.dtype.itemsize\x60 is larger than the maximum possible size."
  | .beyondMemory table =>
    "Unable to allocate " ++ Table.sizeText table.bytes.toNat ++ " for an array with shape " ++
      table.shape ++ " and data type " ++ table.kind.name

end TableFault

end TurtleGraphics
