/-! # Checksums

Image files carry two checksums of their bytes: the remainder of a division of polynomials, and a
pair of sums.
-/

namespace TurtleGraphics.Picture

/-- The divisor of the remainder, with its lowest power in the highest bit. -/
def divisor : UInt32 := 0xedb88320

/-- One step of the division. -/
def divideBit (remainder : UInt32) : UInt32 :=
  if remainder &&& 1 = 1 then (remainder >>> 1) ^^^ divisor else remainder >>> 1

/-- Several steps of the division. -/
def divideBits : Nat → UInt32 → UInt32
  | 0, remainder => remainder
  | n + 1, remainder => divideBits n (divideBit remainder)

/-- The remainder that each byte leaves. -/
def byteRemainders : Array UInt32 :=
  (Array.range 256).map fun n => divideBits 8 n.toUInt32

/-- Divide one byte more. -/
def divideByte (remainder : UInt32) (byte : UInt8) : UInt32 :=
  let index := ((remainder ^^^ byte.toUInt32) &&& 0xff).toNat
  (byteRemainders[index]?.getD 0) ^^^ (remainder >>> 8)

/-- The checksum of a part of a file: the remainder, with all bits changed before and after. -/
def remainderOf (data : ByteArray) : UInt32 :=
  data.foldl divideByte 0xffffffff ^^^ 0xffffffff

/-- What the two sums are reduced by, the largest prime of sixteen bits. -/
def sumModulus : UInt32 := 65521

/-- The checksum of packed bytes: one plus their sum, and above it the sum of all such sums. -/
def sumsOf (data : ByteArray) : UInt32 :=
  let (total, totals) := data.foldl
    (fun (total, totals) byte =>
      let total := (total + byte.toUInt32) % sumModulus
      (total, (totals + total) % sumModulus)) ((1 : UInt32), (0 : UInt32))
  totals <<< 16 ||| total

end TurtleGraphics.Picture
