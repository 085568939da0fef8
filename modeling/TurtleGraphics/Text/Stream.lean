import TurtleGraphics.Text.Encoding
import TurtleGraphics.Text.Lines

/-! # Text read piece by piece

A stream hands its bytes out in pieces, and each piece is decoded as soon as it is there. What
starts a character at the end of a piece waits for the next one. So a fault is found at a position
of the piece that it was found in, counted from the bytes that had waited.

Readers ask for a number of characters at a time. Where these have turned out to take more bytes
than a usual piece, the next piece is larger.
-/

namespace TurtleGraphics.Text

/-- A stream, between two of its pieces. -/
structure Stream where
  left : List UInt8
  /-- The bytes that start a character. -/
  waiting : List UInt8 := []
  /-- Whether the last piece ended in a carriage return, which may be half of a line end. -/
  returned : Bool := false
  /-- How many characters the reader still asks for. -/
  wanted : Nat
  /-- How many bytes a character of the last piece took. -/
  bytesPerCharacter : Float := 0.0

namespace Stream

/-- The characters that bytes write, and the bytes at their end that start another one. -/
def decodePiece (bytes : List UInt8) : Except DecodingFault (List Char × List UInt8) :=
  match decodeFrom [] 0 0 bytes with
  | .ok cs => .ok (cs, [])
  | .error fault =>
    if fault.fault = .unexpectedEnd then
      return (← decodeFrom [] 0 0 (bytes.take fault.position), bytes.drop fault.position)
    else .error fault

def usualSize : Nat := 8192

/-- The number of characters that a reader asks for at a time. -/
def request : Nat := 4096

def pieceSize (stream : Stream) : Nat :=
  let likely := stream.bytesPerCharacter * stream.wanted.toFloat
  max usualSize likely.toUInt64.toNat

/-- The number of characters of a piece as the reader counts them, with line ends of one character.
    A carriage return at the end is left for the next piece. -/
def countOf (returned : Bool) (cs : List Char) : Nat :=
  let all := if returned then '\r' :: cs else cs
  (plainNewlines (if all.getLast? = some '\r' then all.dropLast else all)).length

/-- The characters of the next piece, and the stream after it. -/
def next (stream : Stream) : Except DecodingFault (List Char × Stream) := do
  let size := stream.pieceSize
  let piece := stream.left.take size
  let (cs, waiting) ← decodePiece (stream.waiting ++ piece)
  let count := countOf stream.returned cs
  let asked := (request : Int) - ((count : Int) - stream.wanted) % request
  return (cs, {
    left := stream.left.drop size
    waiting
    returned := cs.getLast? = some '\r' || stream.returned && cs.isEmpty
    wanted := asked.toNat
    bytesPerCharacter := if count = 0 then 0.0 else piece.length.toFloat / count.toFloat })

/-- Every character that is left, read in at most so many pieces. At the end nothing may wait. -/
def readAll : Nat → Stream → Except DecodingFault (List Char)
  | 0, stream => decodeFrom [] 0 0 stream.waiting
  | pieces + 1, stream =>
    if stream.left.isEmpty then decodeFrom [] 0 0 stream.waiting
    else do
      let (cs, stream) ← stream.next
      return cs ++ (← readAll pieces stream)

end Stream

/-- The text that the bytes of a stream write in UTF-8. Each piece has at least the usual number of
    bytes, so their number is bounded. -/
def decodeStream (bytes : ByteArray) : Except DecodingFault String :=
  return String.ofList (← Stream.readAll (bytes.size / Stream.usualSize + 1)
    { left := bytes.toList, wanted := Stream.request })

end TurtleGraphics.Text
