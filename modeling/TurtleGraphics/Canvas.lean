import TurtleGraphics.Canvas.Clip
import TurtleGraphics.Number.Table

/-! # The canvas

A canvas is a rectangle of pixels, row by row from the top. A line is sampled once per pixel along
its longer side. Only the samples on the canvas are taken, so the work for a line is bounded by the
canvas, however long the line is.
-/

namespace TurtleGraphics

/-- Why a line cannot be drawn. -/
inductive DrawFault where
  /-- A position has no counterpart among the numbers that lines are sampled in. -/
  | number (fault : NumberFault)
  /-- The samples cannot be counted. -/
  | tooManySamples
  /-- The samples cannot be held. -/
  | table (fault : TableFault)
  deriving Repr, DecidableEq

namespace DrawFault

def message : DrawFault → String
  | .number fault => fault.message
  | .tooManySamples => "Maximum allowed size exceeded"
  | .table fault => fault.message

end DrawFault

namespace Segment

/-- The number of pixels from start to end along the longer side. -/
def steps (s : Segment) : Nat :=
  max (s.x2 - s.x1).natAbs (s.y2 - s.y1).natAbs

variable (K : Type) [Scalar K]

/-- The numbers of the first and last sample within a range of parameters. -/
def sampleRange (s : Segment) (span : Span K) : Except NumberFault (Int × Int) := do
  let length ← Scalar.ofInt (s.steps : Int)
  let first ← Scalar.floor (Scalar.mul span.first length)
  let last ← Scalar.ceil (Scalar.mul span.last length)
  return (max first 0, min last s.steps)

/-- How many samples there are from one number to another. The count is rounded to a double, and
    must not leave the signed numbers of 64 bits; the bound above them turns into the one below. -/
def sampleCount (memory : Memory) (first last : Int) : Except DrawFault Nat := do
  let count := (Binary.rounded 53 ⟨last + 1 - first, 0⟩).floor
  if count < -Table.countLimit ∨ Table.countLimit < count then throw .tooManySamples
  if count ≤ 0 ∨ count = Table.countLimit then return 0
  (Table.check memory ⟨.double, [count]⟩).mapError .table
  return count.toNat

/-- The pixel of the sample `position` steps from the start. -/
def sampleAt (s : Segment) (position : K) : Except NumberFault (Int × Int) := do
  if s.steps = 0 then return (s.x1, s.y1)
  let along (start change : Int) : Except NumberFault Int := do
    let slope := Scalar.ratio change s.steps
    Scalar.nearestEven (Scalar.add (Scalar.mul position slope) (← Scalar.ofInt start))
  return (← along s.x1 (s.x2 - s.x1), ← along s.y1 (s.y2 - s.y1))

/-- The pixels on the canvas among `count` samples, after those of `found` in reverse. The sample
    `index` lies `index` times `advance` beyond the first one. -/
def samplesFrom (s : Segment) (width height : Nat) (first advance : K) (found : List (Int × Int))
    (index : Nat) : Nat → Except NumberFault (List (Int × Int))
  | 0 => .ok found.reverse
  | count + 1 => do
    let offset ← Scalar.ofInt (index : Int)
    let (x, y) ← s.sampleAt K (Scalar.add first (Scalar.mul offset advance))
    let inside := 0 ≤ x && x < width && 0 ≤ y && y < height
    samplesFrom s width height first advance (if inside then (x, y) :: found else found) (index + 1)
      count

/-- The pixels of a line on a canvas of the given size. Positions advance by the difference of the
    first two, which is one wherever the numbers are exact. -/
def samples (memory : Memory) (s : Segment) (width height : Nat) :
    Except DrawFault (List (Int × Int)) := do
  match ← (s.clip K width height).mapError .number with
  | none => return []
  | some span =>
    let (first, last) ← (s.sampleRange K span).mapError .number
    let count ← sampleCount memory first last
    (do
      let start : K ← Scalar.ofInt first
      let second : K ← Scalar.ofInt (first + 1)
      s.samplesFrom K width height start (Scalar.sub second start) [] 0 count).mapError .number

end Segment

/-- A rectangle of pixels. -/
structure Canvas where
  width : Nat
  height : Nat
  /-- The pixels, row by row from the top. -/
  pixels : Array Rgb
  /-- Every row is complete. -/
  size_pixels : pixels.size = width * height := by simp

namespace Canvas

def blank (width height : Nat) (rgb : Rgb) : Canvas :=
  { width, height, pixels := Array.replicate (width * height) rgb }

def ofSettings (settings : Settings) (memory : Memory) : Except TableFault Canvas := do
  let (width, height) := (settings.canvas.width, settings.canvas.height)
  Table.check memory ⟨.byte, [height, width, 3]⟩
  return blank width.toNat height.toNat (settings.palette settings.turtle.paper)

def pixel? (canvas : Canvas) (x y : Int) : Option Rgb :=
  if 0 ≤ x ∧ x < canvas.width ∧ 0 ≤ y ∧ y < canvas.height then
    canvas.pixels[y.toNat * canvas.width + x.toNat]?
  else none

/-- The canvas with one pixel changed; pixels off the canvas are left alone. -/
def set (canvas : Canvas) (x y : Int) (rgb : Rgb) : Canvas :=
  if 0 ≤ x ∧ x < canvas.width ∧ 0 ≤ y ∧ y < canvas.height then
    match canvas with
    | ⟨width, height, pixels, size_pixels⟩ =>
      { width, height
        pixels := pixels.setIfInBounds (y.toNat * width + x.toNat) rgb
        size_pixels := by simp [size_pixels] }
  else canvas

def clear (canvas : Canvas) (rgb : Rgb) : Canvas :=
  blank canvas.width canvas.height rgb

def drawLine (memory : Memory) (canvas : Canvas) (rgb : Rgb) (s : Segment) :
    Canvas × Option DrawFault :=
  match s.samples Float memory canvas.width canvas.height with
  | .error fault => (canvas, some fault)
  | .ok points => (points.foldl (fun canvas (x, y) => canvas.set x y rgb) canvas, none)

/-- The canvas with several lines, up to the first that cannot be drawn. -/
def drawLines (memory : Memory) (rgb : Rgb) : List Segment → Canvas → Canvas × Option DrawFault
  | [], canvas => (canvas, none)
  | s :: rest, canvas =>
    match canvas.drawLine memory rgb s with
    | (canvas, none) => drawLines memory rgb rest canvas
    | (canvas, some fault) => (canvas, some fault)

/-- The pixels of each row, from the top. -/
def rows (canvas : Canvas) : List (List Rgb) :=
  (List.range canvas.height).map fun y =>
    (canvas.pixels.extract (y * canvas.width) ((y + 1) * canvas.width)).toList

end Canvas

end TurtleGraphics
