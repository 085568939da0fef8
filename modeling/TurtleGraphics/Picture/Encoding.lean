import TurtleGraphics.Picture
import TurtleGraphics.Picture.Checksum

/-! # Image files

Pictures are written as PNG, BMP, DIB or portable files, with eight bits for each amount and without
packing.
-/

namespace TurtleGraphics.Picture

/-- A number in four bytes, the most significant first. -/
def bigEndian (n : UInt32) : List UInt8 :=
  [(n >>> 24).toUInt8, (n >>> 16).toUInt8, (n >>> 8).toUInt8, n.toUInt8]

/-- A number in two bytes, the least significant first. -/
def littleEndianShort (n : Nat) : List UInt8 :=
  [n.toUInt8, (n / 256).toUInt8]

/-- A number in four bytes, the least significant first. -/
def littleEndian (n : Nat) : List UInt8 :=
  (bigEndian n.toUInt32).reverse

def ofList (bytes : List UInt8) : ByteArray :=
  ⟨bytes.toArray⟩

/-- A part of a PNG file: its length, its name, its data, and the checksum of name and data. -/
def chunk (name : String) (data : ByteArray) : ByteArray :=
  let named := name.toUTF8 ++ data
  ofList (bigEndian data.size.toUInt32) ++ named ++ ofList (bigEndian (remainderOf named))

/-- The largest number of bytes in a block that is not packed. -/
def blockSize : Nat := 65535

/-- Bytes as blocks that are not packed. Only the last block is marked as such. -/
def blocks (data : ByteArray) : Nat → Nat → ByteArray
  | 0, _ => .empty
  | count + 1, start =>
    let size := min blockSize (data.size - start)
    let sizes := littleEndianShort size ++ littleEndianShort (65535 - size)
    ofList ((if count = 0 then 1 else 0) :: sizes) ++ data.extract start (start + size) ++
      blocks data count (start + blockSize)

/-- Bytes as a stream of blocks that are not packed. -/
def unpacked (data : ByteArray) : ByteArray :=
  let count := max 1 ((data.size + blockSize - 1) / blockSize)
  ofList [0x78, 0x01] ++ blocks data count 0 ++ ofList (bigEndian (sumsOf data))

/-- The amounts of a pixel as a PNG file holds them. -/
def pngPixel (mode : PictureMode) (pixel : Rgb) : List UInt8 :=
  match mode with
  | .gray => [pixel.red]
  | .rgb => [pixel.red, pixel.green, pixel.blue]

/-- A picture as a PNG file. Each row starts with a zero, since it is not encoded any further. -/
def png (picture : Picture) : ByteArray :=
  let kind : UInt8 := match picture.mode with | .gray => 0 | .rgb => 2
  let header := bigEndian picture.width.toUInt32 ++ bigEndian picture.height.toUInt32 ++
    [8, kind, 0, 0, 0]
  let rows := picture.rows.foldl (fun bytes row =>
    row.foldl (fun bytes pixel => (pngPixel picture.mode pixel).foldl ByteArray.push bytes)
      (bytes.push 0)) ByteArray.empty
  ofList [0x89, 0x50, 0x4e, 0x47, 0x0d, 0x0a, 0x1a, 0x0a] ++ chunk "IHDR" (ofList header) ++
    chunk "IDAT" (unpacked rows) ++ chunk "IEND" .empty

/-- The amounts of a pixel as a BMP file holds them. -/
def bmpPixel (mode : PictureMode) (pixel : Rgb) : List UInt8 :=
  match mode with
  | .gray => [pixel.red]
  | .rgb => [pixel.blue, pixel.green, pixel.red]

/-- The table of the grays of a BMP file. -/
def bmpGrays : List UInt8 :=
  (List.range 256).flatMap fun n => [n.toUInt8, n.toUInt8, n.toUInt8, 0]

/-- A picture as a bitmap, and where its pixels start. Rows start at the bottom and are filled up to
    multiples of four bytes. -/
def bitmap (picture : Picture) : ByteArray × Nat :=
  let (bits, table) : Nat × List UInt8 :=
    match picture.mode with
    | .gray => (8, bmpGrays)
    | .rgb => (24, [])
  let filling := (4 - picture.width * (bits / 8) % 4) % 4
  let rows := picture.rows.reverse.foldl (fun bytes row =>
    let written := row.foldl (fun bytes pixel =>
      (bmpPixel picture.mode pixel).foldl ByteArray.push bytes) bytes
    written ++ ofList (List.replicate filling 0)) ByteArray.empty
  let header := littleEndian 40 ++ littleEndian picture.width ++ littleEndian picture.height ++
    littleEndianShort 1 ++ littleEndianShort bits ++ littleEndian 0 ++ littleEndian rows.size ++
    littleEndian 3780 ++ littleEndian 3780 ++ littleEndian (table.length / 4) ++
    littleEndian (table.length / 4)
  (ofList (header ++ table) ++ rows, header.length + table.length)

/-- A picture as a DIB file, which is a bitmap. -/
def dib (picture : Picture) : ByteArray :=
  picture.bitmap.1

/-- A picture as a BMP file: a bitmap after a header that tells its size and where its pixels
    start. -/
def bmp (picture : Picture) : ByteArray :=
  let (bitmap, start) := picture.bitmap
  let headerSize := 14
  "BM".toUTF8 ++ ofList (littleEndian (headerSize + bitmap.size) ++ littleEndian 0 ++
    littleEndian (headerSize + start)) ++ bitmap

/-- A picture as a portable file: its kind, its size and the largest amount in text, then the
    amounts as a PNG file holds them. -/
def portable (picture : Picture) : ByteArray :=
  let kind := match picture.mode with | .gray => "P5" | .rgb => "P6"
  let header := kind ++ "\n" ++ toString picture.width ++ " " ++ toString picture.height ++
    "\n255\n"
  picture.rows.foldl (fun bytes row =>
    row.foldl (fun bytes pixel => (pngPixel picture.mode pixel).foldl ByteArray.push bytes) bytes)
    header.toUTF8

end TurtleGraphics.Picture
