import TurtleGraphics.Picture.Encoding

/-! # Picture formats

The suffix of a file's name, in small letters, says in which format a picture is written to it.
Some formats can be read only.
-/

namespace TurtleGraphics

/-- A format that pictures are written in. -/
inductive PictureFormat where
  /-- Rows from the top, each after a mark of how it is encoded. -/
  | png
  /-- Rows from the bottom, filled up to multiples of four bytes, after a header of two parts. -/
  | bmp
  /-- The same without the first part of the header. -/
  | dib
  /-- Rows from the top after three lines of text. -/
  | portable
  deriving Repr, DecidableEq

namespace PictureFormat

def ofSuffix? : String → Option PictureFormat
  | ".png" => some .png
  | ".bmp" => some .bmp
  | ".dib" => some .dib
  | ".pbm" | ".pgm" | ".ppm" | ".pnm" | ".pfm" => some .portable
  | _ => none

/-- The format that can only be read and that a suffix names. -/
def readOnly? : String → Option String
  | ".cur" => some "CUR"
  | ".dcx" => some "DCX"
  | ".fit" | ".fits" => some "FITS"
  | ".flc" | ".fli" => some "FLI"
  | ".ftc" | ".ftu" => some "FTEX"
  | ".gbr" => some "GBR"
  | ".iim" => some "IPTC"
  | ".mpeg" | ".mpg" => some "MPEG"
  | ".pcd" => some "PCD"
  | ".psd" => some "PSD"
  | ".pxr" => some "PIXAR"
  | ".ras" => some "SUN"
  | ".xpm" => some "XPM"
  | _ => none

end PictureFormat

def Picture.encode (picture : Picture) : PictureFormat → ByteArray
  | .png => picture.png
  | .bmp => picture.bmp
  | .dib => picture.dib
  | .portable => picture.portable

end TurtleGraphics
