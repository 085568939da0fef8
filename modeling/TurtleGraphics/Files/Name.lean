import TurtleGraphics.Files.Path

/-! # Names that cannot be written

A file system names files in UTF-8, which has no bytes for half of a surrogate pair. A phrase with
such a half names no file.
-/

namespace TurtleGraphics

/-- Halves of surrogate pairs in a row. -/
structure NameFault where
  first : CodePoint
  /-- Where it stands. -/
  position : Nat
  count : Nat
  deriving Repr, DecidableEq

namespace NameFault

def message (fault : NameFault) : String :=
  let what :=
    if fault.count = 1 then
      "character '" ++ String.ofList fault.first.escape ++ "' in position " ++
        toString fault.position
    else
      "characters in position " ++ toString fault.position ++ "-" ++
        toString (fault.position + fault.count - 1)
  "'utf-8' codec can't encode " ++ what ++ ": surrogates not allowed"

/-- The first halves of surrogate pairs in a phrase. -/
def of? (phrase : Phrase) : Option NameFault :=
  match phrase.dropWhile (!·.isHalf) with
  | [] => none
  | first :: rest =>
    some ⟨first, (phrase.takeWhile (!·.isHalf)).length, 1 + (rest.takeWhile (·.isHalf)).length⟩

end NameFault

namespace Phrase

def slash : CodePoint := .ofChar '/'

def splitNames (phrase : Phrase) : List Phrase :=
  phrase.foldr (fun point names =>
    if point = slash then [] :: names
    else
      match names with
      | [] => [[point]]
      | name :: rest => (point :: name) :: rest) [[]]

/-- The names of a path that is written as a phrase. -/
def names (phrase : Phrase) : List Phrase :=
  phrase.splitNames.filter fun name => name ≠ [] ∧ name ≠ ofString "."

/-- Names as the phrase of a path from the working directory. -/
def ofNames (names : List Phrase) : Phrase :=
  List.intercalate [slash] names

end Phrase

end TurtleGraphics
