import TurtleGraphics.Files.Tree
import TurtleGraphics.Picture.Amount
import TurtleGraphics.Text.Encoding
import TurtleGraphics.Text.Lowercase

/-! # Writing whole files

New content first goes to a temporary file beside the target, which then takes the target's place.
Readers see the old file or the new one, never a part. If the temporary file cannot be written or
moved it is removed again.

Every operation gives back the tree, also when it fails.
-/

namespace TurtleGraphics

/-- Why a file was not written. -/
inductive WriteFault where
  /-- The file system refused a step before or after the actual work. -/
  | file (fault : FileFault)
  /-- The path has no temporary name. -/
  | path (fault : PathFault)
  /-- The text has characters that the encoding does not cover. -/
  | encoding (fault : Text.EncodingFault)
  /-- The file could not be written or moved. -/
  | notWritten (path : Path) (fault : FileFault)
  /-- The picture could not be written or moved. -/
  | notSaved (path : Path) (fault : FileFault)
  /-- No picture format has the suffix. -/
  | unknownFormat (suffix : String)
  /-- The format that the suffix names can only be read. -/
  | readOnlyFormat (name : String)
  /-- The picture has no pixels. -/
  | noPixels
  /-- The amounts of the picture are no amounts of light. -/
  | amount (fault : AmountFault)
  deriving Repr, DecidableEq

namespace WriteFault

def message : WriteFault → String
  | .file fault => fault.message
  | .path fault => fault.message
  | .encoding fault => fault.message
  | .notWritten target fault =>
    "Failed to write " ++ target.toString ++ " atomically: " ++ fault.message
  | .notSaved target fault =>
    "Failed to save image " ++ target.toString ++ " atomically: " ++ fault.message
  | .unknownFormat suffix => "unknown file extension: " ++ suffix
  | .readOnlyFormat name => "'" ++ name ++ "'"
  | .noPixels => "tile cannot extend outside image"
  | .amount fault => fault.message

end WriteFault

namespace FileTree

/-- Remove the temporary file, if there is one, and wrap the fault that made it useless. A path that
    cannot be one at all is not cleaned up after. -/
def giveUp (tree : FileTree) (temporary : Path) (wrap : FileFault → WriteFault)
    (fault : FileFault) :
    FileTree × Option WriteFault :=
  if fault.reason = .nullCharacter then (tree, some (.file fault))
  else
    match tree.has temporary with
    | .error fault => (tree, some (.file fault))
    | .ok false => (tree, some (wrap fault))
    | .ok true =>
      match tree.unlink temporary with
      | .ok tree => (tree, some (wrap fault))
      | .error fault => (tree, some (.file fault))

/-- Write content to a temporary file and move it over the target. A fault of either step is wrapped
    once the temporary file is gone, whatever part of the content it holds. -/
def replaceBy (tree : FileTree) (temporary target : Path) (content : Content)
    (wrap : FileFault → WriteFault) (device : Device) : FileTree × Option WriteFault :=
  match tree.write temporary content device with
  | (written, some fault) => written.giveUp temporary wrap fault
  | (written, none) =>
    match written.move temporary target with
    | .error fault => written.giveUp temporary wrap fault
    | .ok moved => (moved, none)

def temporarySuffix : String := ".tmp"

/-- Write bytes to a file as a whole, making the directories above it. -/
def writeBytes (tree : FileTree) (target : Path) (data : ByteArray) (suffix : String)
    (device : Device := .endless) : FileTree × Option WriteFault :=
  match tree.ensureDirectory target.parent with
  | (tree, some fault) => (tree, some (.file fault))
  | (tree, none) =>
    match target.withSuffix (target.suffix ++ suffix) with
    | .error fault => (tree, some (.path fault))
    | .ok temporary => tree.replaceBy temporary target (.bytes data) (.notWritten target) device

def writeText (tree : FileTree) (target : Path) (text : String) (encoding : Text.Encoding)
    (device : Device := .endless) : FileTree × Option WriteFault :=
  match Text.encode encoding text with
  | .error fault => (tree, some (.encoding fault))
  | .ok data => tree.writeBytes target data temporarySuffix device

/-- The suffix that names a picture format: the last period of a file's name and what follows it, in
    small letters. Periods that start the name do not count. -/
def formatSuffix (path : Path) : String :=
  let name := path.name.toList.dropWhile (· = '.')
  let tail := (name.reverse.takeWhile (· ≠ '.')).reverse
  if tail.length = name.length then "" else Text.lowercase (String.ofList ('.' :: tail))

/-- The format to write a picture in, as the file's name says. -/
def formatOf (path : Path) : Except WriteFault PictureFormat :=
  let suffix := formatSuffix path
  match PictureFormat.ofSuffix? suffix, PictureFormat.readOnly? suffix with
  | some format, _ => return format
  | none, some name => throw (.readOnlyFormat name)
  | none, none => throw (.unknownFormat suffix)

/-- Start a temporary file for a picture without pixels. One that was there before is emptied, any
    other is removed. -/
def startOnly (tree : FileTree) (temporary target : Path) : FileTree × Option WriteFault :=
  match tree.write temporary (.bytes .empty) .endless, tree.has temporary with
  | (started, some fault), _ => started.giveUp temporary (.notSaved target) fault
  | (started, none), .ok true => (started, some .noPixels)
  | (_, none), _ => (tree, some .noPixels)

/-- Save a picture to a file as a whole. The temporary file keeps the suffix, which names the
    format. -/
def savePicture (tree : FileTree) (target : Path) (picture : Picture)
    (device : Device := .endless) : FileTree × Option WriteFault :=
  match tree.ensureDirectory target.parent with
  | (tree, some fault) => (tree, some (.file fault))
  | (tree, none) =>
    match target.withName (target.stem ++ temporarySuffix ++ target.suffix) with
    | .error fault => (tree, some (.path fault))
    | .ok temporary =>
      match formatOf temporary with
      | .error fault => (tree, some fault)
      | .ok format =>
        if picture.width = 0 ∨ picture.height = 0 then tree.startOnly temporary target
        else tree.replaceBy temporary target (.picture format picture) (.notSaved target) device

/-- Save a picture that was given in amounts of a kind. The kind must have the brightest amount,
    which is looked at once the directories are there. -/
def saveAmounts (tree : FileTree) (target : Path) (kind : AmountKind) (picture : Picture)
    (device : Device := .endless) : FileTree × Option WriteFault :=
  match kind.lacksBrightest? with
  | none => tree.savePicture target picture device
  | some lacking =>
    match tree.ensureDirectory target.parent with
    | (tree, some fault) => (tree, some (.file fault))
    | (tree, none) => (tree, some (.amount lacking))

end FileTree

end TurtleGraphics
