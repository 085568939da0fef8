import Std.Time.DateTime.Timestamp
import TurtleGraphics.Tool

/-! # The program

The first argument names the tool, the others are for the tool. The files that the tool may need are
read beforehand, and those that it changed are written afterwards.
-/

namespace TurtleGraphics

/-- What stands at a path in the file system. Only a directory can be followed by a period. -/
def nodeAt (path : String) : IO (Option Node) := do
  try
    discard (IO.FS.realPath (path ++ "/."))
    return some .directory
  catch _ =>
    try return some (.file 0 (.bytes (← IO.FS.readBinFile path)))
    catch _ => return none

/-- A file tree that knows a path and everything on the way to it. -/
def survey (tree : FileTree) (path : Path) : IO FileTree := do
  let mut found := tree
  for length in [0 : path.parts.length] do
    let step : Path := ⟨path.parts.take (length + 1)⟩
    match found.locate step, ← nodeAt step.toString with
    | .ok parts, some .directory => found := found.put parts .directory
    | .ok parts, some (.file _ content) => found := found.putContent parts content
    | _, _ => pure ()
  return found

/-- Write a file next to its place and then move it there. -/
def writeWhole (path : String) (data : ByteArray) : IO Unit := do
  let temporary := path ++ FileTree.temporarySuffix
  IO.FS.writeBinFile temporary data
  IO.FS.rename temporary path

def carryOut (path : Path) : Option Node → IO Unit
  | none => IO.FS.removeFile path.toString
  | some .directory => IO.FS.createDir path.toString
  | some (.file _ content) => writeWhole path.toString content.data

/-- A code point on a terminal. Half of a surrogate pair is shown as an escape. -/
def visible (p : CodePoint) : List Char :=
  match p.char? with
  | none => p.escape
  | some c => [c]

partial def readAll (stream : IO.FS.Stream) (found : ByteArray) : IO ByteArray := do
  let more ← stream.read 65536
  if more.isEmpty then return found else readAll stream (found ++ more)

/-- The number of this process, where the system tells it. -/
def processId : IO Record.ProcessId := do
  try
    let status ← IO.FS.readFile "/proc/self/stat"
    return (status.toList.takeWhile Char.isDigit).foldl
      (fun n c => 10 * n + (c.toNat - '0'.toNat)) 0
  catch _ => return 0

def currentTime : IO Seconds := do
  let now ← Std.Time.Timestamp.now
  return .real (Float.ofInt now.toMillisecondsSinceUnixEpoch.toInt / 1000.0)

/-- Fulfil a request with the files, the streams and the clock of the system. -/
def serve (request : Request) : IO UInt32 := do
  let mut files := FileTree.empty
  for name in request.config.text?.toList ++ request.source.toList do
    files ← survey files (Path.ofString name)
  let machine : Machine := {}
  match Settings.load machine.reader machine.nesting files
    (request.config.text?.map Path.ofString) with
  | .error _ => pure ()
  | .ok settings =>
    for name in (settings.logging.file.bind Phrase.toString?).toList do
      files ← survey files (Path.ofString name)
  match request.job with
  | .compile (some output) _ _ _ => files ← survey files (Path.ofString output)
  | .render (some output) _ _ => files ← survey files (Path.ofString output)
  | _ => pure ()
  let input ←
    if (request.source.getD "-") = "-" then readAll (← IO.getStdin) .empty else pure .empty
  let errors ← IO.getStderr
  let place : Workplace :=
    { files, directory := (← IO.currentDir).toString, input, terminal := ← errors.isTty,
      pid := ← processId, now := ← currentTime, machine }
  let (ending, after) := request.fulfil place
  for (path, node) in files.changes after.files do carryOut path node
  (← IO.getStdout).putStr after.output
  errors.putStr (String.ofList (after.errors.flatMap visible))
  match ending with
  | .ok code => return code.toUInt32
  | .error fault =>
    errors.putStrLn fault.message
    return 1

end TurtleGraphics

open TurtleGraphics in
/-- Run the tool that the first argument names. -/
def main (arguments : List String) : IO UInt32 := do
  match arguments with
  | [] =>
    IO.eprintln (String.intercalate "\n" (ToolName.all.map ToolName.usage))
    return 2
  | name :: rest =>
    match ToolName.ofName? name with
    | none =>
      IO.eprintln (String.intercalate "\n" (ToolName.all.map ToolName.usage))
      return 2
    | some tool =>
      match Request.ofArguments tool rest with
      | .error .help =>
        IO.println tool.usage
        return 0
      | .error .misuse =>
        IO.eprintln tool.usage
        return 2
      | .ok request => serve request
