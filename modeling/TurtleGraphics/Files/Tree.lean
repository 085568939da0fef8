import TurtleGraphics.Files.Path
import TurtleGraphics.Picture.Format

/-! # File trees

A file tree says what each path is: a directory, a file, or nothing. The working directory, those
above it and the root always are directories. Each operation changes the tree as a file system
would, or gives the reason why it cannot.

A file has a number of its own, which stays with it when it gets new content or is moved. Whoever
holds the number can write to the file wherever it has gone, until it is removed. No two paths share
a file.

New content is written byte by byte. A device may break that off, and then the file holds what was
written so far.
-/

namespace TurtleGraphics

/-- What a file holds. -/
inductive Content where
  /-- Bytes. -/
  | bytes (data : ByteArray)
  /-- A picture in a format, and bytes that were added behind it. -/
  | picture (format : PictureFormat) (picture : Picture) (rest : ByteArray := .empty)

instance : DecidableEq Content
  | .bytes a, .bytes b =>
      decidable_of_iff (a.data = b.data) (by rw [Content.bytes.injEq, ByteArray.ext_iff])
  | .picture format a rest, .picture format' b rest' =>
    decidable_of_iff (format = format' ∧ a = b ∧ rest.data = rest'.data)
      (by rw [Content.picture.injEq, ByteArray.ext_iff])
  | .bytes _, .picture _ _ _ | .picture _ _ _, .bytes _ => isFalse nofun

namespace Content

def data : Content → ByteArray
  | .bytes data => data
  | .picture format image rest => image.encode format ++ rest

def append : Content → ByteArray → Content
  | .bytes data, more => .bytes (data ++ more)
  | .picture format image rest, more => .picture format image (rest ++ more)

end Content

/-- What a path is. -/
inductive Node where
  /-- A directory. -/
  | directory
  /-- A file, with its number. -/
  | file (serial : Nat) (content : Content)
  deriving DecidableEq

namespace Node

/-- What can be seen of a path: the content of a file, and nothing of a directory. -/
def content? : Node → Option Content
  | .directory => none
  | .file _ content => some content

def serial? : Node → Option Nat
  | .directory => none
  | .file serial _ => some serial

/-- A node with bytes behind its content if it is the file of a number. -/
def append (serial : Nat) (data : ByteArray) : Node → Node
  | .directory => .directory
  | .file number content => .file number (if number = serial then content.append data else content)

end Node

/-- Why a device takes no more bytes. -/
inductive DeviceFault where
  | noSpace
  | fileTooLarge
  | failure
  deriving Repr, DecidableEq

namespace DeviceFault

def code : DeviceFault → Nat
  | .noSpace => 28
  | .fileTooLarge => 27
  | .failure => 5

def wording : DeviceFault → String
  | .noSpace => "No space left on device"
  | .fileTooLarge => "File too large"
  | .failure => "Input/output error"

end DeviceFault

/-- What takes the bytes of files. -/
inductive Device where
  /-- It takes all bytes. -/
  | endless
  /-- It takes so many bytes of a file, and then has a fault. -/
  | breaking (size : Nat) (fault : DeviceFault)
  deriving Repr, DecidableEq

namespace Device

/-- The bytes of some content that the device takes before its fault, and the fault, if it comes to
    that. -/
def cut? (data : ByteArray) : Device → Option (ByteArray × DeviceFault)
  | .endless => none
  | .breaking size fault => if size ≤ data.size then some (data.extract 0 size, fault) else none

end Device

/-- Why a file system refuses an operation. -/
inductive FileReason where
  /-- There is nothing at the path. -/
  | notFound
  /-- There is already something at the path. -/
  | exists
  /-- A name on the way is no directory. -/
  | notADirectory
  /-- A directory stands where a file should. -/
  | isADirectory
  /-- The path ends in a name that stands for a directory on the way. -/
  | busy
  /-- The path, or a name in it, has too many bytes. -/
  | nameTooLong
  /-- The path holds the character that ends paths. -/
  | nullCharacter
  /-- The device takes no more bytes. -/
  | device (fault : DeviceFault)
  deriving Repr, DecidableEq

namespace FileReason

/-- The number of the reason. A path with a null character is refused without one. -/
def code : FileReason → Nat
  | .notFound => 2
  | .exists => 17
  | .notADirectory => 20
  | .isADirectory => 21
  | .busy => 16
  | .nameTooLong => 36
  | .nullCharacter => 0
  | .device fault => fault.code

def wording : FileReason → String
  | .notFound => "No such file or directory"
  | .exists => "File exists"
  | .notADirectory => "Not a directory"
  | .isADirectory => "Is a directory"
  | .busy => "Device or resource busy"
  | .nameTooLong => "File name too long"
  | .nullCharacter => "embedded null byte"
  | .device fault => fault.wording

end FileReason

/-- A refused operation on one path or on two. -/
structure FileFault where
  /-- Why it was refused. -/
  reason : FileReason
  path : Path
  /-- The second path, for an operation on two. -/
  target : Option Path := none
  deriving Repr, DecidableEq

namespace FileFault

/-- What is said of a refused operation. What a device says names no path. -/
def message (fault : FileFault) : String :=
  let start := "[Errno " ++ toString fault.reason.code ++ "] " ++ fault.reason.wording
  match fault.reason, fault.target with
  | .nullCharacter, _ => fault.reason.wording
  | .device _, _ => start
  | _, none => start ++ ": " ++ fault.path.quoted
  | _, some target => start ++ ": " ++ fault.path.quoted ++ " -> " ++ target.quoted

end FileFault

/-- The numbers of all files. -/
def Node.serials (nodes : List (List String × Node)) : List Nat :=
  nodes.filterMap fun entry => entry.2.serial?

/-- What each path is. -/
structure FileTree where
  /-- The paths that are something. -/
  nodes : List (List String × Node)
  /-- A number that no file has had yet. -/
  fresh : Nat
  /-- A path is one thing. -/
  paths_nodup : (nodes.map Prod.fst).Nodup := by decide
  /-- A file is at one path. -/
  serials_nodup : (Node.serials nodes).Nodup := by decide
  serials_lt : ∀ serial ∈ Node.serials nodes, serial < fresh := by decide
  deriving DecidableEq

namespace FileTree

def empty : FileTree where
  nodes := []
  fresh := 0

/-- What a list of names leads to. The working directory, those above it and the root are there. -/
def at? (tree : FileTree) (parts : List String) : Option Node :=
  if parts.all (· = Path.upward) ∨ parts = [Path.root] then some .directory
    else tree.nodes.lookup parts

/-- The directory above another. There is none above the root. -/
def enclosing (place : List String) : List String :=
  if place = [Path.root] then place
  else if place.all (· = Path.upward) then place ++ [Path.upward]
  else place.dropLast

theorem paths_nodup_filter (tree : FileTree) (chosen : List String × Node → Bool) :
    ((tree.nodes.filter chosen).map Prod.fst).Nodup :=
  (List.filter_sublist.map Prod.fst).nodup tree.paths_nodup

theorem serials_nodup_filter (tree : FileTree) (chosen : List String × Node → Bool) :
    (Node.serials (tree.nodes.filter chosen)).Nodup :=
  (List.filter_sublist.filterMap _).nodup tree.serials_nodup

theorem serials_lt_filter (tree : FileTree) (chosen : List String × Node → Bool) :
    ∀ serial ∈ Node.serials (tree.nodes.filter chosen), serial < tree.fresh :=
  fun serial h => tree.serials_lt serial ((List.filter_sublist.filterMap _).subset h)

/-- Whether an entry stays when a node is put at a list of names: it is at another path, and not the
    file that is put. -/
def outlasts (parts : List String) (node : Node) (entry : List String × Node) : Bool :=
  entry.1 ≠ parts && (entry.2.serial?.isNone || entry.2.serial? ≠ node.serial?)

theorem serials_nodup_put (tree : FileTree) (parts : List String) (node : Node) :
    (Node.serials ((parts, node) :: tree.nodes.filter (outlasts parts node))).Nodup := by
  have rest := tree.serials_nodup_filter (outlasts parts node)
  cases node with
  | directory => exact rest
  | file serial content =>
      refine List.nodup_cons.2 ⟨?_, rest⟩
      intro shared
      obtain ⟨entry, chosen, same⟩ := List.mem_filterMap.1 shared
      have own : (Node.file serial content).serial? = some serial := rfl
      have outlasting := (List.mem_filter.1 chosen).2
      simp [outlasts, same, own] at outlasting

theorem serials_lt_put (tree : FileTree) (parts : List String) (node : Node) :
    ∀ serial ∈ Node.serials ((parts, node) :: tree.nodes.filter (outlasts parts node)),
      serial < max tree.fresh (node.serial?.elim 0 (· + 1)) := by
  intro serial h
  have rest (h : serial ∈ Node.serials (tree.nodes.filter (outlasts parts node))) :
      serial < max tree.fresh (node.serial?.elim 0 (· + 1)) :=
    Nat.lt_of_lt_of_le (tree.serials_lt_filter _ serial h) (Nat.le_max_left _ _)
  cases node with
  | directory => exact rest h
  | file own content =>
      obtain rfl | h := List.mem_cons.1 h
      · exact Nat.le_max_right _ _
      · exact rest h

/-- The tree with a node at a list of names. A file that was at another path is there no more. -/
def put (tree : FileTree) (parts : List String) (node : Node) : FileTree where
  nodes := (parts, node) :: tree.nodes.filter (outlasts parts node)
  fresh := max tree.fresh (node.serial?.elim 0 (· + 1))
  paths_nodup := List.nodup_cons.2
    ⟨fun h => by
      obtain ⟨entry, chosen, same⟩ := List.mem_map.1 h
      simp [outlasts, same] at chosen,
    tree.paths_nodup_filter _⟩
  serials_nodup := tree.serials_nodup_put parts node
  serials_lt := tree.serials_lt_put parts node

/-- The tree with content in the file at a list of names, which is new unless it is there. -/
def putContent (tree : FileTree) (parts : List String) (content : Content) : FileTree :=
  match tree.at? parts with
  | some (.file serial _) => tree.put parts (.file serial content)
  | _ => tree.put parts (.file tree.fresh content)

def remove (tree : FileTree) (parts : List String) : FileTree where
  nodes := tree.nodes.filter fun entry => entry.1 ≠ parts
  fresh := tree.fresh
  paths_nodup := tree.paths_nodup_filter _
  serials_nodup := tree.serials_nodup_filter _
  serials_lt := tree.serials_lt_filter _

/-- The largest number of bytes of a name. -/
def longestName : Nat := 255

/-- The largest number of bytes of a path. -/
def longestPath : Nat := 4095

/-- Follow names from a directory. -/
def follow (tree : FileTree) (place : List String) : List String → Except FileReason (List String)
  | [] => .ok place
  | name :: rest =>
    if name = Path.upward then tree.follow (enclosing place) rest else
    if longestName < name.utf8ByteSize then .error .nameTooLong else
    let next := place ++ [name]
    if rest.isEmpty then .ok next
    else
      match tree.at? next with
      | none => .error .notFound
      | some (.file _ _) => .error .notADirectory
      | some .directory => tree.follow next rest

/-- Where a path leads; only its last name may lead to nothing. -/
def locate (tree : FileTree) (path : Path) : Except FileFault (List String) :=
  let text := path.toString
  if '\x00' ∈ text.toList then .error { reason := .nullCharacter, path }
  else if longestPath < text.utf8ByteSize then .error { reason := .nameTooLong, path }
  else (tree.follow [] path.parts).mapError fun reason => { reason, path }

def node (tree : FileTree) (path : Path) : Except FileFault Node := do
  let parts ← tree.locate path
  match tree.at? parts with
  | none => .error { reason := .notFound, path }
  | some node => .ok node

/-- Whether there is something at a path. Nobody can tell for a path that is too long. -/
def has (tree : FileTree) (path : Path) : Except FileFault Bool :=
  match tree.node path with
  | .ok _ => .ok true
  | .error fault => if fault.reason = .nameTooLong then .error fault else .ok false

def isDirectory (tree : FileTree) (path : Path) : Bool :=
  match tree.node path with
  | .ok .directory => true
  | _ => false

def read (tree : FileTree) (path : Path) : Except FileFault Content := do
  match ← tree.node path with
  | .directory => .error { reason := .isADirectory, path }
  | .file _ content => .ok content

/-- The place of the file at a path, where no directory is. -/
def placeOf (tree : FileTree) (path : Path) : Except FileFault (List String) := do
  let parts ← tree.locate path
  match tree.at? parts with
  | some .directory => .error { reason := .isADirectory, path }
  | _ => .ok parts

/-- Give the file at a path new content, or make it, as far as the device goes. What was written
    before a fault stays. -/
def write (tree : FileTree) (path : Path) (content : Content) (device : Device) :
    FileTree × Option FileFault :=
  match tree.placeOf path with
  | .error fault => (tree, some fault)
  | .ok parts =>
    match device.cut? content.data with
    | none => (tree.putContent parts content, none)
    | some (part, fault) =>
      (tree.putContent parts (.bytes part), some { reason := .device fault, path })

/-- The number of the file at a path, which is made empty unless it is there. -/
def touch (tree : FileTree) (path : Path) : Except FileFault (Nat × FileTree) := do
  let parts ← tree.locate path
  match tree.at? parts with
  | none => .ok (tree.fresh, tree.putContent parts (.bytes .empty))
  | some .directory => .error { reason := .isADirectory, path }
  | some (.file serial _) => .ok (serial, tree)

theorem serials_append (nodes : List (List String × Node)) (serial : Nat) (data : ByteArray) :
    Node.serials (nodes.map fun (parts, node) => (parts, node.append serial data)) =
      Node.serials nodes := by
  have same (node : Node) : (node.append serial data).serial? = node.serial? := by
    cases node <;> rfl
  simp [Node.serials, List.filterMap_map, Function.comp_def, same]

/-- Add bytes to the end of the file of a number. A file that was removed takes none. -/
def append (tree : FileTree) (serial : Nat) (data : ByteArray) : FileTree where
  nodes := tree.nodes.map fun (parts, node) => (parts, node.append serial data)
  fresh := tree.fresh
  paths_nodup := by simpa [Function.comp_def] using tree.paths_nodup
  serials_nodup := by rw [serials_append]; exact tree.serials_nodup
  serials_lt := by rw [serials_append]; exact tree.serials_lt

def makeDirectory (tree : FileTree) (path : Path) : Except FileFault FileTree := do
  let parts ← tree.locate path
  match tree.at? parts with
  | some _ => .error { reason := .exists, path }
  | none => .ok (tree.put parts .directory)

/-- Move a file over whatever file the target is. -/
def move (tree : FileTree) (source target : Path) : Except FileFault FileTree := do
  let onBoth (fault : FileFault) : FileFault := ⟨fault.reason, source, some target⟩
  let node ← (tree.node source).mapError onBoth
  if node.content?.isNone then throw ⟨.isADirectory, source, some target⟩
  let origin ← (tree.locate source).mapError onBoth
  let parts ← (tree.locate target).mapError onBoth
  if parts = [] ∨ target.parts.getLast? = some Path.upward then
    throw ⟨.busy, source, some target⟩
  match tree.at? parts with
  | some .directory => .error ⟨.isADirectory, source, some target⟩
  | _ => .ok ((tree.remove origin).put parts node)

def unlink (tree : FileTree) (path : Path) : Except FileFault FileTree := do
  let parts ← tree.locate path
  match tree.at? parts with
  | none => .error { reason := .notFound, path }
  | some .directory => .error { reason := .isADirectory, path }
  | some (.file _ _) => .ok (tree.remove parts)

/-- Make a directory, given by its names from the last one up, and the directories above it as far
    as they are missing. The tree comes back with whatever was made before a fault. -/
def ensureParts (tree : FileTree) : List String → FileTree × Option FileFault
  | [] => (tree, none)
  | name :: above =>
    let path : Path := ⟨(name :: above).reverse⟩
    let settled (tree : FileTree) (fault : FileFault) : FileTree × Option FileFault :=
      if tree.isDirectory path then (tree, none) else (tree, some fault)
    match tree.makeDirectory path with
    | .ok made => (made, none)
    | .error fault =>
      if fault.reason = .notFound then
        match tree.ensureParts above with
        | (tree, some fault) => (tree, some fault)
        | (tree, none) =>
          match tree.makeDirectory path with
          | .ok made => (made, none)
          | .error fault => settled tree fault
      else settled tree fault

/-- Make a directory unless it is there, and the directories above it. -/
def ensureDirectory (tree : FileTree) (path : Path) : FileTree × Option FileFault :=
  tree.ensureParts path.parts.reverse

/-- Every path that is different in another tree, with what it is there, in the order of the paths'
    texts. -/
def changes (before after : FileTree) : List (Path × Option Node) :=
  let gone := before.nodes.filterMap fun (parts, _) =>
    if (after.at? parts).isNone then some (Path.mk parts, none) else none
  let new := after.nodes.filterMap fun (parts, node) =>
    if (before.at? parts).map Node.content? = some node.content? then none
    else some (Path.mk parts, some node)
  (gone ++ new).mergeSort fun a b => a.1.toString ≤ b.1.toString

end FileTree

end TurtleGraphics
