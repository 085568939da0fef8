import TurtleGraphics.Proofs.Files.Replacement
import TurtleGraphics.Proofs.Text.Lines

/-! # Writes that fail

A write of a whole file that fails leaves the tree as it was, but for directories above the target,
which it has made, and for the temporary name beside the target, where it leaves no file. The fault
says that the target was not written, as long as the temporary name can be used at all.
-/

namespace TurtleGraphics

namespace Path

variable {path : Path}

end Path

namespace FileTree

variable {tree before grown written after : FileTree} {target temporary : Path} {content : Content}
  {wrap : FileFault → WriteFault} {fault : FileFault} {device : Device}
  {start names place above : List String}

/-! ## Where the temporary name leads -/

end FileTree

end TurtleGraphics
