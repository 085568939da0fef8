/-! # Memory -/

namespace TurtleGraphics

/-- How many bytes can be had at once. There are fewer addresses than `2 ^ 56`. -/
structure Memory where
  bytes : Nat
  bytes_lt : bytes < Nat.pow 2 56 := by decide
  deriving Repr, DecidableEq

/-- The memory of a common machine, 64 gibibytes. -/
def Memory.standard : Memory where
  bytes := 64 * 1024 * 1024 * 1024

end TurtleGraphics
