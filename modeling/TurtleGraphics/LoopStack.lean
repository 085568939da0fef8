import TurtleGraphics.Diagnostic
import TurtleGraphics.Memory

/-! # The loop stack

A stack of integers with a fixed number of slots. Each open loop holds two of them: where its body
starts, and on top of it how many runs are left. A slot that is given up keeps its integer until it
is used again, but nothing reads it.
-/

namespace TurtleGraphics

/-- A bounded stack of integers. -/
structure LoopStack where
  /-- The number of slots. -/
  capacity : Nat
  /-- The used slots, the topmost first. -/
  slots : List Int
  /-- What was left in the slots above them, the nearest first. -/
  stale : List Int
  deriving Repr, DecidableEq

/-- Why there is no stack of the capacity that was asked for. -/
inductive CapacityFault where
  | notPositive (capacity : Int)
  | beyondCount
  | beyondMemory
  deriving Repr, DecidableEq

namespace CapacityFault

def message : CapacityFault → String
  | .notPositive capacity => "capacity must be > 0, got " ++ toString capacity
  | .beyondCount => "cannot fit 'int' into an index-sized integer"
  | .beyondMemory => ""

end CapacityFault

namespace LoopStack

/-- A capacity lies below this to be counted. -/
def countLimit : Int := Int.pow 2 63

/-- How many bytes a slot takes. -/
def slotSize : Int := 8

/-- An empty stack of a capacity, if there is memory for its slots. -/
def ofCapacity (capacity : Int) (memory : Memory) : Except CapacityFault LoopStack :=
  if capacity ≤ 0 then .error (.notPositive capacity)
  else if countLimit ≤ capacity then .error .beyondCount
  else if memory.bytes < slotSize * capacity then .error .beyondMemory
  else .ok ⟨capacity.toNat, [], []⟩

def size (stack : LoopStack) : Nat :=
  stack.slots.length

/-- The used slots, the topmost last. -/
def toList (stack : LoopStack) : List Int :=
  stack.slots.reverse

def push (stack : LoopStack) (value : Int) : Except StackFault LoopStack :=
  if stack.slots.length = stack.capacity then .error .overflow
  else .ok { stack with slots := value :: stack.slots, stale := stack.stale.tail }

def pop (stack : LoopStack) : Except StackFault (Int × LoopStack) :=
  match stack.slots with
  | [] => .error .empty
  | value :: rest => .ok (value, { stack with slots := rest, stale := value :: stack.stale })

def clear (stack : LoopStack) : LoopStack :=
  { stack with slots := [], stale := stack.slots.reverse ++ stack.stale }

end LoopStack

end TurtleGraphics
