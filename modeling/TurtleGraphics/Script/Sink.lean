/-! # Sinks

A sink takes text piece by piece. It may be made to fail at a certain piece, as a full disk or a
closed file does.
-/

namespace TurtleGraphics

/-- What a sink says when it takes no more text. -/
structure SinkFault where
  /-- Whether it is one of the failures that output is expected to have. -/
  expected : Bool
  reason : String
  deriving Repr, DecidableEq

/-- Where text goes. -/
structure Sink where
  /-- The text taken so far. -/
  text : String := ""
  /-- How many pieces it takes before it fails, and how it fails then. -/
  failure : Option (Nat × SinkFault) := none
  deriving Repr, DecidableEq

namespace Sink

/-- The sink after one more piece, or the unchanged sink and why it did not take the piece. -/
def write (sink : Sink) (piece : String) : Sink × Option SinkFault :=
  match sink with
  | ⟨text, none⟩ => (⟨text ++ piece, none⟩, none)
  | ⟨text, some (0, fault)⟩ => (⟨text, some (0, fault)⟩, some fault)
  | ⟨text, some (left + 1, fault)⟩ => (⟨text ++ piece, some (left, fault)⟩, none)

end Sink

end TurtleGraphics
