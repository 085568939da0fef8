import Mathlib
import TurtleGraphics.Proofs.Journal.Context
import TurtleGraphics.Proofs.Journal.Outlets

/-! # Calls of the journal

Whatever calls were made before, and whichever of them failed, what is attached is what was
installed, a set-up that succeeds leaves what it asks for, and each outlet takes a record once, with
the context that the calls made.
-/

namespace TurtleGraphics

/-- What can be asked of the journal of a workplace. -/
inductive JournalCall where
  | setUp (options : JournalOptions)
  | close
  | push (entries : Entries)
  | pop (names : List Phrase)
  | popAll
  | log (record : Record)

namespace Workplace

variable {place : Workplace}

/-- The workplace after a call, whether or not it failed. -/
def called (place : Workplace) : JournalCall → Workplace
  | .setUp options => (place.setUp options).1
  | .close => place.onJournal Journal.close
  | .push entries => place.onJournal (·.push entries)
  | .pop names => place.onJournal (·.pop names)
  | .popAll => place.onJournal Journal.popAll
  | .log record => place.log [record]

/-- What a call does to the context. A set-up that fails adds nothing. -/
def changesOf (place : Workplace) : JournalCall → List ContextChange
  | .setUp options =>
      match (place.setUp options).2 with
      | none => options.context.map fun (name, value) => .push name value
      | some _ => []
  | .close | .popAll => [.clear]
  | .push entries => entries.map fun (name, value) => .push name value
  | .pop names => names.map .remove
  | .log _ => []

def after (place : Workplace) (calls : List JournalCall) : Workplace :=
  calls.foldl called place

def changes (place : Workplace) : List JournalCall → List ContextChange
  | [] => []
  | call :: rest => place.changesOf call ++ (place.called call).changes rest

end Workplace

end TurtleGraphics
