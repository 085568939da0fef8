import Mathlib.Data.List.Nodup
import Mathlib.Logic.Function.Iterate
import TurtleGraphics.Proofs.Execution.Journey
import TurtleGraphics.Proofs.Program.Unrolling
import TurtleGraphics.Proofs.Script.Reading

/-! # Running scripts

A script runs as nested blocks, with a counter for each loop and no jump. Its calls and assignments
are to the turtle what the commands of the same names are. Run in this way, a block does what its
unrolled commands do, and a script made from commands has the nesting of the commands.
-/

namespace TurtleGraphics

/-- Run a body and count up, while the counter is below the bound. -/
def forLoop {α : Type} (bound : Int) (body : α → α) (counter : Int) (state : α) : α :=
  if counter < bound then forLoop bound body (counter + 1) (body state) else state
termination_by (bound - counter).toNat
decreasing_by omega

namespace Statement

/-- What the statement is to the nesting of a script. -/
def mark : Statement → Mark Statement (Nat × Int)
  | .openLoop counter count => .opening (counter, count)
  | .closeLoop => .closing
  | statement => .plain statement

/-- The command that is to the turtle what the statement is. -/
def command : Statement → Command
  | .home => .home
  | .paper color => .paper color
  | .ink color => .ink color
  | .pen down => .pen down
  | .forward step => .forward step
  | .back step => .back step
  | .left degrees => .left degrees
  | .right degrees => .right degrees
  | .openLoop _ count => .repeat count
  | .closeLoop => .loop

def counter? : Statement → Option Nat
  | .openLoop counter _ => some counter
  | _ => none

end Statement

namespace Block

def exec (settings : Settings) (stride : Stride) : Block Statement (Nat × Int) → Journey → Journey
  | .empty, j => j
  | .plain before statement, j =>
      (before.exec settings stride j).obey settings stride statement.command
  | .loop before (_, bound) body, j =>
    forLoop bound (body.exec settings stride) 0 (before.exec settings stride j)

end Block

namespace Script

/-- The block of a script in which every loop is closed. -/
def block? (script : Script) : Option (Block Statement (Nat × Int)) :=
  match Outline.ofMarks (script.map Statement.mark) with
  | some ⟨[], block⟩ => some block
  | _ => none

/-- Run a script in which every loop is closed. -/
def exec? (settings : Settings) (stride : Stride) (script : Script) (j : Journey) :
    Option Journey :=
  script.block?.map fun block => block.exec settings stride j

def counters (script : Script) : List String :=
  (script.filterMap Statement.counter?).map Statement.counterName

end Script

theorem forLoop_eq_iterate {α : Type} (bound : Int) (body : α → α) (counter : Int) (state : α) :
    forLoop bound body counter state = body^[(bound - counter).toNat] state := by
  fun_induction forLoop bound body counter state with
  | case1 counter state inside ih =>
      have more : (bound - counter).toNat = (bound - (counter + 1)).toNat + 1 := by omega
      rw [ih, more, Function.iterate_succ_apply]
  | case2 counter state outside =>
      have none : (bound - counter).toNat = 0 := by omega
      rw [none]
      rfl

variable {settings : Settings} {stride : Stride}

theorem Journey.follow_copies (commands : List Command) (n : Nat) (j : Journey) :
    j.follow settings stride (List.replicate n commands).flatten =
      (fun j => j.follow settings stride commands)^[n] j := by
  induction n generalizing j with
  | zero => rfl
  | succ n ih =>
      rw [List.replicate_succ, List.flatten_cons, follow_append, ih, Function.iterate_succ_apply]

/-- A counted loop does what the copies do that its body unrolls to. -/
theorem Block.exec_eq_follow (block : Block Statement (Nat × Int)) (j : Journey) :
    block.exec settings stride j =
      j.follow settings stride (block.map Statement.command Prod.snd).unroll := by
  induction block generalizing j with
  | empty => rfl
  | plain before statement ih =>
      rw [exec, ih, map, unroll, Journey.follow_append, Journey.follow_singleton]
  | loop before head body ih ihbody =>
      have once : body.exec settings stride = fun j => j.follow settings stride
          ((body.map Statement.command Prod.snd).unroll ++ [.loop]) := by
        funext j
        rw [ihbody, Journey.follow_append, Journey.follow_singleton, Journey.obey_loop]
      rw [exec, forLoop_eq_iterate, Int.sub_zero, ih, once]
      rw [map, unroll, Journey.follow_append, Journey.follow_cons, Journey.obey_repeat,
        Journey.follow_copies]

theorem Statement.mark_ofCommand (opened : Nat) (command : Command) :
    (Statement.ofCommand opened command).mark.map Statement.command Prod.snd = command.mark := by
  cases command <;> rfl

theorem Statement.counterName_injective : Function.Injective Statement.counterName := by
  intro a b h
  have same : toString a = toString b := by simpa [counterName] using h
  exact Nat.repr_inj.mp same

namespace Script

theorem marks_ofCommands (opened : Nat) (commands : List Command) :
    ((ofCommands opened commands).map Statement.mark).map (·.map Statement.command Prod.snd) =
      commands.map Command.mark := by
  induction commands generalizing opened with
  | nil => rfl
  | cons command commands ih =>
      rw [ofCommands, List.map_cons, List.map_cons, Statement.mark_ofCommand, ih, List.map_cons]

/-- A script of commands has their outline, and if nothing is left open, it can be run as a
    block. -/
theorem exec?_ofCommands {opened : Nat} {commands : List Command} {outline : Outline Command Int}
    (houtline : Outline.ofMarks (commands.map Command.mark) = some outline)
    (hclosed : outline.frames = []) (j : Journey) :
    (ofCommands opened commands).exec? settings stride j =
      some (j.follow settings stride outline.unroll) := by
  rw [← marks_ofCommands opened, Outline.ofMarks_map] at houtline
  obtain ⟨⟨frames, block⟩, hmarks, rfl⟩ := Option.map_eq_some_iff.mp houtline
  obtain rfl : frames = [] := List.map_eq_nil_iff.mp hclosed
  have hblock : (ofCommands opened commands).block? = some block := by
    unfold block?
    rw [hmarks]
  rw [exec?, hblock, Option.map_some, Block.exec_eq_follow]
  rfl

theorem lt_counter {opened : Nat} {commands : List Command} {counter : Nat}
    (h : counter ∈ (ofCommands opened commands).filterMap Statement.counter?) :
    opened < counter := by
  induction commands generalizing opened with
  | nil => cases h
  | cons command commands ih =>
      rw [ofCommands, List.filterMap_cons] at h
      split at h
      · exact Nat.lt_of_le_of_lt (Nat.le_add_right _ _) (ih h)
      · rename_i declared hdeclared
        rcases List.mem_cons.mp h with rfl | h
        · cases command <;> cases hdeclared
          exact Nat.lt_succ_self opened
        · exact Nat.lt_of_le_of_lt (Nat.le_add_right _ _) (ih h)

theorem pairwise_counters (opened : Nat) (commands : List Command) :
    ((ofCommands opened commands).filterMap Statement.counter?).Pairwise (· < ·) := by
  induction commands generalizing opened with
  | nil => exact .nil
  | cons command commands ih =>
      rw [ofCommands, List.filterMap_cons]
      split
      · exact ih _
      · rename_i declared hdeclared
        apply List.Pairwise.cons _ (ih _)
        intro counter h
        have later := lt_counter h
        cases command <;> cases hdeclared
        exact later

theorem nodup_counters (opened : Nat) (commands : List Command) :
    (ofCommands opened commands).counters.Nodup := by
  apply List.Nodup.map Statement.counterName_injective
  exact (pairwise_counters opened commands).imp Nat.ne_of_lt

end Script

end TurtleGraphics
