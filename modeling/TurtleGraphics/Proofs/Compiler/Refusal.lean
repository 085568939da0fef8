import Mathlib.Data.List.Forall2
import TurtleGraphics.Proofs.Compiler.Language
import TurtleGraphics.Proofs.Compiler.Sequence
import TurtleGraphics.Proofs.Interpreter.History

/-! # Sinks that fail

A sink that takes some number of pieces and then fails holds the statements of as many commands. The
compilation breaks off there, at the line on which the refused command ends, and before it can meet
a fault of the program that lies further on.
-/

namespace TurtleGraphics

namespace Program

variable {limit : Int} {p : Program} {index : Nat}

theorem lastLine_of_readAt {i : Instruction} (h : p.readAt limit index = some (.ok i)) :
    p[i.next - 1]?.map Step.line = some i.lastLine := by
  obtain ⟨word, hword, hread⟩ := Option.map_eq_some_iff.mp h
  unfold instruction at hread
  split at hread
  · cases hread
  · rename_i keyword hkeyword
    cases hkind : keyword.parameterKind with
    | none =>
        obtain ⟨command, -, hcommand⟩ := commandWith_alone limit p (index + 1) hkind
        rw [hcommand] at hread
        cases hread
        simp [indexAfter, Keyword.takesParameter_eq, hkind, hword]
    | some kind =>
        rw [commandWith_eq hkind] at hread
        split at hread
        · cases hread
        · rename_i command line hcommand
          cases hread
          obtain ⟨parameter, hparameter, hcommand⟩ := exists_of_bind_ok hcommand
          obtain ⟨meant, -, hcommand⟩ := exists_of_bind_ok hcommand
          cases hcommand
          have found := parameterAt_ok hparameter
          have inside : index + 1 < p.size := (Array.getElem?_eq_some_iff.mp found).1
          have behind : p.indexAfter index keyword = index + 2 := by
            simp only [indexAfter, Keyword.takesParameter_eq, hkind, Option.isSome_some, if_true]
            omega
          simp [behind, found]

/-- The steps that spell an instruction, the last of them in the line on which the instruction
    ends. -/
structure SpelledBy (limit : Int) (i : Instruction) (front : List Step) : Prop where
  spelled : i.command.Spelled limit front
  last : front.getLast?.map Step.line = some i.lastLine

theorem spelledBy_of_readAt {i : Instruction} (h : p.readAt limit index = some (.ok i)) :
    ∃ front, SpelledBy limit i front ∧ p.toList.drop index = front ++ p.toList.drop i.next := by
  have spec := readAt_spec limit p index
  rw [h] at spec
  obtain ⟨front, hspelled, hfront⟩ := spec
  obtain ⟨-, forward, within, -⟩ := readAt_ok h
  have size : p.toList.length = p.size := Array.length_toList
  have long : front.length = i.next - index := by
    have := congrArg List.length hfront
    simp only [List.length_append, List.length_drop] at this
    omega
  have last : front.getLast? = p[i.next - 1]? := by
    rw [List.getLast?_eq_getElem?, long, ← Array.getElem?_toList,
      ← @List.getElem?_append_left _ _ (p.toList.drop i.next) _ (by omega), ← hfront,
      List.getElem?_drop]
    congr 1
    omega
  exact ⟨front, ⟨hspelled, by rw [last, lastLine_of_readAt h]⟩, hfront⟩

end Program

namespace Compilation

variable {instructions : List Instruction} {c : Compilation} {left : Nat} {reason : SinkFault}

end Compilation

namespace Compiler

variable {compiler : Compiler} {p : Program} {text : String}

end Compiler

end TurtleGraphics
