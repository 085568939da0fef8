import TurtleGraphics.Proofs.Program.Unrolling

/-! # Blocks in a program

A block of commands stands in a program between two indices if reading from the first to the second
finds its commands. Every front of a program that has an outline is such a place, loop by open loop.
-/

namespace TurtleGraphics

variable {limit : Int} {p : Program}

namespace Block

/-- The block stands in a program from one index to another. -/
inductive Stands (limit : Int) (p : Program) : Block Command Int → Nat → Nat → Prop where
  | empty {index : Nat} : Stands limit p .empty index index
  | plain {before : Block Command Int} {start index : Nat} {i : Instruction} :
    Stands limit p before start index → p.readAt limit index = some (.ok i) →
      i.command.mark = .plain i.command → Stands limit p (.plain before i.command) start i.next
  | loop {before body : Block Command Int} {start index stop : Nat} {count : Int}
      {opening closing : Instruction} :
    Stands limit p before start index → p.readAt limit index = some (.ok opening) →
      opening.command = .repeat count → Stands limit p body opening.next stop →
      p.readAt limit stop = some (.ok closing) → closing.command = .loop →
      Stands limit p (.loop before count body) start closing.next

/-- Commands that stand in a program were accepted by its reader. -/
theorem Stands.accepted {b : Block Command Int} {start index : Nat}
    (h : b.Stands limit p start index) :
    ∀ command ∈ b.unroll, command.Accepted limit := by
  induction h with
  | empty => simp [unroll]
  | plain _ hread _ ih =>
      intro command hmem
      rcases List.mem_append.mp hmem with hmem | hmem
      · exact ih command hmem
      · obtain rfl := List.mem_singleton.mp hmem
        exact (Program.readAt_ok hread).1
  | loop _ hopening hcount _ hclosing hloop ih ihbody =>
      intro command hmem
      rcases List.mem_append.mp hmem with hmem | hmem
      · exact ih command hmem
      · rcases List.mem_cons.mp hmem with rfl | hmem
        · exact hcount ▸ (Program.readAt_ok hopening).1
        · obtain ⟨copy, hcopy, hmem⟩ := List.mem_flatten.mp hmem
          obtain rfl := (List.mem_replicate.mp hcopy).2
          rcases List.mem_append.mp hmem with hmem | hmem
          · exact ihbody command hmem
          · obtain rfl := List.mem_singleton.mp hmem
            trivial

end Block

namespace Outline

/-- The outline stands in a program from its first step to an index. -/
def Stands (limit : Int) (p : Program) :
    List (Block Command Int × Int) → Block Command Int → Nat → Prop
  | [], current, index => current.Stands limit p 0 index
  | (before, count) :: frames, current, index =>
    ∃ start opening, Stands limit p frames before start ∧
      p.readAt limit start = some (.ok opening) ∧
      opening.command = .repeat count ∧ current.Stands limit p opening.next index

theorem Stands.grow {frames : List (Block Command Int × Int)} {current other : Block Command Int}
    {index index' : Nat} (h : Stands limit p frames current index)
    (hgrow : ∀ start, current.Stands limit p start index → other.Stands limit p start index') :
    Stands limit p frames other index' := by
  cases frames with
  | nil => exact hgrow 0 h
  | cons frame frames =>
      obtain ⟨start, opening, houter, hread, hcount, hinner⟩ := h
      exact ⟨start, opening, houter, hread, hcount, hgrow _ hinner⟩

theorem stands_of_passes {before : List Instruction} {index : Nat}
    (h : p.Passes limit before index) :
    ∀ {o : Outline Command Int}, Outline.ofMarks (before.map fun i => i.command.mark) = some o →
      Stands limit p o.frames o.current index := by
  induction h with
  | start =>
      rintro o ⟨⟩
      exact .empty
  | @next before index i _ hread ih =>
      intro o ho
      rw [List.map_append, List.map_singleton, ofMarks_concat] at ho
      obtain ⟨⟨frames, current⟩, hbefore, hadd⟩ := Option.bind_eq_some_iff.mp ho
      have standing := ih hbefore
      obtain ⟨hmark, -⟩ | ⟨count, hcount⟩ | hloop := i.command.mark_cases
      · rw [hmark] at hadd
        cases hadd
        exact standing.grow fun start hstart => .plain hstart hread hmark
      · rw [hcount] at hadd
        cases hadd
        exact ⟨index, i, standing, hread, hcount, .empty⟩
      · rw [hloop] at hadd
        cases frames with
        | nil => cases hadd
        | cons frame frames =>
            cases hadd
            obtain ⟨start, opening, houter, hopening, hcount, hinner⟩ := standing
            exact houter.grow fun start hstart => .loop hstart hopening hcount hinner hread hloop

theorem Stands.accepted {frames : List (Block Command Int × Int)} {current : Block Command Int}
    {index : Nat} (h : Stands limit p frames current index) :
    ∀ command ∈ unroll ⟨frames, current⟩, command.Accepted limit := by
  induction frames generalizing current index with
  | nil => exact Block.Stands.accepted h
  | cons frame frames ih =>
      obtain ⟨before, count⟩ := frame
      obtain ⟨start, opening, houter, hread, hcount, hinner⟩ := h
      intro command hmem
      rcases List.mem_append.mp hmem with hmem | hmem
      · rcases List.mem_append.mp hmem with hmem | hmem
        · exact ih houter command hmem
        · obtain rfl := List.mem_singleton.mp hmem
          exact hcount ▸ (Program.readAt_ok hread).1
      · exact hinner.accepted command hmem

end Outline

end TurtleGraphics
