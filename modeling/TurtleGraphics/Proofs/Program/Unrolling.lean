import Mathlib.Algebra.BigOperators.Group.List.Basic
import Mathlib.Tactic.Ring
import TurtleGraphics.Execution
import TurtleGraphics.Proofs.Program.Boundary
import TurtleGraphics.Proofs.Program.Nesting

/-! # Unrolling loops

A loop stands for as many copies of its body as its count says, each with the loop's end behind it.
Unrolled commands are a plain list: nothing in it jumps. The list is longer than the program, but no
longer than the bound on the work of a run.
-/

namespace TurtleGraphics

namespace Block

/-- The commands of a block in the order in which they are carried out. -/
def unroll : Block Command Int → List Command
  | .empty => []
  | .plain before command => before.unroll ++ [command]
  | .loop before count body =>
    before.unroll ++ .repeat count :: (List.replicate count.toNat (body.unroll ++ [.loop])).flatten

def size : Block Command Int → Nat
  | .empty => 0
  | .plain before _ => before.size + 1
  | .loop before _ body => before.size + body.size + 2

/-- The product of all counts in the block. -/
def runs : Block Command Int → Nat
  | .empty => 1
  | .plain before _ => before.runs
  | .loop before count body => before.runs * (max 1 count.toNat * body.runs)

theorem runs_pos (b : Block Command Int) : 0 < b.runs := by
  induction b with
  | empty => exact Nat.one_pos
  | plain before command ih => exact ih
  | loop before count body ih ihbody =>
      exact Nat.mul_pos ih
        (Nat.mul_pos (Nat.lt_of_lt_of_le Nat.one_pos (Nat.le_max_left _ _)) ihbody)

theorem length_unroll_le (b : Block Command Int) : b.unroll.length ≤ b.size * b.runs := by
  induction b with
  | empty => exact Nat.zero_le _
  | plain before command ih =>
      have positive := before.runs_pos
      simp only [unroll, size, runs, List.length_append, List.length_singleton, Nat.add_mul]
      omega
  | loop before count body ih ihbody =>
      let once := max 1 count.toNat * body.runs
      have positive : 0 < before.runs * once := (Block.loop before count body).runs_pos
      have first : before.unroll.length ≤ before.size * (before.runs * once) := by
        calc before.unroll.length
            ≤ before.size * before.runs := ih
          _ ≤ before.size * (before.runs * once) :=
              Nat.mul_le_mul_left _ (Nat.le_mul_of_pos_right _ (Nat.pos_of_mul_pos_left positive))
      have copies : count.toNat * (body.unroll.length + 1) ≤
          (body.size + 1) * (before.runs * once) := by
        calc count.toNat * (body.unroll.length + 1)
            ≤ max 1 count.toNat * (body.size * body.runs + body.runs) :=
              Nat.mul_le_mul (Nat.le_max_right _ _) (Nat.add_le_add ihbody body.runs_pos)
          _ = (body.size + 1) * once := by ring
          _ ≤ (body.size + 1) * (before.runs * once) :=
              Nat.mul_le_mul_left _ (Nat.le_mul_of_pos_left _ before.runs_pos)
      calc (Block.loop before count body).unroll.length
          = before.unroll.length + count.toNat * (body.unroll.length + 1) + 1 := by
            simp [unroll]
            omega
        _ ≤ before.size * (before.runs * once) + (body.size + 1) * (before.runs * once) +
              before.runs * once := by omega
        _ = (Block.loop before count body).size * (Block.loop before count body).runs := by
            simp only [size, runs]
            ring

end Block

namespace Command

/-- How many copies of what follows a command can stand for. -/
def runs : Command → Nat
  | .repeat count => max 1 count.toNat
  | _ => 1

theorem runs_of_plain {command : Command} (h : command.mark = .plain command) :
    command.runs = 1 := by
  cases command <;> first | rfl | cases h

end Command

namespace Outline

/-- The commands before the innermost open loop's body, in the order in which they are carried
    out. -/
def unrollFrames : List (Block Command Int × Int) → List Command
  | [] => []
  | (before, count) :: frames => unrollFrames frames ++ before.unroll ++ [.repeat count]

/-- The commands of an outline in the order in which they are carried out. What stands behind the
    start of a loop that is never closed comes once. -/
def unroll (o : Outline Command Int) : List Command :=
  unrollFrames o.frames ++ o.current.unroll

/-- How many commands stand before the innermost open loop's body. -/
def sizeFrames : List (Block Command Int × Int) → Nat
  | [] => 0
  | (before, _) :: frames => sizeFrames frames + before.size + 1

/-- The product of all counts before the innermost open loop's body. -/
def runsFrames : List (Block Command Int × Int) → Nat
  | [] => 1
  | (before, count) :: frames => runsFrames frames * before.runs * max 1 count.toNat

theorem runsFrames_pos (frames : List (Block Command Int × Int)) : 0 < runsFrames frames := by
  induction frames with
  | nil => exact Nat.one_pos
  | cons frame frames ih =>
      exact Nat.mul_pos (Nat.mul_pos ih frame.1.runs_pos)
        (Nat.lt_of_lt_of_le Nat.one_pos (Nat.le_max_left _ _))

theorem length_unrollFrames_le (frames : List (Block Command Int × Int)) :
    (unrollFrames frames).length ≤ sizeFrames frames * runsFrames frames := by
  induction frames with
  | nil => exact Nat.zero_le _
  | cons frame frames ih =>
      obtain ⟨before, count⟩ := frame
      have outer := Nat.mul_le_mul ih before.runs_pos
      have inner := Nat.mul_le_mul before.length_unroll_le (runsFrames_pos frames)
      have positive := Nat.mul_pos (runsFrames_pos frames) before.runs_pos
      calc (unrollFrames ((before, count) :: frames)).length
          = (unrollFrames frames).length * 1 + before.unroll.length * 1 + 1 := by
            simp [unrollFrames, Nat.add_assoc]
        _ ≤ sizeFrames frames * runsFrames frames * before.runs +
              before.size * before.runs * runsFrames frames + runsFrames frames * before.runs :=
            Nat.add_le_add (Nat.add_le_add outer inner) positive
        _ = sizeFrames ((before, count) :: frames) * (runsFrames frames * before.runs) := by
            simp only [sizeFrames]
            ring
        _ ≤ sizeFrames ((before, count) :: frames) * runsFrames ((before, count) :: frames) :=
            Nat.mul_le_mul_left _ (Nat.le_mul_of_pos_right _
              (Nat.lt_of_lt_of_le Nat.one_pos (Nat.le_max_left _ _)))

theorem length_unroll_le (o : Outline Command Int) :
    o.unroll.length ≤
      (sizeFrames o.frames + o.current.size) * (runsFrames o.frames * o.current.runs) := by
  have outer := Nat.mul_le_mul (length_unrollFrames_le o.frames) o.current.runs_pos
  have inner := Nat.mul_le_mul o.current.length_unroll_le (runsFrames_pos o.frames)
  calc o.unroll.length
      = (unrollFrames o.frames).length * 1 + o.current.unroll.length * 1 := by
        simp [unroll]
    _ ≤ sizeFrames o.frames * runsFrames o.frames * o.current.runs +
          o.current.size * o.current.runs * runsFrames o.frames := Nat.add_le_add outer inner
    _ = (sizeFrames o.frames + o.current.size) * (runsFrames o.frames * o.current.runs) := by ring

theorem size_runs_of_ofMarks {commands : List Command} {o : Outline Command Int}
    (h : Outline.ofMarks (commands.map Command.mark) = some o) :
    sizeFrames o.frames + o.current.size = commands.length ∧
      runsFrames o.frames * o.current.runs = (commands.map Command.runs).prod := by
  induction commands using List.reverseRecOn generalizing o with
  | nil =>
      cases h
      exact ⟨rfl, rfl⟩
  | append_singleton commands command ih =>
      rw [List.map_append, List.map_singleton, ofMarks_concat] at h
      obtain ⟨⟨frames, current⟩, ho, hadd⟩ := Option.bind_eq_some_iff.mp h
      obtain ⟨hsize, hruns⟩ := ih ho
      rw [List.map_append, List.prod_append, List.length_append, ← hsize, ← hruns]
      obtain ⟨hmark, -⟩ | ⟨count, rfl⟩ | rfl := command.mark_cases
      · rw [hmark] at hadd
        cases hadd
        refine ⟨?_, ?_⟩
        · simp only [Block.size, List.length_singleton]
          omega
        · simp [Block.runs, Command.runs_of_plain hmark]
      · cases hadd
        refine ⟨?_, ?_⟩
        · simp only [sizeFrames, Block.size, List.length_singleton]
        · simp [runsFrames, Block.runs, Command.runs]
      · cases frames with
        | nil => cases hadd
        | cons frame frames =>
            cases hadd
            refine ⟨?_, ?_⟩
            · simp only [sizeFrames, Block.size, List.length_singleton]
              omega
            · simp only [runsFrames, Block.runs, Command.runs, List.map_singleton,
                List.prod_singleton]
              ring

theorem length_unroll_le_of_ofMarks {commands : List Command} {o : Outline Command Int}
    (h : Outline.ofMarks (commands.map Command.mark) = some o) :
    o.unroll.length ≤ commands.length * (commands.map Command.runs).prod := by
  obtain ⟨hsize, hruns⟩ := size_runs_of_ofMarks h
  rw [← hsize, ← hruns]
  exact o.length_unroll_le

end Outline

namespace Program

variable {limit : Int} {p : Program}

theorem countProduct_pos (steps : List Step) : 0 < countProduct steps := by
  fun_induction countProduct steps with
  | case1 first count rest h ih =>
      exact Nat.mul_pos (Nat.lt_of_lt_of_le Nat.one_pos (Nat.le_max_left _ _)) ih
  | case2 first count rest h ih => exact ih
  | case3 => exact Nat.one_pos

theorem countProduct_le_cons (step : Step) (steps : List Step) :
    countProduct steps ≤ countProduct (step :: steps) := by
  cases steps with
  | nil => exact countProduct_pos _
  | cons count rest =>
      rw [countProduct]
      split
      · exact Nat.le_mul_of_pos_left _ (Nat.lt_of_lt_of_le Nat.one_pos (Nat.le_max_left _ _))
      · exact Nat.le_refl _

theorem countProduct_drop_le (steps : List Step) (n m : Nat) (h : n ≤ m) :
    countProduct (steps.drop m) ≤ countProduct (steps.drop n) := by
  induction h with
  | refl => exact Nat.le_refl _
  | @step m _ ih =>
      refine Nat.le_trans ?_ ih
      rcases Nat.lt_or_ge m steps.length with inside | outside
      · rw [List.drop_eq_getElem_cons inside]
        exact countProduct_le_cons _ _
      · rw [List.drop_eq_nil_of_le outside, List.drop_eq_nil_of_le (Nat.le_succ_of_le outside)]

theorem Passes.runs_le {before : List Instruction} {index : Nat} (h : p.Passes limit before index) :
    (before.map fun i => i.command.runs).prod * countProduct (p.toList.drop index) ≤
      countProduct p.toList := by
  induction h with
  | start => simp
  | @next before index i _ hread ih =>
      refine Nat.le_trans ?_ ih
      obtain ⟨-, forward, -, first, hfirst, -, hkeyword, hcount⟩ := readAt_ok hread
      rw [List.map_append, List.prod_append, List.map_singleton, List.prod_singleton, Nat.mul_assoc]
      refine Nat.mul_le_mul_left _ ?_
      obtain ⟨hmark, -⟩ | ⟨count, hrepeat⟩ | hloop := i.command.mark_cases
      · rw [Command.runs_of_plain hmark, Nat.one_mul]
        exact countProduct_drop_le _ _ _ (Nat.le_of_lt forward)
      · obtain ⟨hnext, step, hstep, rfl⟩ := hcount count hrepeat
        obtain ⟨inside, rfl⟩ := Array.getElem?_eq_some_iff.mp hfirst
        obtain ⟨inside', rfl⟩ := Array.getElem?_eq_some_iff.mp hstep
        rw [hrepeat, Command.keyword] at hkeyword
        rw [hrepeat]
        have split : p.toList.drop index = p[index] :: p[index + 1] ::
            p.toList.drop (index + 2) := by
          rw [List.drop_eq_getElem_cons (by simpa using inside),
            List.drop_eq_getElem_cons (by simpa using inside')]
          rfl
        rw [hnext, split, countProduct, if_pos hkeyword]
        exact Nat.mul_le_mul_left _ (countProduct_le_cons _ _)
      · rw [hloop, show Command.loop.runs = 1 from rfl, Nat.one_mul]
        exact countProduct_drop_le _ _ _ (Nat.le_of_lt forward)

/-- The bound on the work of a run leaves room for all that any front of the program unrolls to. -/
theorem Passes.length_unroll_lt {before : List Instruction} {index : Nat} {o : Outline Command Int}
    (h : p.Passes limit before index)
    (ho : Outline.ofMarks (before.map fun i => i.command.mark) = some o) :
    o.unroll.length < p.workBound := by
  have within : before.length ≤ p.size := Nat.le_trans h.length_le h.index_le
  have counts : (before.map fun i => i.command.runs).prod ≤ countProduct p.toList :=
    Nat.le_trans (Nat.le_mul_of_pos_right _ (countProduct_pos _)) h.runs_le
  have bound : o.unroll.length ≤ _ * (List.prod (List.map _ (before.map Instruction.command))) :=
    Outline.length_unroll_le_of_ofMarks (by simpa [List.map_map, Function.comp_def] using ho)
  calc o.unroll.length
      ≤ before.length * (before.map fun i => i.command.runs).prod := by
        simpa [List.map_map, Function.comp_def] using bound
    _ ≤ p.size * countProduct p.toList := Nat.mul_le_mul within counts
    _ < p.workBound := by
        rw [workBound, Nat.add_mul, Nat.one_mul]
        exact Nat.lt_add_of_pos_right (countProduct_pos _)

end Program

end TurtleGraphics
