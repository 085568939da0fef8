import Mathlib.Algebra.BigOperators.Group.Finset.Basic
import Mathlib.Algebra.Order.BigOperators.Group.Finset
import Mathlib.Algebra.Order.BigOperators.GroupWithZero.List
import Mathlib.Data.List.Perm.Subperm
import Mathlib.Order.Lex
import TurtleGraphics.Proofs.Execution.Stack
import TurtleGraphics.Proofs.Program.Unrolling

/-! # Every run ends

The end of a loop takes the index back, so the index alone says nothing about how much is still to
come. What falls with every command is the clock: the open loops from the outermost inward, each
with where its body starts and how many runs are left, and the index last. Whenever a run comes to
an index, the same loops are open. So two visits differ in the runs that are left, and there are as
many ways to be left as the counts of these loops multiply to.
-/

namespace TurtleGraphics

variable {limit : Int} {p : Program} {settings : Settings} {stride : Stride} {trace : Bool}

namespace Execution

/-- The slots of a stack from the bottom up, in front of a tail. Places count backwards, so that a
    run that goes forward goes down. -/
def clockOf : List Int → List Int → List Int
  | count :: body :: slots, tail => clockOf slots (-body :: count :: tail)
  | _, tail => tail

/-- The open loops from the outermost inward, and the index behind them. -/
def clock (x : Execution) : List Int :=
  clockOf x.stack.slots [-(x.pc : Int)]

theorem clockOf_lt {tail tail' : List Int} (h : tail < tail') (slots : List Int) :
    clockOf slots tail < clockOf slots tail' := by
  fun_induction clockOf slots tail generalizing tail' with
  | case1 count body slots tail ih =>
      rw [clockOf]
      apply ih
      exact .cons (.cons h)
  | case2 slots tail hshort =>
      rw [clockOf.eq_2 _ _ hshort]
      exact h

theorem clockOf_cons (count body : Int) (slots tail : List Int) :
    clockOf (count :: body :: slots) tail = clockOf slots (-body :: count :: tail) := rfl

end Execution

theorem Instruction.openLoops_sublist (before : List Instruction) :
    (Instruction.openLoops before).Sublist before := by
  induction before using List.reverseRecOn with
  | nil => exact .slnil
  | append_singleton before i ih =>
      obtain ⟨hmark, -⟩ | ⟨count, hcount⟩ | hloop := i.command.mark_cases
      · rw [Instruction.openLoops_plain hmark]
        exact ih.trans (List.sublist_append_left _ _)
      · rw [Instruction.openLoops_repeat hcount]
        exact ih.append (List.Sublist.refl _)
      · rw [Instruction.openLoops_loop hloop]
        exact (List.dropLast_sublist _).trans (ih.trans (List.sublist_append_left _ _))

namespace Execution.Inside

variable {before : List Instruction} {loops : List OpenLoop} {x y : Execution}

theorem next_le (h : x.Inside limit p before loops) {loop : OpenLoop} (hmem : loop ∈ loops) :
    loop.opening.next ≤ x.pc := by
  have opened : loop.opening ∈ Instruction.openLoops before := by
    rw [← h.opens]
    exact List.mem_map_of_mem hmem
  exact h.passes.next_le ((Instruction.openLoops_sublist before).subset opened)

/-- Whatever a command does, the clock falls: the end of a loop takes the index back, but counts one
    run less in front of it. -/
theorem clock_lt (h : x.Inside settings.engine.maxRepeat p before loops) {call : Option DrawCall}
    (hstep : x.step settings stride trace p = .go y call) : y.clock < x.clock := by
  obtain ⟨i, hread, -, -, hcases⟩ := Execution.step_go hstep
  have forward : x.pc < i.next := (Program.readAt_ok hread).2.1
  obtain ⟨-, hpc, hslots⟩ | ⟨count, -, hpc, -, -, hslots⟩ | ⟨-, count, body, slots, hwhole,
    hcases⟩ := hcases
  · rw [clock, clock, hslots, hpc]
    exact clockOf_lt (.rel (by omega)) _
  · rw [clock, clock, hslots, hpc, clockOf_cons]
    exact clockOf_lt (.rel (by omega)) _
  · obtain ⟨outer, opening, hloops, rfl, -⟩ := h.innermost hwhole
    have behind : opening.next ≤ x.pc := by
      have innermost : (⟨opening, count⟩ : OpenLoop) ∈ loops := by simp [hloops]
      exact h.next_le innermost
    obtain ⟨-, hpc, hslots⟩ | ⟨-, hpc, hslots⟩ := hcases
    · rw [clock, clock, hslots, hwhole, clockOf_cons, clockOf_cons]
      exact clockOf_lt (.cons (.rel (by omega))) _
    · rw [clock, clock, hslots, hwhole, hpc, clockOf_cons]
      exact clockOf_lt (.rel (by omega)) _

end Execution.Inside

theorem Command.runs_pos (command : Command) : 0 < command.runs := by
  cases command with
  | «repeat» count => exact Nat.lt_of_lt_of_le Nat.one_pos (Nat.le_max_left _ _)
  | _ => exact Nat.one_pos

/-- How many times in all some loops run what is inside all of them. -/
def Instruction.rounds (opens : List Instruction) : Nat :=
  (opens.map fun i => i.command.runs).prod

theorem Instruction.rounds_cons (i : Instruction) (opens : List Instruction) :
    Instruction.rounds (i :: opens) = i.command.runs * Instruction.rounds opens :=
  List.prod_cons

namespace OpenLoop

/-- How many of these times are still to come behind the present one: the runs that are left,
    written with the counts as radices. -/
def ahead : List OpenLoop → Nat
  | [] => 0
  | loop :: inner => (loop.left - 1).toNat * Instruction.rounds (inner.map opening) + ahead inner

theorem Running.left_le_runs {loop : OpenLoop} (h : loop.Running) :
    1 ≤ loop.left ∧ loop.left ≤ (loop.opening.command.runs : Nat) := by
  obtain ⟨count, hcount, low, high⟩ := h
  rw [hcount, Command.runs]
  omega

/-- Less is to come than the loops have in all. -/
theorem ahead_lt_rounds {loops : List OpenLoop} (h : ∀ loop ∈ loops, loop.Running) :
    ahead loops < Instruction.rounds (loops.map opening) := by
  induction loops with
  | nil => exact Nat.one_pos
  | cons loop inner ih =>
      have below := ih fun other hmem => h other (List.mem_cons_of_mem _ hmem)
      obtain ⟨low, high⟩ := (h loop List.mem_cons_self).left_le_runs
      let rounds := Instruction.rounds (inner.map opening)
      calc ahead (loop :: inner)
          < (loop.left - 1).toNat * rounds + rounds := Nat.add_lt_add_left below _
        _ = ((loop.left - 1).toNat + 1) * rounds := by rw [Nat.add_mul, Nat.one_mul]
        _ ≤ loop.opening.command.runs * rounds := Nat.mul_le_mul_right _ (by omega)
        _ = Instruction.rounds ((loop :: inner).map opening) := (Instruction.rounds_cons _ _).symm

def clock (index : Nat) (loops : List OpenLoop) : List Int :=
  loops.foldr (fun loop rest => -(loop.opening.next : Int) :: loop.left :: rest) [-(index : Int)]

theorem clock_cons (index : Nat) (loop : OpenLoop) (inner : List OpenLoop) :
    clock index (loop :: inner) = -(loop.opening.next : Int) :: loop.left :: clock index inner :=
  rfl

theorem ahead_lt_of_clock_lt {index : Nat} {loops later : List OpenLoop}
    (hsame : later.map opening = loops.map opening) (hrunning : ∀ loop ∈ later, loop.Running)
    (h : clock index later < clock index loops) : ahead later < ahead loops := by
  induction loops generalizing later with
  | nil =>
      obtain rfl := List.map_eq_nil_iff.mp hsame
      exact absurd h (List.lt_irrefl _)
  | cons loop inner ih =>
      obtain ⟨next, rest, rfl, hopening, hrest⟩ := List.map_eq_cons_iff.mp hsame
      obtain ⟨low, -⟩ := (hrunning next List.mem_cons_self).left_le_runs
      have running : ∀ other ∈ rest, other.Running :=
        fun other hmem => hrunning other (List.mem_cons_of_mem _ hmem)
      rw [clock_cons, clock_cons, hopening, List.cons_lt_cons_iff, List.cons_lt_cons_iff] at h
      obtain impossible | ⟨-, fewer | ⟨same, h⟩⟩ := h
      · exact absurd impossible (Int.lt_irrefl _)
      · have below := ahead_lt_rounds running
        rw [hrest] at below
        rw [ahead, ahead, hrest]
        generalize Instruction.rounds (inner.map opening) = rounds at below ⊢
        calc (next.left - 1).toNat * rounds + ahead rest
            < (next.left - 1).toNat * rounds + rounds := Nat.add_lt_add_left below _
          _ = ((next.left - 1).toNat + 1) * rounds := by rw [Nat.add_mul, Nat.one_mul]
          _ ≤ (loop.left - 1).toNat * rounds := Nat.mul_le_mul_right _ (by omega)
          _ ≤ (loop.left - 1).toNat * rounds + ahead inner := Nat.le_add_right _ _
      · rw [ahead, ahead, same, hrest]
        exact Nat.add_lt_add_left (ih hrest running h) _

end OpenLoop

theorem Execution.Inside.clock_eq {before : List Instruction} {loops : List OpenLoop}
    {x : Execution} (h : x.Inside limit p before loops) : x.clock = OpenLoop.clock x.pc loops := by
  have slots : x.stack.slots = (loops.flatMap OpenLoop.slots).reverse := by
    rw [← h.slots, LoopStack.toList, List.reverse_reverse]
  rw [Execution.clock, OpenLoop.clock, slots]
  generalize [-(x.pc : Int)] = tail
  clear h slots
  induction loops using List.reverseRecOn generalizing tail with
  | nil => rfl
  | append_singleton outer loop ih =>
      rw [List.flatMap_append, List.flatMap_singleton, List.reverse_append, List.foldr_append]
      exact ih _

namespace Scene

/-- The scenes of a run from one scene on, at most so many. At each of them a command is dispatched,
    save where the program is at its end or has a fault. -/
def trail (settings : Settings) (stride : Stride) (trace : Bool) (p : Program) :
    Nat → Scene → List Scene
  | 0, _ => []
  | n + 1, s =>
    s :: match s.next? settings stride trace p with
      | none => []
      | some t => trail settings stride trace p n t

variable {s : Scene} {before : List Instruction} {loops : List OpenLoop}

/-- Every scene of a run is in some loops, and its clock lies below the clocks of all scenes before
    it. -/
theorem trail_falls (stride : Stride) (trace : Bool) (n : Nat)
    (h : s.execution.Inside settings.engine.maxRepeat p before loops) :
    (∀ t ∈ trail settings stride trace p n s,
      (∃ before loops, t.execution.Inside settings.engine.maxRepeat p before loops) ∧
        t.execution.clock ≤ s.execution.clock) ∧
      (trail settings stride trace p n s).Pairwise fun t u =>
        u.execution.clock < t.execution.clock := by
  induction n generalizing s before loops with
  | zero => exact ⟨fun t hmem => absurd hmem List.not_mem_nil, .nil⟩
  | succ n ih =>
      rw [trail]
      cases hnext : s.next? settings stride trace p with
      | none =>
          refine ⟨fun t hmem => ?_, List.pairwise_singleton _ _⟩
          rw [List.mem_singleton.mp hmem]
          exact ⟨⟨before, loops, h⟩, le_refl _⟩
      | some u =>
          obtain ⟨call, hstep⟩ := step_of_next? hnext
          obtain ⟨before', loops', inside⟩ := h.step hstep
          have falls : u.execution.clock < s.execution.clock := h.clock_lt hstep
          obtain ⟨later, ordered⟩ := ih inside
          refine ⟨fun t hmem =>
            ?_, .cons (fun t hmem => lt_of_le_of_lt (later t hmem).2 falls) ordered⟩
          obtain rfl | hmem := List.mem_cons.mp hmem
          · exact ⟨⟨before, loops, h⟩, le_refl _⟩
          · exact ⟨(later t hmem).1, le_of_lt (lt_of_le_of_lt (later t hmem).2 falls)⟩

private theorem length_le_of_falling {α : Type} {items : List α} {height : α → Nat} {bound : Nat}
    (hbound : ∀ a ∈ items, height a < bound)
    (hfalls : items.Pairwise fun a b => height b < height a) :
    items.length ≤ bound := by
  have distinct : (items.map height).Nodup :=
    List.pairwise_map.mpr (hfalls.imp fun h => Nat.ne_of_gt h)
  have inside : items.map height ⊆ List.range bound := by
    intro a hmem
    obtain ⟨item, hitem, rfl⟩ := List.mem_map.mp hmem
    exact List.mem_range.mpr (hbound item hitem)
  simpa using (List.subperm_of_subset distinct inside).length_le

/-- The indices that a run comes to, in order. -/
def visits (settings : Settings) (stride : Stride) (trace : Bool) (p : Program) (n : Nat)
    (s : Scene) :
    List Nat :=
  (trail settings stride trace p n s).map fun t => t.execution.pc

/-- A run comes to a place at most as often as the loops around that place run in all. -/
theorem count_visits_le (n : Nat) (h : s.execution.Inside settings.engine.maxRepeat p before loops)
    {front : List Instruction} {index : Nat}
    (hfront : p.Passes settings.engine.maxRepeat front index) :
    (visits settings stride trace p n s).count index ≤
      Instruction.rounds (Instruction.openLoops front) := by
  obtain ⟨inside, ordered⟩ := trail_falls stride trace n h
  let here := (trail settings stride trace p n s).filter fun t => t.execution.pc == index
  have member : ∀ t ∈ here, t ∈ trail settings stride trace p n s ∧ t.execution.pc = index := by
    intro t hmem
    obtain ⟨hmem, hpc⟩ := List.mem_filter.mp hmem
    exact ⟨hmem, beq_iff_eq.mp hpc⟩
  have around : ∀ t ∈ here, ∃ loops,
      t.execution.Inside settings.engine.maxRepeat p front loops := by
    intro t hmem
    obtain ⟨htrail, hpc⟩ := member t hmem
    obtain ⟨⟨front', loops, ht⟩, -⟩ := inside t htrail
    obtain rfl : front' = front := ht.passes.unique (hpc ▸ hfront)
    exact ⟨loops, ht⟩
  choose! loopsAt hloops using around
  have bounded : ∀ t ∈ here, OpenLoop.ahead (loopsAt t) <
      Instruction.rounds (Instruction.openLoops front) := by
    intro t hmem
    rw [← (hloops t hmem).opens]
    exact OpenLoop.ahead_lt_rounds (hloops t hmem).running
  have falling : here.Pairwise fun t u => OpenLoop.ahead (loopsAt u) <
      OpenLoop.ahead (loopsAt t) := by
    refine (ordered.filter _).imp_of_mem fun {t u} ht hu hlt => ?_
    have same := (hloops u hu).opens.trans (hloops t ht).opens.symm
    rw [(hloops t ht).clock_eq, (hloops u hu).clock_eq, (member t ht).2, (member u hu).2] at hlt
    exact OpenLoop.ahead_lt_of_clock_lt same (hloops u hu).running hlt
  calc (visits settings stride trace p n s).count index
      = here.length := by
        rw [visits, List.count, List.countP_map, List.countP_eq_length_filter]
        rfl
    _ ≤ Instruction.rounds (Instruction.openLoops front) := length_le_of_falling bounded falling

end Scene

namespace Program.Passes

variable {before : List Instruction} {index : Nat}

theorem command_of_mem_openLoops (h : p.Passes limit before index) {i : Instruction}
    (hmem : i ∈ Instruction.openLoops before) :
    i.command = .repeat (i.command.runs : Nat) ∧ (i.command.runs : Int) ≤ limit := by
  induction h with
  | start => cases hmem
  | @next before index k _ hread ih =>
      obtain ⟨hmark, -⟩ | ⟨count, hcount⟩ | hloop := k.command.mark_cases
      · rw [Instruction.openLoops_plain hmark] at hmem
        exact ih hmem
      · rw [Instruction.openLoops_repeat hcount] at hmem
        obtain hmem | hmem := List.mem_append.mp hmem
        · exact ih hmem
        · obtain rfl := List.mem_singleton.mp hmem
          have accepted := (readAt_ok hread).1
          rw [hcount] at accepted
          obtain ⟨positive, within⟩ := accepted
          have all : ((Command.repeat count).runs : Int) = count := by
            rw [Command.runs]
            omega
          rw [hcount, all]
          exact ⟨rfl, within⟩
      · rw [Instruction.openLoops_loop hloop] at hmem
        exact ih (List.mem_of_mem_dropLast hmem)

theorem rounds_le (h : p.Passes limit before index) :
    Instruction.rounds (Instruction.openLoops before) ≤ countProduct p.toList := by
  have positive : 0 < (before.map fun i => i.command.runs).prod := by
    apply List.prod_pos
    intro runs hmem
    obtain ⟨i, -, rfl⟩ := List.mem_map.mp hmem
    exact i.command.runs_pos
  calc Instruction.rounds (Instruction.openLoops before)
      ≤ (before.map fun i => i.command.runs).prod :=
        Nat.le_of_dvd positive ((Instruction.openLoops_sublist before).map _).prod_dvd_prod
    _ ≤ (before.map fun i => i.command.runs).prod * countProduct (p.toList.drop index) :=
        Nat.le_mul_of_pos_right _ (countProduct_pos _)
    _ ≤ countProduct p.toList := h.runs_le

end Program.Passes

namespace Scene

variable {s : Scene} {before : List Instruction} {loops : List OpenLoop}

theorem length_trail_le (stride : Stride) (trace : Bool) (n : Nat)
    (h : s.execution.Inside settings.engine.maxRepeat p before loops) :
    (trail settings stride trace p n s).length ≤ p.workBound := by
  obtain ⟨inside, -⟩ := trail_falls stride trace n h
  let places := visits settings stride trace p n s
  have passed : ∀ index ∈ places, ∃ front, p.Passes settings.engine.maxRepeat front index := by
    intro index hmem
    obtain ⟨t, htrail, rfl⟩ := List.mem_map.mp hmem
    obtain ⟨⟨front, _, ht⟩, -⟩ := inside t htrail
    exact ⟨front, ht.passes⟩
  have within : places.toFinset ⊆ Finset.range (p.size + 1) := by
    intro index hmem
    obtain ⟨front, hfront⟩ := passed index (List.mem_toFinset.mp hmem)
    exact Finset.mem_range.mpr (Nat.lt_succ_of_le hfront.index_le)
  have often : ∀ index ∈ places.toFinset, places.count index ≤ Program.countProduct p.toList := by
    intro index hmem
    obtain ⟨front, hfront⟩ := passed index (List.mem_toFinset.mp hmem)
    exact Nat.le_trans (count_visits_le n h hfront) hfront.rounds_le
  calc (trail settings stride trace p n s).length
      = places.length := (List.length_map _).symm
    _ = ∑ index ∈ places.toFinset, places.count index := (List.sum_toFinset_count_eq_length _).symm
    _ ≤ places.toFinset.card * Program.countProduct p.toList := Finset.sum_le_card_nsmul _ _ _ often
    _ ≤ (p.size + 1) * Program.countProduct p.toList := by
        refine Nat.mul_le_mul_right _ ?_
        simpa using Finset.card_le_card within

theorem trail_complete (settings : Settings) (stride : Stride) (trace : Bool) (p : Program)
    (n : Nat) (s : Scene) :
    (trail settings stride trace p n s).length = n ∨
      ∃ m t, Reaches settings stride trace p m s t ∧ t.next? settings stride trace p = none ∧
        (trail settings stride trace p n s).length = m + 1 := by
  induction n generalizing s with
  | zero => exact .inl rfl
  | succ n ih =>
      rw [trail]
      cases hnext : s.next? settings stride trace p with
      | none => exact .inr ⟨0, s, .refl s, hnext, rfl⟩
      | some u =>
          obtain hall | ⟨m, t, hreach, hlast, hlength⟩ := ih u
          · exact .inl (congrArg (· + 1) hall)
          · refine .inr ⟨1 + m, t, (Reaches.single hnext).trans hreach, hlast, ?_⟩
            rw [List.length_cons, hlength, Nat.add_comm 1 m]

/-- From open loops every run comes to a last scene within the bound on its work. -/
theorem exists_last (stride : Stride) (trace : Bool)
    (h : s.execution.Inside settings.engine.maxRepeat p before loops) :
    ∃ n t, Reaches settings stride trace p n s t ∧ t.next? settings stride trace p = none ∧
      n < p.workBound := by
  have short := length_trail_le stride trace (p.workBound + 1) h
  obtain hall | ⟨m, t, hreach, hlast, hlength⟩ :=
    trail_complete settings stride trace p (p.workBound + 1) s
  · omega
  · exact ⟨m, t, hreach, hlast, by omega⟩

theorem ending_of_last (hlast : s.next? settings stride trace p = none) (fuel : Nat) :
    let ending := (s.execution.runFor settings stride trace p (fuel + 1) s.surface).ending
    (s.execution.step settings stride trace p = .finish ∧ ending = .finished) ∨
      (s.execution.step settings stride trace p ≠ .finish ∧ ∃ fault, ending = .failed fault) := by
  unfold next? at hlast
  rw [Execution.runFor]
  split at hlast
  · cases hlast
  · rename_i after call hstep
    split at hlast
    · cases hlast
    · rename_i surface fault hdraw
      simp only [hstep, hdraw]
      exact .inr ⟨by simp, _, rfl⟩
  · rename_i hstep
    simp only [hstep]
    exact .inl ⟨trivial, trivial⟩
  · rename_i fault after hstep
    simp only [hstep]
    exact .inr ⟨by simp, _, rfl⟩

end Scene

namespace Interpreter

theorem opening_inside (interpreter : Interpreter) (limit : Int) (p : Program) :
    interpreter.opening.execution.Inside limit p [] [] :=
  ⟨.start, rfl, rfl, nofun, rfl, Nat.zero_le _⟩

/-- Every run of every program comes to a last scene, and there it is finished or given up. On its
    way it comes to each place at most as often as the counts of the loops around the place multiply
    to, and all of these are counts that the reader accepts. -/
theorem runProgram_halts (interpreter : Interpreter) (p : Program) :
    let limit := interpreter.settings.engine.maxRepeat
    (∃ n s, Scene.Reaches interpreter.settings interpreter.stride interpreter.trace p n
        interpreter.opening s ∧
      s.next? interpreter.settings interpreter.stride interpreter.trace p = none ∧
      (s.execution.step interpreter.settings interpreter.stride interpreter.trace p = .finish ∧
          (interpreter.runProgram p).fault = none ∨
        s.execution.step interpreter.settings interpreter.stride interpreter.trace p ≠ .finish ∧
          ∃ fault, (interpreter.runProgram p).fault = some (.run fault))) ∧
    ∀ before, before <+: (p.walk limit).instructions →
      ∃ counts : List Nat,
        (Instruction.openLoops before).map Instruction.command =
          counts.map (fun count : Nat => Command.repeat count) ∧
        (∀ count ∈ counts, 0 < count ∧ (count : Int) ≤ limit) ∧
        ∀ n,
        (interpreter.opening.visits interpreter.settings interpreter.stride interpreter.trace
          p n).count
          (Instruction.boundary before) ≤ counts.prod := by
  intro limit
  have inside := interpreter.opening_inside limit p
  refine ⟨?_, fun before hfront => ?_⟩
  · obtain ⟨n, s, hreach, hlast, bound⟩ :=
      Scene.exists_last interpreter.stride interpreter.trace inside
    refine ⟨n, s, hreach, hlast, ?_⟩
    obtain ⟨fuel, hfuel⟩ := Nat.exists_eq_add_of_lt bound
    have told : (interpreter.runProgram p).fault = _ := (runProgram_of_run rfl).1
    rw [Execution.run, hfuel, Nat.add_assoc, hreach.runFor] at told
    obtain ⟨hfinish, hending⟩ | ⟨hfinish, fault, hending⟩ := Scene.ending_of_last hlast fuel
    · rw [hending] at told
      exact .inl ⟨hfinish, told⟩
    · rw [hending] at told
      exact .inr ⟨hfinish, fault, told⟩
  · have passed := Program.Passes.of_isPrefix hfront
    refine ⟨(Instruction.openLoops before).map fun i => i.command.runs, ?_, ?_, ?_⟩
    · rw [List.map_map]
      exact List.map_congr_left fun i hmem => (passed.command_of_mem_openLoops hmem).1
    · intro count hmem
      obtain ⟨i, hi, rfl⟩ := List.mem_map.mp hmem
      exact ⟨i.command.runs_pos, (passed.command_of_mem_openLoops hi).2⟩
    · exact fun n => Scene.count_visits_le n inside passed

/-- The line in the first loop is drawn twice, which is as often as the loop's count allows. -/
theorem runProgram_halts_unclosed :
    (level.opening.visits level.settings level.stride level.trace .unclosed 20).count 4 = 2 ∧
      ∃ counts : List Nat, counts.prod = 2 ∧
        ∀ n, (level.opening.visits level.settings level.stride level.trace .unclosed n).count 4 ≤
          counts.prod := by
  have passed : Program.unclosed.Passes level.settings.engine.maxRepeat
      [⟨.pen true, 1, 1, 2⟩, ⟨.repeat 2, 2, 2, 4⟩] 4 := .next (.next .start (by decide)) (by decide)
  obtain ⟨counts, hcounts, -, hvisits⟩ := (runProgram_halts level .unclosed).2 _ passed.isPrefix
  rw [passed.boundary] at hvisits
  have only : counts.map (fun count : Nat => Command.repeat count) = [.repeat 2] := hcounts.symm
  obtain ⟨count, _, rfl, hcount, hnil⟩ := List.map_eq_cons_iff.mp only
  obtain rfl := List.map_eq_nil_iff.mp hnil
  have two : (count : Int) = 2 := Command.repeat.inj hcount
  obtain rfl : count = 2 := by omega
  exact ⟨by decide +kernel, [2], rfl, hvisits⟩

end Interpreter

end TurtleGraphics
