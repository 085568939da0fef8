import TurtleGraphics.Proofs.Execution.Reach
import TurtleGraphics.Proofs.Program.Boundary

/-! # The loop stack and the nesting of the program

Whatever a run has done so far, its stack holds the loops that are open in the text before its
index, and nothing else. A jump back to the body of a loop keeps to this, because the text before
that body has the same open loops.
-/

namespace TurtleGraphics

namespace Instruction

/-- The starts of the loops that are open behind some commands, the outermost first. -/
def openLoops (before : List Instruction) : List Instruction :=
  before.foldl (fun opens i =>
    match i.command with
    | .repeat _ => opens ++ [i]
    | .loop => opens.dropLast
    | _ => opens) []

theorem openLoops_plain {i : Instruction} (h : i.command.mark = .plain i.command)
    (before : List Instruction) : openLoops (before ++ [i]) = openLoops before := by
  rw [openLoops, List.foldl_concat]
  cases hc : i.command with
  | «repeat» count => simp [hc, Command.mark] at h
  | loop => simp [hc, Command.mark] at h
  | _ => rfl

theorem openLoops_repeat {i : Instruction} {count : Int} (h : i.command = .repeat count)
    (before : List Instruction) : openLoops (before ++ [i]) = openLoops before ++ [i] := by
  rw [openLoops, List.foldl_concat, h]
  rfl

theorem openLoops_loop {i : Instruction} (h : i.command = .loop) (before : List Instruction) :
    openLoops (before ++ [i]) = (openLoops before).dropLast := by
  rw [openLoops, List.foldl_concat, h]
  rfl

/-- An end where no loop is open takes the depth below the number of open loops, for good. -/
theorem loopDepth_le_openLoops (before : List Instruction) :
    loopDepth before ≤ (openLoops before).length := by
  induction before using List.reverseRecOn with
  | nil => exact Int.le_refl _
  | append_singleton before i ih =>
      rw [loopDepth_concat]
      obtain ⟨hmark, hdeepens⟩ | ⟨count, hcount⟩ | hloop := i.command.mark_cases
      · rw [openLoops_plain hmark, hdeepens]
        omega
      · rw [openLoops_repeat hcount, hcount, Command.deepens_repeat, List.length_append]
        simp only [List.length_singleton]
        omega
      · rw [openLoops_loop hloop, hloop, Command.deepens_loop, List.length_dropLast]
        omega

end Instruction

variable {limit : Int} {p : Program}

theorem Program.Passes.to_body {before : List Instruction} {index : Nat}
    (h : p.Passes limit before index)
    (hdepth : Instruction.loopDepth before = (Instruction.openLoops before).length)
    {outer inner : List Instruction} {i : Instruction}
    (hopen : Instruction.openLoops before = outer ++ i :: inner) :
    ∃ front, p.Passes limit front i.next ∧ Instruction.openLoops front = outer ++ [i] ∧
      Instruction.loopDepth front = (Instruction.openLoops front).length := by
  induction h generalizing inner with
  | start => simp [Instruction.openLoops] at hopen
  | @next before index k passed hread ih =>
      have low := Instruction.loopDepth_le_openLoops before
      rw [Instruction.loopDepth_concat] at hdepth
      obtain ⟨hmark, hdeepens⟩ | ⟨count, hcount⟩ | hloop := k.command.mark_cases
      · rw [Instruction.openLoops_plain hmark] at hdepth hopen
        exact ih (by omega) hopen
      · have deeper : k.command.deepens = 1 := by rw [hcount, Command.deepens_repeat]
        have length := Instruction.openLoops_repeat hcount before
        rw [length] at hopen
        rcases List.eq_nil_or_concat inner with rfl | ⟨inner, last, rfl⟩
        · obtain ⟨houter, rfl⟩ := List.append_singleton_inj.mp hopen
          refine ⟨before ++ [k], passed.next hread, by rw [length, houter], ?_⟩
          rw [Instruction.loopDepth_concat, hdepth]
        · rw [length, List.length_append, List.length_singleton] at hdepth
          rw [List.concat_eq_append, ← List.cons_append, ← List.append_assoc] at hopen
          exact ih (by omega) (List.append_singleton_inj.mp hopen).1
      · have shallower : k.command.deepens = -1 := by rw [hloop, Command.deepens_loop]
        rw [Instruction.openLoops_loop hloop] at hdepth hopen
        rcases List.eq_nil_or_concat (Instruction.openLoops before) with hnil | ⟨opens, last, hlast⟩
        · simp [hnil] at hopen
        · rw [List.concat_eq_append] at hlast
          rw [hlast, List.dropLast_concat] at hdepth hopen
          rw [hlast, List.length_append, List.length_singleton] at ih
          have longer : opens ++ [last] = outer ++ i :: (inner ++ [last]) := by
            rw [hopen, List.append_assoc, List.cons_append]
          exact ih (by omega) longer

/-- A loop that a run is in. -/
structure OpenLoop where
  /-- Its start. -/
  opening : Instruction
  /-- How many runs of its body are left, this one included. -/
  left : Int
  deriving Repr, DecidableEq

namespace OpenLoop

/-- What the loop has on the stack, the topmost last. -/
def slots (loop : OpenLoop) : List Int :=
  [(loop.opening.next : Int), loop.left]

/-- At least this run is left, and at most as many as the loop has in all. -/
def Running (loop : OpenLoop) : Prop :=
  ∃ count, loop.opening.command = .repeat count ∧ 1 ≤ loop.left ∧ loop.left ≤ count

theorem length_flatMap_slots (loops : List OpenLoop) :
    (loops.flatMap slots).length = 2 * loops.length := by
  induction loops with
  | nil => rfl
  | cons loop loops ih =>
      rw [List.flatMap_cons, List.length_append, ih, List.length_cons]
      simp only [slots, List.length_cons, List.length_nil]
      omega

end OpenLoop

/-- The run is in some loops: those that are open in the text before its index. -/
structure Execution.Inside (limit : Int) (p : Program) (before : List Instruction)
    (loops : List OpenLoop) (x : Execution) : Prop where
  /-- The index is the boundary behind the text before it. -/
  passes : p.Passes limit before x.pc
  opens : loops.map OpenLoop.opening = Instruction.openLoops before
  /-- No end of a loop was met where none is open. -/
  depth : Instruction.loopDepth before = loops.length
  /-- All of them have runs left. -/
  running : ∀ loop ∈ loops, loop.Running
  /-- The stack holds them and nothing else. -/
  slots : x.stack.toList = loops.flatMap OpenLoop.slots
  room : 2 * loops.length ≤ x.stack.capacity

namespace Execution.Inside

variable {settings : Settings} {stride : Stride} {trace : Bool} {before : List Instruction}
  {loops : List OpenLoop} {x y : Execution}

theorem length_slots (h : x.Inside limit p before loops) :
    x.stack.slots.length = 2 * loops.length := by
  rw [← OpenLoop.length_flatMap_slots, ← h.slots, LoopStack.toList, List.length_reverse]

theorem innermost (h : x.Inside limit p before loops) {count body : Int} {slots : List Int}
    (hslots : x.stack.slots = count :: body :: slots) :
    ∃ outer opening, loops = outer ++ [⟨opening, count⟩] ∧ body = opening.next ∧
      slots.reverse = outer.flatMap OpenLoop.slots := by
  have whole := h.slots
  rw [LoopStack.toList, hslots] at whole
  rcases List.eq_nil_or_concat loops with rfl | ⟨outer, ⟨opening, left⟩, rfl⟩
  · simp at whole
  · simp only [List.concat_eq_append, List.flatMap_append, List.flatMap_singleton, OpenLoop.slots,
      List.reverse_cons, List.append_assoc, List.cons_append, List.nil_append] at whole
    obtain ⟨below, top⟩ := List.append_inj' whole rfl
    simp only [List.cons.injEq, and_true] at top
    obtain ⟨rfl, rfl⟩ := top
    exact ⟨outer, opening, List.concat_eq_append, rfl, below⟩

section Commands

variable {i : Instruction} (h : x.Inside limit p before loops)
  (hread : p.readAt limit x.pc = some (.ok i)) (hcapacity : y.stack.capacity = x.stack.capacity)

include h hread hcapacity

theorem plain (hmark : i.command.mark = .plain i.command) (hpc : y.pc = i.next)
    (hslots : y.stack.slots = x.stack.slots) : y.Inside limit p (before ++ [i]) loops where
  passes := hpc ▸ h.passes.next hread
  opens := by rw [h.opens, Instruction.openLoops_plain hmark]
  depth := by rw [Instruction.loopDepth_concat, Command.deepens_plain hmark, h.depth, Int.add_zero]
  running := h.running
  slots := by rw [LoopStack.toList, hslots, ← LoopStack.toList, h.slots]
  room := hcapacity ▸ h.room

theorem enter {count : Int} (hcount : i.command = .repeat count) (hpc : y.pc = i.next)
    (hroom : x.stack.slots.length ≠ x.stack.capacity)
    (hmore : x.stack.slots.length + 1 ≠ x.stack.capacity)
    (hslots : y.stack.slots = count :: (i.next : Int) :: x.stack.slots) :
    y.Inside limit p (before ++ [i]) (loops ++ [⟨i, count⟩]) where
  passes := hpc ▸ h.passes.next hread
  opens := by
    rw [List.map_append, h.opens, Instruction.openLoops_repeat hcount]
    rfl
  depth := by
    rw [Instruction.loopDepth_concat, hcount, Command.deepens_repeat, h.depth, List.length_append]
    rfl
  running := by
    have accepted := (Program.readAt_ok hread).1
    rw [hcount] at accepted
    intro loop hmem
    rcases List.mem_append.mp hmem with hmem | hmem
    · exact h.running loop hmem
    · obtain rfl := List.mem_singleton.mp hmem
      exact ⟨count, hcount, accepted.1, Int.le_refl _⟩
  slots := by
    rw [LoopStack.toList, hslots, List.flatMap_append, ← h.slots, LoopStack.toList]
    simp [OpenLoop.slots]
  room := by
    have := h.length_slots
    have := h.room
    rw [hcapacity, List.length_append, List.length_singleton]
    omega

theorem leave {count body : Int} {slots : List Int} (hloop : i.command = .loop)
    (hwhole : x.stack.slots = count :: body :: slots) (hpc : y.pc = i.next)
    (hslots : y.stack.slots = slots) :
    y.Inside limit p (before ++ [i]) loops.dropLast := by
  obtain ⟨outer, opening, rfl, -, hbelow⟩ := h.innermost hwhole
  have opens := h.opens
  have depth := h.depth
  have room := h.room
  rw [List.map_append, List.map_singleton] at opens
  rw [List.length_append, List.length_singleton] at depth room
  rw [List.dropLast_concat]
  refine ⟨hpc ▸ h.passes.next hread, ?_, ?_, ?_, ?_, ?_⟩
  · rw [Instruction.openLoops_loop hloop, ← opens, List.dropLast_concat]
  · rw [Instruction.loopDepth_concat, hloop, Command.deepens_loop, depth]
    omega
  · exact fun loop hmem => h.running loop (List.mem_append_left _ hmem)
  · rw [LoopStack.toList, hslots, hbelow]
  · omega

end Commands

/-- The end of a loop with runs left goes back behind its start, where the same loops are open, and
    takes a run off the innermost of them. -/
theorem again (h : x.Inside limit p before loops) (hcapacity : y.stack.capacity = x.stack.capacity)
    {count body : Int} {slots : List Int} (hwhole : x.stack.slots = count :: body :: slots)
    (hleft : 1 < count) (hpc : y.pc = body.toNat)
    (hslots : y.stack.slots = (count - 1) :: body :: slots) :
    ∃ before' loops', y.Inside limit p before' loops' := by
  obtain ⟨outer, opening, rfl, rfl, hbelow⟩ := h.innermost hwhole
  have running := h.running ⟨opening, count⟩ (by simp)
  have opens := h.opens
  have depth := h.depth
  have room := h.room
  rw [List.map_append, List.map_singleton] at opens
  rw [List.length_append, List.length_singleton] at depth room
  obtain ⟨front, passed, hfront, hdepth⟩ := h.passes.to_body
    (by rw [← opens, depth]; simp) opens.symm
  refine ⟨front, outer ++ [⟨opening, count - 1⟩], hpc ▸ passed, ?_, ?_, ?_, ?_, ?_⟩
  · rw [hfront, List.map_append]
    rfl
  · rw [hdepth, hfront]
    simp
  · intro loop hmem
    rcases List.mem_append.mp hmem with hmem | hmem
    · exact h.running loop (List.mem_append_left _ hmem)
    · obtain rfl := List.mem_singleton.mp hmem
      obtain ⟨all, hall, -, hle⟩ := running
      exact ⟨all, hall, by dsimp only; omega, by dsimp only at hle ⊢; omega⟩
  · rw [LoopStack.toList, hslots, List.flatMap_append, ← hbelow]
    simp [OpenLoop.slots]
  · rw [hcapacity, List.length_append, List.length_singleton]
    exact room

/-- Whatever a command does, the run is in open loops again. -/
theorem step (h : x.Inside settings.engine.maxRepeat p before loops) {call : Option DrawCall}
    (hstep : x.step settings stride trace p = .go y call) :
    ∃ before' loops', y.Inside settings.engine.maxRepeat p before' loops' := by
  obtain ⟨i, hread, -, hcapacity, hcases⟩ := Execution.step_go hstep
  obtain ⟨hmark, hpc, hslots⟩ | ⟨count, hcount, hpc, hroom, hmore, hslots⟩ |
    ⟨hloop, count, body, slots, hwhole, ⟨hleft, hpc, hslots⟩ | ⟨-, hpc, hslots⟩⟩ := hcases
  · exact ⟨_, _, h.plain hread hcapacity hmark hpc hslots⟩
  · exact ⟨_, _, h.enter hread hcapacity hcount hpc hroom hmore hslots⟩
  · exact h.again hcapacity hwhole hleft hpc hslots
  · exact ⟨_, _, h.leave hread hcapacity hloop hwhole hpc hslots⟩

end Execution.Inside

theorem Scene.Reaches.stays_inside {settings : Settings} {stride : Stride} {trace : Bool} {n : Nat}
    {s t : Scene} (h : Scene.Reaches settings stride trace p n s t) {before : List Instruction}
    {loops : List OpenLoop} (inside : s.execution.Inside settings.engine.maxRepeat p before loops) :
    ∃ before loops, t.execution.Inside settings.engine.maxRepeat p before loops := by
  induction h with
  | refl => exact ⟨before, loops, inside⟩
  | tail _ hnext ih =>
      obtain ⟨before', loops', inside'⟩ := ih inside
      obtain ⟨call, hstep⟩ := Scene.step_of_next? hnext
      exact inside'.step hstep

/-- Before its first command a run is in no loop, and no command changes the room of the stack. -/
theorem Scene.Reaches.inside {settings : Settings} {stride : Stride} {trace : Bool} {n : Nat}
    {s t : Scene} (h : Scene.Reaches settings stride trace p n s t) (hpc : s.execution.pc = 0)
    (hempty : s.execution.stack.slots = []) :
    t.execution.stack.capacity = s.execution.stack.capacity ∧
      ∃ before loops, t.execution.Inside settings.engine.maxRepeat p before loops := by
  have begun : s.execution.Inside settings.engine.maxRepeat p [] [] :=
    ⟨hpc ▸ .start, rfl, rfl, nofun, by rw [LoopStack.toList, hempty]; rfl, Nat.zero_le _⟩
  refine ⟨?_, h.stays_inside begun⟩
  clear begun
  induction h with
  | refl => rfl
  | tail _ hnext ih =>
      obtain ⟨call, hstep⟩ := Scene.step_of_next? hnext
      obtain ⟨-, -, -, hkept, -⟩ := Execution.step_go hstep
      exact hkept.trans (ih hpc hempty)

namespace Interpreter

variable {interpreter : Interpreter} {n : Nat} {s : Scene}

/-- Between two commands of any run, the stack is the nesting of the text before the index: two
    slots for each open loop, where its body starts and how many of its runs are left. So the end of
    a loop finds either nothing or both of them, and the depth is the same whenever the run comes
    by. -/
theorem reached_stack
    (h : Scene.Reaches interpreter.settings interpreter.stride interpreter.trace p n
      interpreter.opening s) :
    s.execution.pc ≤ p.size ∧
      (∃ before, before <+: (p.walk interpreter.settings.engine.maxRepeat).instructions ∧
        Instruction.boundary before = s.execution.pc ∧
        (s.execution.stack.size : Int) = 2 * Instruction.loopDepth before ∧
        Instruction.loopDepth before ≤ (interpreter.execution.stack.capacity / 2 : Nat) ∧
        ∃ loops : List OpenLoop, loops.map OpenLoop.opening = Instruction.openLoops before ∧
          (∀ loop ∈ loops, loop.Running) ∧
          s.execution.stack.toList = loops.flatMap OpenLoop.slots) ∧
      (∀ count rest, s.execution.stack.pop = .ok (count, rest) →
        ∃ body dropped, rest.pop = .ok (body, dropped)) ∧
      ∀ m t, Scene.Reaches interpreter.settings interpreter.stride interpreter.trace p m
        interpreter.opening t → t.execution.pc = s.execution.pc →
          t.execution.stack.size = s.execution.stack.size := by
  obtain ⟨hcapacity, before, loops, inside⟩ := h.inside rfl rfl
  change _ = interpreter.execution.stack.capacity at hcapacity
  have hlength := inside.length_slots
  have hroom := inside.room
  refine ⟨inside.passes.index_le, ⟨before, inside.passes.isPrefix, inside.passes.boundary, ?_, ?_,
    loops, inside.opens, inside.running, inside.slots⟩, ?_, ?_⟩
  · rw [inside.depth, LoopStack.size]
    omega
  · rw [inside.depth, ← hcapacity]
    omega
  · intro count rest hpop
    rw [LoopStack.of_pop_ok hpop] at hlength
    cases hrest : rest.slots with
    | nil =>
        rw [hrest] at hlength
        simp only [List.length_cons, List.length_nil] at hlength
        omega
    | cons body slots =>
        exact ⟨body, { rest with slots, stale := body :: rest.stale }, by
          simp only [LoopStack.pop, hrest]⟩
  · intro m t ht hpc
    obtain ⟨-, before', loops', inside'⟩ := ht.inside rfl rfl
    have same : before = before' := inside.passes.unique (hpc ▸ inside'.passes)
    have depth := inside.depth
    have depth' := inside'.depth
    rw [same] at depth
    rw [LoopStack.size, LoopStack.size, hlength, inside'.length_slots]
    omega

/-- In the body of its first loop the run has two slots in use, and two runs left. -/
theorem reached_stack_unclosed :
    ∃ s, Scene.Reaches level.settings level.stride level.trace .unclosed 2 level.opening s ∧
      s.execution.stack.toList = [4, 2] ∧
      ∃ before, Instruction.boundary before = 4 ∧ Instruction.loopDepth before = 1 := by
  have reached : Scene.Reaches level.settings level.stride level.trace .unclosed 2 level.opening
      ⟨⟨{ x := 320, y := 240, penDown := true }, ⟨4, [2, 4], []⟩, 4, 2, 0, #[]⟩, .record #[]⟩ :=
    .tail (.tail (.refl _) rfl) rfl
  obtain ⟨-, ⟨before, -, hboundary, hsize, -⟩, -⟩ := reached_stack reached
  refine ⟨_, reached, rfl, before, hboundary, ?_⟩
  simp only [LoopStack.size, List.length_cons, List.length_nil] at hsize
  omega

end Interpreter

end TurtleGraphics
