import TurtleGraphics.Proofs.Execution.Journey
import TurtleGraphics.Proofs.Execution.Reach
import TurtleGraphics.Proofs.Program.Standing

/-! # Loops unroll

A run jumps back with a stack of counts, and yet does to the turtle what the unrolled commands do
one after the other. The proof follows the nesting of the program: a block is carried out from its
first index to the index behind it and leaves the stack as it was, whatever lies on it below.
-/

namespace TurtleGraphics

variable {settings : Settings} {stride : Stride} {trace : Bool} {p : Program} {ground : Surface}

/-- A scene shows a journey that began on some surface with no line drawn. -/
structure Scene.Shows (ground : Surface) (j : Journey) (s : Scene) : Prop where
  /-- The turtle is where the journey led. -/
  turtle : s.execution.turtle = j.turtle
  /-- The surface has taken the calls of the journey. -/
  surface : s.surface = ground.drawAll j.calls
  /-- The lines of the journey are counted. -/
  lines : s.execution.lines = j.lines

theorem Interpreter.opening_shows (interpreter : Interpreter) :
    interpreter.opening.Shows interpreter.surface (.start interpreter.turtle) :=
  ⟨rfl, rfl, rfl⟩

/-- The next command of a scene cannot be obeyed, and the run stops with all as it is. -/
def Scene.Stuck (settings : Settings) (stride : Stride) (trace : Bool) (p : Program)
    (fault : NumberFault) (s : Scene) : Prop :=
  ∃ after, s.execution.step settings stride trace p = .stop (.number fault) after ∧
    after.turtle = s.execution.turtle ∧ after.commands = s.execution.commands ∧
    after.lines = s.execution.lines

/-- From a scene the run dispatches some commands in this order and arrives at an index with such
    slots in use. If one of them has no value for the turtle, the run comes to that one and is
    stuck. -/
def Follows (settings : Settings) (stride : Stride) (trace : Bool) (p : Program) (ground : Surface)
    (j : Journey) (commands : List Command) (s : Scene) (index : Nat) (slots : List Int) : Prop :=
  ∃ n t, Scene.Reaches settings stride trace p n s t ∧
    t.Shows ground (j.follow settings stride commands) ∧
    ((j.follow settings stride commands).fault = none →
      n = commands.length ∧ t.execution.pc = index ∧ t.execution.stack.slots = slots ∧
        t.execution.stack.capacity = s.execution.stack.capacity) ∧
    ∀ fault, (j.follow settings stride commands).fault = some fault →
      n < commands.length ∧ t.Stuck settings stride trace p fault

namespace Follows

variable {j : Journey} {s : Scene} {index : Nat} {slots : List Int}

theorem nil (hshows : s.Shows ground j) (hfault : j.fault = none) :
    Follows settings stride trace p ground j [] s s.execution.pc s.execution.stack.slots :=
  ⟨0, s, .refl s, hshows, fun _ => ⟨rfl, rfl, rfl, rfl⟩, fun fault h => by simp [hfault] at h⟩

theorem append {commands more : List Command} {index' : Nat} {slots' : List Int}
    (h : Follows settings stride trace p ground j commands s index slots)
    (hmore : ∀ t : Scene, t.Shows ground (j.follow settings stride commands) →
      (j.follow settings stride commands).fault = none → t.execution.pc = index →
      t.execution.stack.slots = slots →
      t.execution.stack.capacity = s.execution.stack.capacity →
      Follows settings stride trace p ground (j.follow settings stride commands) more t index'
        slots') :
    Follows settings stride trace p ground j (commands ++ more) s index' slots' := by
  obtain ⟨n, t, hreach, hshows, hdone, hstuck⟩ := h
  unfold Follows
  rw [Journey.follow_append, List.length_append]
  cases hfault : (j.follow settings stride commands).fault with
  | none =>
      obtain ⟨rfl, hpc, hslots, hcapacity⟩ := hdone hfault
      obtain ⟨m, u, hreach', hshows', hdone', hstuck'⟩ := hmore t hshows hfault hpc hslots hcapacity
      refine ⟨commands.length + m, u, hreach.trans hreach', hshows', ?_, ?_⟩
      · intro hnone
        obtain ⟨rfl, hpc', hslots', hcapacity'⟩ := hdone' hnone
        exact ⟨rfl, hpc', hslots', hcapacity'.trans hcapacity⟩
      · intro fault hsome
        obtain ⟨hlt, hend⟩ := hstuck' fault hsome
        exact ⟨Nat.add_lt_add_left hlt _, hend⟩
  | some fault =>
      obtain ⟨hlt, hend⟩ := hstuck fault hfault
      rw [Journey.follow_of_fault hfault]
      refine ⟨n, t, hreach, hshows, fun hnone => by simp [hfault] at hnone, ?_⟩
      intro fault' hsome
      obtain rfl := Option.some.inj (hfault.symm.trans hsome)
      exact ⟨Nat.lt_add_right _ hlt, hend⟩

theorem quiet {command : Command} {x : Execution} (hshows : s.Shows ground j)
    (hfault : j.fault = none) (hobey : j.obey settings stride command = j)
    (hstep : s.execution.step settings stride trace p = .go x none)
    (hturtle : x.turtle = s.execution.turtle) (hlines : x.lines = s.execution.lines)
    (hcapacity : x.stack.capacity = s.execution.stack.capacity) :
    Follows settings stride trace p ground j [command] s x.pc x.stack.slots := by
  have hnext : s.next? settings stride trace p = some ⟨x, s.surface⟩ := by
    rw [Scene.next?, hstep]
  refine ⟨1, ⟨x, s.surface⟩, .single hnext, ?_, fun _ => ⟨rfl, rfl, rfl, hcapacity⟩, ?_⟩
  · rw [Journey.follow_singleton, hobey]
    exact ⟨hturtle.trans hshows.turtle, hshows.surface, hlines.trans hshows.lines⟩
  · intro fault hsome
    rw [Journey.follow_singleton, hobey, hfault] at hsome
    cases hsome

theorem plain (hground : ground.isCanvas = false) {i : Instruction} (hshows : s.Shows ground j)
    (hfault : j.fault = none)
    (hread : p.readAt settings.engine.maxRepeat s.execution.pc = some (.ok i))
    (hplain : i.command.mark = .plain i.command) :
    Follows settings stride trace p ground j [i.command] s i.next s.execution.stack.slots := by
  cases hobey : s.execution.turtle.obey settings stride i.command with
  | error fault =>
      have hj : j.obey settings stride i.command = { j with fault := some fault } := by
        simp only [Journey.obey, hfault, ← hshows.turtle, hobey]
      refine ⟨0, s, .refl s, ?_, fun hnone => ?_, fun fault' hsome => ?_⟩
      · rw [Journey.follow_singleton, hj]
        exact ⟨hshows.turtle, hshows.surface, hshows.lines⟩
      · rw [Journey.follow_singleton, hj] at hnone
        cases hnone
      · rw [Journey.follow_singleton, hj] at hsome
        cases hsome
        exact ⟨Nat.one_pos, Execution.step_number_fault hread hplain hobey⟩
  | ok result =>
      obtain ⟨turtle, call⟩ := result
      have hj : j.obey settings stride i.command = ⟨turtle, j.calls ++ call.toList, none⟩ := by
        simp only [Journey.obey, hfault, ← hshows.turtle, hobey]
      let x : Execution := { s.execution.dispatched trace i with
        turtle, lines := s.execution.lines + call.toList.countP DrawCall.isLine }
      have hstep : s.execution.step settings stride trace p = .go x call :=
        Execution.step_plain hread hplain hobey
      have hnext : s.next? settings stride trace p =
          some ⟨x, ground.drawAll (j.calls ++ call.toList)⟩ := by
        rw [Scene.next?, hstep]
        cases call with
        | none => simp [hshows.surface]
        | some call =>
            simp only [hshows.surface, Surface.draw_of_not_canvas
              (Surface.isCanvas_drawAll hground _), Option.toList_some, Surface.drawAll_append]
      have kept : x.stack = s.execution.stack := Execution.dispatched_stack
      refine ⟨1, _, .single hnext, ?_, fun _ => ⟨rfl, rfl, ?_, ?_⟩, fun fault hsome => ?_⟩
      · rw [Journey.follow_singleton, hj]
        refine ⟨rfl, rfl, ?_⟩
        simp only [x, Journey.lines, List.countP_append, hshows.lines]
      · rw [kept]
      · rw [kept]
      · rw [Journey.follow_singleton, hj] at hsome
        cases hsome

theorem opening {i : Instruction} {count : Int} (hshows : s.Shows ground j)
    (hfault : j.fault = none)
    (hread : p.readAt settings.engine.maxRepeat s.execution.pc = some (.ok i))
    (hcount : i.command = .repeat count)
    (room : s.execution.stack.slots.length + 2 ≤ s.execution.stack.capacity) :
    Follows settings stride trace p ground j [.repeat count] s i.next
      (count :: (i.next : Int) :: s.execution.stack.slots) :=
  quiet hshows hfault (Journey.obey_repeat count) (Execution.step_repeat hread hcount room)
    Execution.dispatched_turtle Execution.dispatched_lines rfl

theorem again {i : Instruction} {count : Int} {body : Nat} {slots : List Int}
    (hshows : s.Shows ground j) (hfault : j.fault = none)
    (hread : p.readAt settings.engine.maxRepeat s.execution.pc = some (.ok i))
    (hloop : i.command = .loop) (hslots : s.execution.stack.slots = count :: (body : Int) :: slots)
    (room : s.execution.stack.slots.length ≤ s.execution.stack.capacity) (left : 1 < count) :
    Follows settings stride trace p ground j [.loop] s body
      ((count - 1) :: (body : Int) :: slots) :=
  quiet hshows hfault Journey.obey_loop (Execution.step_loop_again hread hloop hslots room left)
    Execution.dispatched_turtle Execution.dispatched_lines rfl

theorem done {i : Instruction} {count body : Int} {slots : List Int} (hshows : s.Shows ground j)
    (hfault : j.fault = none)
    (hread : p.readAt settings.engine.maxRepeat s.execution.pc = some (.ok i))
    (hloop : i.command = .loop)
    (hslots : s.execution.stack.slots = count :: body :: slots) (last : count ≤ 1) :
    Follows settings stride trace p ground j [.loop] s i.next slots :=
  quiet hshows hfault Journey.obey_loop (Execution.step_loop_done hread hloop hslots last)
    Execution.dispatched_turtle Execution.dispatched_lines rfl

end Follows

namespace Block

variable {j : Journey} {s : Scene}

/-- The runs of a body that are left, each with the loop's end behind it. The induction is on how
    many there are after this one: only the last of them leaves the loop. -/
private theorem copies_follow {body : Block Command Int} {start stop : Nat} {closing : Instruction}
    {slots : List Int} (hclosing : p.readAt settings.engine.maxRepeat stop = some (.ok closing))
    (hloop : closing.command = .loop) (room : slots.length + 2 ≤ s.execution.stack.capacity)
    (hbody : ∀ (j : Journey) (t : Scene) (count : Int), t.Shows ground j → j.fault = none →
      t.execution.pc = start → t.execution.stack.slots = count :: (start : Int) :: slots →
      t.execution.stack.capacity = s.execution.stack.capacity →
      Follows settings stride trace p ground j body.unroll t stop t.execution.stack.slots)
    (more : Nat) (hshows : s.Shows ground j) (hfault : j.fault = none)
    (hpc : s.execution.pc = start)
    (hslots : s.execution.stack.slots = ((more + 1 : Nat) : Int) :: (start : Int) :: slots) :
    Follows settings stride trace p ground j
      (List.replicate (more + 1) (body.unroll ++ [.loop])).flatten s closing.next slots := by
  induction more generalizing j s with
  | zero =>
      rw [List.replicate_one, List.flatten_singleton]
      refine (hbody j s _ hshows hfault hpc hslots rfl).append
        fun t hshows' hfault' hpc' hslots' _ => ?_
      exact Follows.done hshows' hfault' (hpc' ▸ hclosing) hloop (hslots'.trans hslots) (by simp)
  | succ more ih =>
      rw [List.replicate_succ, List.flatten_cons]
      have once : Follows settings stride trace p ground j (body.unroll ++ [.loop]) s start
          (((more + 1 : Nat) : Int) :: (start : Int) :: slots) := by
        refine (hbody j s _ hshows hfault hpc hslots rfl).append
          fun t hshows' hfault' hpc' hslots' hcapacity' => ?_
        have less : (((more + 1 + 1 : Nat) : Int) - 1) = ((more + 1 : Nat) : Int) := by omega
        have whole := hslots'.trans hslots
        rw [← less]
        refine Follows.again hshows' hfault' (hpc' ▸ hclosing) hloop whole ?_ (by omega)
        rw [whole, hcapacity']
        exact room
      refine once.append fun t hshows' hfault' hpc' hslots' hcapacity' => ?_
      refine ih (hcapacity'.symm ▸ room) ?_ hshows' hfault' hpc' hslots'
      intro j u count hshows'' hfault'' hpc'' hslots'' hcapacity''
      exact hbody j u count hshows'' hfault'' hpc'' hslots'' (hcapacity''.trans hcapacity')

/-- A block is followed from its first index to the index behind it, and leaves the slots in use as
    they were. -/
theorem follows_of_stands {b : Block Command Int} {start stop : Nat}
    (h : b.Stands settings.engine.maxRepeat p start stop) (hground : ground.isCanvas = false)
    (hshows : s.Shows ground j) (hfault : j.fault = none) (hpc : s.execution.pc = start)
    (room : s.execution.stack.slots.length + 2 * b.depth ≤ s.execution.stack.capacity) :
    Follows settings stride trace p ground j b.unroll s stop s.execution.stack.slots := by
  induction h generalizing j s with
  | empty =>
      rw [← hpc]
      exact Follows.nil hshows hfault
  | plain _ hread hplain ih =>
      refine (ih hshows hfault hpc room).append fun t hshows' hfault' hpc' hslots' _ => ?_
      rw [← hslots']
      exact Follows.plain hground hshows' hfault' (by rw [hpc']; exact hread) hplain
  | @loop before body start index stop count opening closing _ opens hcount _ hclosing hloop ih
        ihbody =>
      simp only [Block.depth] at room
      refine (ih hshows hfault hpc (by omega)).append fun t hshows' hfault' hpc' hslots'
        hcapacity' => ?_
      rw [← hslots', ← hcapacity'] at room
      rw [← hslots']
      refine (Follows.opening hshows' hfault' (hpc' ▸ opens) hcount (by omega)).append
        fun u hshows'' hfault'' hpc'' hslots'' hcapacity'' => ?_
      have positive : 0 < count := (hcount ▸ (Program.readAt_ok opens).1 : 0 < count ∧ _).1
      obtain ⟨more, rfl⟩ : ∃ more : Nat, count = ((more + 1 : Nat) : Int) :=
        ⟨count.toNat - 1, by omega⟩
      refine copies_follow hclosing hloop (by omega) ?_ more hshows'' hfault'' hpc'' hslots''
      intro j' v left hshows₃ hfault₃ hpc₃ hslots₃ hcapacity₃
      refine ihbody hshows₃ hfault₃ hpc₃ ?_
      rw [hslots₃, hcapacity₃, hcapacity'']
      simp only [List.length_cons]
      omega

end Block

/-- An outline is followed from the first index of the program. Each of its open loops leaves its
    two slots on the stack. -/
theorem Outline.follows_of_stands {frames : List (Block Command Int × Int)}
    {current : Block Command Int} {index : Nat} {j : Journey} {s : Scene}
    (h : Outline.Stands settings.engine.maxRepeat p frames current index)
    (hground : ground.isCanvas = false) (hshows : s.Shows ground j) (hfault : j.fault = none)
    (hpc : s.execution.pc = 0) (hempty : s.execution.stack.slots = [])
    (hwithin : Outline.Within (s.execution.stack.capacity / 2) frames current) :
    ∃ slots : List Int, slots.length = 2 * frames.length ∧
      Follows settings stride trace p ground j (Outline.unroll ⟨frames, current⟩) s index
        slots := by
  have room := hwithin.depth_le
  induction frames generalizing current index with
  | nil =>
      refine ⟨s.execution.stack.slots, by simp [hempty], ?_⟩
      exact Block.follows_of_stands h hground hshows hfault hpc
        (by rw [hempty]; simp at room ⊢; omega)
  | cons frame frames ih =>
      obtain ⟨before, count⟩ := frame
      obtain ⟨start, opening, houter, hopening, hcount, hinner⟩ := h
      obtain ⟨slots, hlength, hfollows⟩ := ih houter hwithin.2 hwithin.2.depth_le
      simp only [List.length_cons] at room
      have henter :
          Follows settings stride trace p ground j (unrollFrames ((before, count) :: frames)) s
          opening.next (count :: (opening.next : Int) :: slots) := by
        refine hfollows.append fun t hshows' hfault' hpc' hslots' hcapacity' => ?_
        rw [← hslots'] at hlength ⊢
        exact Follows.opening hshows' hfault' (hpc' ▸ hopening) hcount (by omega)
      refine ⟨count :: (opening.next : Int) :: slots, by simp only [List.length_cons]; omega, ?_⟩
      refine henter.append fun t hshows' hfault' hpc' hslots' hcapacity' => ?_
      rw [← hslots']
      refine Block.follows_of_stands hinner hground hshows' hfault' hpc' ?_
      rw [hslots', hcapacity']
      simp only [List.length_cons]
      omega

/-- A run passes any well nested front of its program as its unrolled commands say. -/
theorem Program.Passes.follows {before : List Instruction} {index : Nat} {j : Journey} {s : Scene}
    (h : p.Passes settings.engine.maxRepeat before index)
    (hnested : Instruction.WellNested (s.execution.stack.capacity / 2) before)
    (hground : ground.isCanvas = false) (hshows : s.Shows ground j) (hfault : j.fault = none)
    (hpc : s.execution.pc = 0) (hempty : s.execution.stack.slots = []) :
    ∃ outline slots, Outline.ofMarks (before.map fun i => i.command.mark) = some outline ∧
      (slots.length : Int) = 2 * Instruction.loopDepth before ∧
      Follows settings stride trace p ground j outline.unroll s index slots := by
  obtain ⟨outline, houtline, hdepth, hwithin⟩ := hnested.exists_outline
  obtain ⟨slots, hlength, hfollows⟩ := Outline.follows_of_stands
    (Outline.stands_of_passes h houtline) hground hshows hfault hpc hempty hwithin
  exact ⟨outline, slots, houtline, by rw [← hdepth, hlength]; simp, hfollows⟩

end TurtleGraphics
