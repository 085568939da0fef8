import TurtleGraphics.Proofs.Execution.Ending
import TurtleGraphics.Proofs.Program.Sequence

/-! # Runs in sequence

A run that has come to the end of a program with no loop open goes on with what is written behind
that program as a run that starts there. The two go side by side: the indices, and the places on the
stack to which loops go back, are as many steps apart as the first program has, and the counters by
what was counted before.
-/

namespace TurtleGraphics

/-- The slots of loops that start `k` steps further on. -/
inductive LoopStack.MovedOn (k : Nat) : List Int → List Int → Prop where
  | nil : MovedOn k [] []
  | loop {slots slots' : List Int} (left : Int) (body : Nat) :
    MovedOn k slots slots' →
    MovedOn k (left :: (body : Int) :: slots) (left :: ((k + body : Nat) : Int) :: slots')

theorem LoopStack.MovedOn.length_eq {k : Nat} {slots slots' : List Int}
    (h : MovedOn k slots slots') :
    slots'.length = slots.length := by
  induction h with
  | nil => rfl
  | loop left body _ ih => simp [ih]

namespace Execution

/-- What is told of a run that goes on where another one stopped, and of that run if it starts
    afresh. -/
structure Adds (front x y : Execution) : Prop where
  turtle : y.turtle = x.turtle
  pc : y.pc = front.pc + x.pc
  commands : y.commands = front.commands + x.commands
  lines : y.lines = front.lines + x.lines

/-- The one run goes on where another one stopped, as the other run does that starts afresh. -/
structure Resumes (front x y : Execution) : Prop extends Adds front x y where
  capacity : y.stack.capacity = x.stack.capacity
  slots : LoopStack.MovedOn front.pc x.stack.slots y.stack.slots

end Execution

/-- The two runs do the same at one command. -/
inductive Transition.Agrees (front : Execution) : Transition → Transition → Prop where
  | finish : Agrees front .finish .finish
  | stop {fault : RunFault} {x y : Execution} :
      front.Adds x y → Agrees front (.stop fault x) (.stop fault y)
  | go {call : Option DrawCall} {x y : Execution} :
      front.Resumes x y → Agrees front (.go x call) (.go y call)

namespace Transition.Agrees

variable {front x : Execution} {there : Transition}

theorem of_finish (h : Agrees front .finish there) : there = .finish := by
  cases h
  rfl

theorem of_stop {fault : RunFault} (h : Agrees front (.stop fault x) there) :
    ∃ y, there = .stop fault y ∧ front.Adds x y := by
  cases h with
  | stop adds => exact ⟨_, rfl, adds⟩

theorem of_go {call : Option DrawCall} (h : Agrees front (.go x call) there) :
    ∃ y, there = .go y call ∧ front.Resumes x y := by
  cases h with
  | go resumes => exact ⟨_, rfl, resumes⟩

end Transition.Agrees

namespace Execution.Resumes

variable {settings : Settings} {stride : Stride} {trace : Bool} {front x y : Execution}

theorem note (h : front.Resumes x y) (trace : Bool) (keyword : Option Keyword) (pc : Nat) :
    front.Resumes { x.note trace keyword with pc }
      { y.note trace keyword with pc := front.pc + pc } := by
  obtain ⟨turtle, stack, commands, lines⟩ := note_fields trace x keyword
  obtain ⟨turtle', stack', commands', lines'⟩ := note_fields trace y keyword
  refine ⟨⟨?_, rfl, ?_, ?_⟩, ?_, ?_⟩
  · rw [turtle, turtle', h.turtle]
  · rw [commands, commands', h.commands]
  · rw [lines, lines', h.lines]
  · rw [stack, stack', h.capacity]
  · rw [stack, stack']
    exact h.slots

theorem counted (h : front.Resumes x y) : front.Resumes x.counted y.counted := by
  refine ⟨⟨h.turtle, h.pc, ?_, h.lines⟩, h.capacity, h.slots⟩
  simp only [Execution.counted, h.commands]
  omega

theorem holding (h : front.Resumes x y) {slots slots' stale stale' : List Int}
    (moved : LoopStack.MovedOn front.pc slots slots') :
    front.Resumes (x.holding slots stale) (y.holding slots' stale') :=
  ⟨⟨h.turtle, h.pc, h.commands, h.lines⟩, h.capacity, moved⟩

theorem goto (h : front.Resumes x y) (body : Nat) :
    front.Resumes (x.goto body) (y.goto (front.pc + body)) :=
  ⟨⟨h.turtle, rfl, h.commands, h.lines⟩, h.capacity, h.slots⟩

theorem openLoop (h : front.Resumes x y) (count line : Int) :
    Transition.Agrees front (x.openLoop count line) (y.openLoop count line) := by
  rw [openLoop_eq, openLoop_eq, h.slots.length_eq, h.capacity, h.pc]
  split
  · exact .stop h.toAdds
  · split
    · exact .stop ⟨h.turtle, h.pc, h.commands, h.lines⟩
    · exact .go (h.holding (.loop count x.pc h.slots)).counted

theorem closeLoop (h : front.Resumes x y) (line : Int) :
    Transition.Agrees front (x.closeLoop line) (y.closeLoop line) := by
  rw [closeLoop_eq, closeLoop_eq, h.capacity]
  have moved := h.slots
  generalize x.stack.slots = slots, y.stack.slots = slots' at moved ⊢
  cases moved with
  | nil => exact .stop h.toAdds
  | loop left body outer =>
      dsimp only
      rw [outer.length_eq]
      split
      · exact .go (h.holding outer).counted
      · split
        · exact .stop (h.holding outer).toAdds
        · split
          · exact .stop ⟨h.turtle, h.pc, h.commands, h.lines⟩
          · exact .go ((h.holding (.loop (left - 1) body outer)).goto body).counted

theorem draw (h : front.Resumes x y) (command : Command) :
    Transition.Agrees front (x.draw settings stride command) (y.draw settings stride command) := by
  unfold Execution.draw
  rw [h.turtle]
  cases x.turtle.obey settings stride command with
  | error fault => exact .stop h.toAdds
  | ok result =>
      obtain ⟨turtle, call⟩ := result
      refine .go (counted ⟨⟨rfl, h.pc, h.commands, ?_⟩, h.capacity, h.slots⟩)
      simp only [h.lines, Nat.add_assoc]

theorem perform (h : front.Resumes x y) (i : Instruction) (k : Nat) :
    Transition.Agrees front (x.perform settings stride i)
      (y.perform settings stride (i.movedOn k)) := by
  unfold Execution.perform Instruction.movedOn
  cases i.command with
  | «repeat» count => exact h.openLoop count i.line
  | loop => exact h.closeLoop i.line
  | _ => exact h.draw _

theorem step (h : front.Resumes x y) {p : Program} (hend : front.pc = p.size) (q : Program) :
    Transition.Agrees front (x.step settings stride trace q)
      (y.step settings stride trace (p ++ q)) := by
  unfold Execution.step
  rw [h.pc, hend, Program.readAt_append_right]
  cases q.readAt settings.engine.maxRepeat x.pc with
  | none => exact .finish
  | some read =>
      have noted (keyword : Option Keyword) (next : Nat) := h.note trace keyword next
      rw [hend] at noted
      cases read with
      | error fault => exact .stop (noted fault.keyword fault.next).toAdds
      | ok i => exact (noted (some i.command.keyword) i.next).perform i p.size

end Execution.Resumes

namespace Scene

variable {settings : Settings} {stride : Stride} {trace : Bool} {p : Program} {n : Nat}
  {s t u : Scene}

theorem next?_append_left (h : s.next? settings stride trace p = some t) (q : Program) :
    s.next? settings stride trace (p ++ q) = some t := by
  obtain ⟨call, hstep⟩ := step_of_next? h
  obtain ⟨i, hread, -⟩ := Execution.step_go hstep
  have same : s.execution.step settings stride trace (p ++ q) =
      s.execution.step settings stride trace p := by
    rw [Execution.step_of_readAt hread,
      Execution.step_of_readAt (Program.readAt_append_left hread q)]
  rw [next?, same]
  exact h

/-- What is written behind a program plays no part before its end. -/
theorem Reaches.append_left (h : Reaches settings stride trace p n s t) (q : Program) :
    Reaches settings stride trace (p ++ q) n s t := by
  induction h with
  | refl => exact .refl _
  | tail _ hnext ih => exact .tail ih (next?_append_left hnext q)

/-- The run at the one scene goes on where another one stopped, as the run at the other does that
    starts afresh, and both have drawn the same. -/
structure Resumes (front : Execution) (s t : Scene) : Prop where
  execution : front.Resumes s.execution t.execution
  surface : t.surface = s.surface

namespace Resumes

variable {front : Execution}

theorem next? (h : Resumes front s t) (hend : front.pc = p.size) (q : Program) {s' : Scene}
    (hnext : s.next? settings stride trace q = some s') :
    ∃ t', t.next? settings stride trace (p ++ q) = some t' ∧ Resumes front s' t' := by
  have agrees : Transition.Agrees front (s.execution.step settings stride trace q)
      (t.execution.step settings stride trace (p ++ q)) := h.execution.step hend q
  unfold Scene.next? at hnext ⊢
  rw [h.surface]
  split at hnext
  · rename_i hstep
    rw [hstep] at agrees
    obtain ⟨y, hstep', resumes⟩ := agrees.of_go
    cases hnext
    rw [hstep']
    exact ⟨_, rfl, resumes, rfl⟩
  · rename_i hstep
    rw [hstep] at agrees
    obtain ⟨y, hstep', resumes⟩ := agrees.of_go
    split at hnext
    · rename_i hdraw
      cases hnext
      simp only [hstep', hdraw]
      exact ⟨_, rfl, resumes, rfl⟩
    · cases hnext
  · cases hnext
  · cases hnext

theorem reaches (h : Resumes front s t) (hend : front.pc = p.size) {q : Program} {s' : Scene}
    (hreach : Reaches settings stride trace q n s s') :
    ∃ t', Reaches settings stride trace (p ++ q) n t t' ∧ Resumes front s' t' := by
  induction hreach with
  | refl => exact ⟨t, .refl t, h⟩
  | tail _ hnext ih =>
      obtain ⟨t', hreach', resumes⟩ := ih h
      obtain ⟨u', hnext', resumes'⟩ := resumes.next? hend q hnext
      exact ⟨u', .tail hreach' hnext', resumes'⟩

theorem ends (h : Resumes front s t) (hend : front.pc = p.size) {q : Program} {run : Run}
    (hends : s.Ends settings stride trace q run) :
    ∃ run', t.Ends settings stride trace (p ++ q) run' ∧ run'.ending = run.ending ∧
      run'.surface = run.surface ∧ front.Adds run.execution run'.execution := by
  have agrees : Transition.Agrees front (s.execution.step settings stride trace q)
      (t.execution.step settings stride trace (p ++ q)) := h.execution.step hend q
  cases hends with
  | finished hstep =>
      rw [hstep] at agrees
      exact ⟨_, .finished agrees.of_finish, rfl, h.surface, h.execution.toAdds⟩
  | stopped hstep =>
      rw [hstep] at agrees
      obtain ⟨y, hstep', adds⟩ := agrees.of_stop
      exact ⟨_, .stopped hstep', rfl, h.surface, adds⟩
  | undrawn hstep hdraw =>
      rw [hstep] at agrees
      rw [← h.surface] at hdraw
      obtain ⟨y, hstep', resumes⟩ := agrees.of_go
      exact ⟨_, .undrawn hstep' hdraw, rfl, rfl, h.execution.turtle, resumes.pc,
        h.execution.commands, h.execution.lines⟩

end Resumes

end Scene

end TurtleGraphics
