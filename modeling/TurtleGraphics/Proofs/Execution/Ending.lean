import TurtleGraphics.Proofs.Execution.Halting

/-! # How a run ends

A run has exactly one last scene, at the end of the program or at a command that fails. A command
that fails leaves the turtle and the counters as they were. All that it can have done is to move the
index and to take up or lay down slots of the stack.
-/

namespace TurtleGraphics

variable {settings : Settings} {stride : Stride} {trace : Bool} {p : Program}

namespace Execution

variable {x y after : Execution} {i : Instruction} {fault : RunFault}

/-- Why a command fails: it cannot be read, the loops do not fit the stack, or the turtle cannot
    obey. -/
inductive Fails (settings : Settings) (stride : Stride) (p : Program) (x : Execution) :
    RunFault → Prop where
  | read {fault : ReadFault} : p.readAt settings.engine.maxRepeat x.pc = some (.error fault) →
      Fails settings stride p x (.diagnostic fault.diagnostic)
  | stack {i : Instruction} {fault : StackFault} :
      p.readAt settings.engine.maxRepeat x.pc = some (.ok i) →
      Fails settings stride p x (.diagnostic ⟨.stack fault, some i.line⟩)
  | number {i : Instruction} {fault : NumberFault} :
      p.readAt settings.engine.maxRepeat x.pc = some (.ok i) →
      x.turtle.obey settings stride i.command = .error fault →
      Fails settings stride p x (.number fault)

/-- What stays as it was when a command fails. -/
structure Abandons (x after : Execution) : Prop where
  turtle : after.turtle = x.turtle
  commands : after.commands = x.commands
  lines : after.lines = x.lines
  capacity : after.stack.capacity = x.stack.capacity
  room : x.stack.slots.length ≤ x.stack.capacity → after.stack.slots.length ≤ after.stack.capacity

theorem abandons_note (trace : Bool) (keyword : Option Keyword) (pc : Nat) (x : Execution) :
    x.Abandons { x.note trace keyword with pc } := by
  obtain ⟨turtle, stack, commands, lines⟩ := note_fields trace x keyword
  exact ⟨turtle, commands, lines, by rw [stack], by intro h; rwa [stack]⟩

theorem Abandons.trans (h : x.Abandons y) (h' : y.Abandons after) : x.Abandons after :=
  ⟨h'.turtle.trans h.turtle, h'.commands.trans h.commands, h'.lines.trans h.lines,
    h'.capacity.trans h.capacity, fun room => h'.room (h.room room)⟩

theorem abandons_holding {slots stale : List Int}
    (hroom : x.stack.slots.length ≤ x.stack.capacity → slots.length ≤ x.stack.capacity) :
    x.Abandons (x.holding slots stale) :=
  ⟨rfl, rfl, rfl, rfl, hroom⟩

/-- What the start or the end of a loop comes to: the loop does not fit the stack, or the turtle and
    its lines stay as they were. -/
inductive LoopOutcome (line : Int) (x : Execution) : Transition → Prop where
  | stop {cause : StackFault} {after : Execution} : x.Abandons after → after.pc = x.pc →
      LoopOutcome line x (.stop (.diagnostic ⟨.stack cause, some line⟩) after)
  | go {y : Execution} : y.turtle = x.turtle → y.lines = x.lines → LoopOutcome line x (.go y none)

theorem openLoop_outcome (x : Execution) (count line : Int) :
    x.LoopOutcome line (x.openLoop count line) := by
  rw [openLoop_eq]
  split
  · exact .stop (abandons_holding id) rfl
  · rename_i hroom
    split
    · exact .stop (abandons_holding fun room => Nat.lt_of_le_of_ne room hroom) rfl
    · exact .go rfl rfl

theorem closeLoop_outcome (x : Execution) (line : Int) : x.LoopOutcome line (x.closeLoop line) := by
  rw [closeLoop_eq]
  split
  · exact .stop (abandons_holding id) rfl
  · exact .stop (abandons_holding fun _ => Nat.zero_le _) rfl
  · rename_i count body slots hslots
    have taken : x.stack.slots.length = slots.length + 2 := congrArg List.length hslots
    split
    · exact .go rfl rfl
    · split
      · exact .stop (abandons_holding fun room => by omega) rfl
      · split
        · exact .stop (abandons_holding fun room => by rw [List.length_cons]; omega) rfl
        · exact .go rfl rfl

/-- All that a command can come to: there is none, it fails, or the turtle obeys it. -/
inductive Outcome (settings : Settings) (stride : Stride) (p : Program) (x : Execution) :
    Transition → Prop where
  | finish : p.readAt settings.engine.maxRepeat x.pc = none → Outcome settings stride p x .finish
  | stop {fault : RunFault} {after : Execution} :
      Fails settings stride p x fault → x.Abandons after →
      after.pc ≤ p.size → Outcome settings stride p x (.stop fault after)
  | go {i : Instruction} {y : Execution} {call : Option DrawCall} :
      p.readAt settings.engine.maxRepeat x.pc = some (.ok i) →
      x.turtle.obey settings stride i.command = .ok (y.turtle, call) →
      y.lines = x.lines + call.toList.countP DrawCall.isLine →
      Outcome settings stride p x (.go y call)

theorem LoopOutcome.outcome {noted : Execution} {t : Transition} (h : noted.LoopOutcome i.line t)
    (begun : x.Abandons noted) (within : noted.pc ≤ p.size)
    (hread : p.readAt settings.engine.maxRepeat x.pc = some (.ok i))
    (hobey : x.turtle.obey settings stride i.command = .ok (x.turtle, none)) :
    Outcome settings stride p x t := by
  cases h with
  | stop abandons index => exact .stop (.stack hread) (begun.trans abandons) (index ▸ within)
  | go turtle lines =>
      refine .go hread ?_ (lines.trans begun.lines)
      rw [hobey, turtle, begun.turtle]

theorem step_outcome (settings : Settings) (stride : Stride) (trace : Bool) (p : Program)
    (x : Execution) :
    Outcome settings stride p x (x.step settings stride trace p) := by
  unfold step
  split
  · exact .finish ‹_›
  · rename_i fault hread
    exact .stop (.read hread) (abandons_note trace _ _ x) (Program.next_le_of_readAt_error hread)
  · rename_i i hread
    have begun := abandons_note trace (some i.command.keyword) i.next x
    have within : { x.note trace (some i.command.keyword) with pc := i.next }.pc ≤ p.size :=
      (Program.readAt_ok hread).2.2.1
    generalize { x.note trace (some i.command.keyword) with pc := i.next } = noted at begun within
    unfold perform
    split
    · rename_i count hcount
      exact (noted.openLoop_outcome count i.line).outcome begun within hread (by rw [hcount]; rfl)
    · rename_i hloop
      exact (noted.closeLoop_outcome i.line).outcome begun within hread (by rw [hloop]; rfl)
    · unfold draw
      rw [begun.turtle]
      split
      · rename_i hobey
        exact .stop (.number hread hobey) begun within
      · rename_i hobey
        exact .go hread hobey (congrArg (· + _) begun.lines)

theorem step_stop (h : x.step settings stride trace p = .stop fault after) :
    x.Fails settings stride p fault ∧ x.Abandons after ∧ after.pc ≤ p.size := by
  have outcome := step_outcome settings stride trace p x
  rw [h] at outcome
  cases outcome with
  | stop fails abandons within => exact ⟨fails, abandons, within⟩

theorem readAt_of_finish (h : x.step settings stride trace p = .finish) :
    p.readAt settings.engine.maxRepeat x.pc = none := by
  have outcome := step_outcome settings stride trace p x
  rw [h] at outcome
  cases outcome with
  | finish hread => exact hread

theorem obey_of_step_go {call : Option DrawCall} (h : x.step settings stride trace p = .go y call) :
    ∃ i, p.readAt settings.engine.maxRepeat x.pc = some (.ok i) ∧
      x.turtle.obey settings stride i.command = .ok (y.turtle, call) ∧
      y.lines = x.lines + call.toList.countP DrawCall.isLine := by
  have outcome := step_outcome settings stride trace p x
  rw [h] at outcome
  cases outcome with
  | go hread hobey lines => exact ⟨_, hread, hobey, lines⟩

end Execution

namespace Scene

variable {m n k : Nat} {s t u : Scene}

theorem Reaches.next?_ne_none (h : Reaches settings stride trace p (k + 1) s t) :
    s.next? settings stride trace p ≠ none := by
  induction k generalizing t with
  | zero =>
      cases h with
      | tail first last =>
          cases first
          rw [last]
          exact Option.some_ne_none _
  | succ k ih =>
      cases h with
      | tail first last => exact ih first

theorem Reaches.between (h : Reaches settings stride trace p m s t)
    (h' : Reaches settings stride trace p (m + k) s u) : Reaches settings stride trace p k t u := by
  induction k generalizing u with
  | zero =>
      induction h generalizing u with
      | refl => exact h'
      | tail _ step ih =>
          cases h' with
          | tail first last =>
              cases ih first
              obtain rfl := Option.some.inj (step.symm.trans last)
              exact .refl _
  | succ k ih =>
      cases h' with
      | tail first last => exact .tail (ih first) last

theorem Reaches.le_of_last (h : Reaches settings stride trace p m s t)
    (hlast : t.next? settings stride trace p = none) (h' : Reaches settings stride trace p n s u) :
    n ≤ m := by
  by_contra hlonger
  obtain ⟨k, rfl⟩ := Nat.exists_eq_add_of_lt (Nat.lt_of_not_le hlonger)
  exact (h.between h').next?_ne_none hlast

theorem Reaches.last_unique (h : Reaches settings stride trace p m s t)
    (hlast : t.next? settings stride trace p = none) (h' : Reaches settings stride trace p n s u)
    (hlast' : u.next? settings stride trace p = none) : m = n ∧ t = u := by
  obtain rfl : m = n := Nat.le_antisymm (h'.le_of_last hlast' h) (h.le_of_last hlast h')
  cases h.between (show Reaches settings stride trace p (m + 0) s u from h') with
  | refl => exact ⟨rfl, rfl⟩

/-- What a run leaves if this is its last scene. -/
inductive Ends (settings : Settings) (stride : Stride) (trace : Bool) (p : Program) (s : Scene) :
    Run → Prop where
  | finished : s.execution.step settings stride trace p = .finish →
      Ends settings stride trace p s ⟨.finished, s.execution, s.surface⟩
  | stopped {fault : RunFault} {after : Execution} :
      s.execution.step settings stride trace p = .stop fault after →
      Ends settings stride trace p s ⟨.failed fault, after, s.surface⟩
  | undrawn {after : Execution} {call : DrawCall} {surface : Surface} {fault : DrawFault} :
      s.execution.step settings stride trace p = .go after (some call) →
      s.surface.draw call = (surface, some fault) →
      Ends settings stride trace p s ⟨.failed (.drawing fault), s.execution.undrawn after, surface⟩

theorem exists_ends (h : s.next? settings stride trace p = none) :
    ∃ run, s.Ends settings stride trace p run := by
  unfold next? at h
  split at h
  · cases h
  · split at h
    · cases h
    · exact ⟨_, .undrawn ‹_› ‹_›⟩
  · exact ⟨_, .finished ‹_›⟩
  · exact ⟨_, .stopped ‹_›⟩

variable {run : Run}

theorem Ends.next? (h : s.Ends settings stride trace p run) :
    s.next? settings stride trace p = none := by
  cases h with
  | finished hstep => rw [Scene.next?, hstep]
  | stopped hstep => rw [Scene.next?, hstep]
  | undrawn hstep hdraw => simp only [Scene.next?, hstep, hdraw]

theorem Ends.capacity (h : s.Ends settings stride trace p run) :
    run.execution.stack.capacity = s.execution.stack.capacity := by
  cases h with
  | finished => rfl
  | stopped hstep => exact (Execution.step_stop hstep).2.1.capacity
  | undrawn hstep =>
      obtain ⟨-, -, -, hkept, -⟩ := Execution.step_go hstep
      exact hkept

theorem Ends.turtle (h : s.Ends settings stride trace p run) :
    run.execution.turtle = s.execution.turtle := by
  cases h with
  | finished => rfl
  | stopped hstep => exact (Execution.step_stop hstep).2.1.turtle
  | undrawn => rfl

theorem Ends.runFor (h : s.Ends settings stride trace p run) (fuel : Nat) :
    s.execution.runFor settings stride trace p (fuel + 1) s.surface = run := by
  rw [Execution.runFor]
  cases h with
  | finished hstep => rw [hstep]
  | stopped hstep => rw [hstep]
  | undrawn hstep hdraw => simp only [hstep, hdraw]

variable {before : List Instruction} {loops : List OpenLoop}

/-- What a run leaves is decided at its last scene. -/
theorem Reaches.run_eq (h : Reaches settings stride trace p n s t)
    (hend : t.Ends settings stride trace p run)
    (inside : s.execution.Inside settings.engine.maxRepeat p before loops) :
    s.execution.run settings stride trace p s.surface = run := by
  obtain ⟨m, u, hreach, hlast, bound⟩ := exists_last stride trace inside
  obtain ⟨rfl, rfl⟩ := h.last_unique hend.next? hreach hlast
  obtain ⟨fuel, hfuel⟩ := Nat.exists_eq_add_of_lt bound
  rw [Execution.run, hfuel, Nat.add_assoc, h.runFor]
  exact hend.runFor fuel

end Scene

namespace Interpreter

variable {interpreter : Interpreter}

/-- Every run comes to a last scene, and leaves what that one leaves. -/
theorem exists_ending (interpreter : Interpreter) (p : Program) :
    ∃ n t run, Scene.Reaches interpreter.settings interpreter.stride interpreter.trace p n
        interpreter.opening t ∧
      t.Ends interpreter.settings interpreter.stride interpreter.trace p run ∧
      (interpreter.runProgram p).fault = run.ending.fault.map .run ∧
      (interpreter.runProgram p).interpreter =
        { interpreter with surface := run.surface, execution := run.execution } := by
  have inside := interpreter.opening_inside interpreter.settings.engine.maxRepeat p
  obtain ⟨n, t, hreach, hlast, -⟩ := Scene.exists_last interpreter.stride interpreter.trace inside
  obtain ⟨run, hend⟩ := Scene.exists_ends hlast
  exact ⟨n, t, run, hreach, hend, runProgram_of_run (hreach.run_eq hend inside)⟩

end Interpreter

end TurtleGraphics
