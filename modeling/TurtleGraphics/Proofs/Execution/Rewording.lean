import TurtleGraphics.Proofs.Execution.Ending
import TurtleGraphics.Proofs.Program.Rewording

/-! # Runs of reworded programs

What a run reports of its commands has no influence on what it does. So two programs of which the
commands do the same at every boundary are run alike, whatever the words for these commands are.
-/

namespace TurtleGraphics

namespace Execution

def retraced (traced : Array Keyword) (x : Execution) : Execution :=
  { x with traced }

end Execution

def Transition.retraced (traced : Array Keyword) : Transition → Transition
  | .finish => .finish
  | .stop fault after => .stop fault (after.retraced traced)
  | .go after call => .go (after.retraced traced) call

/-- Both programs do the same at an index. -/
inductive Program.ReadAlike (settings : Settings) (stride : Stride) (p q : Program) (index : Nat) :
    Prop where
  /-- The same is read. -/
  | same : q.readAt settings.engine.maxRepeat index = p.readAt settings.engine.maxRepeat index →
      ReadAlike settings stride p q index
  /-- The commands have other words for the same. -/
  | command {i j : Instruction} : p.readAt settings.engine.maxRepeat index = some (.ok i) →
      q.readAt settings.engine.maxRepeat index = some (.ok j) → j.next = i.next →
      (∀ x : Execution, x.perform settings stride j = x.perform settings stride i) →
      ReadAlike settings stride p q index

namespace Execution

variable {settings : Settings} {stride : Stride} {trace : Bool} {p q : Program}

theorem exists_retraced (trace : Bool) (keyword : Option Keyword) (x : Execution) :
    ∃ traced, x.note trace keyword = x.retraced traced := by
  cases trace <;> cases keyword <;> exact ⟨_, rfl⟩

theorem apart_retraced (traced : Array Keyword) : Apart (retraced traced) :=
  ⟨fun _ => rfl, fun _ => rfl, fun _ _ _ => rfl, fun _ _ => rfl, fun _ => rfl⟩

theorem draw_retraced (traced : Array Keyword) (x : Execution) (command : Command) :
    (x.retraced traced).draw settings stride command =
      (x.draw settings stride command).retraced traced := by
  unfold draw
  dsimp only [retraced]
  cases x.turtle.obey settings stride command <;> rfl

theorem perform_retraced (traced : Array Keyword) (x : Execution) (i : Instruction) :
    (x.retraced traced).perform settings stride i =
      (x.perform settings stride i).retraced traced := by
  unfold perform
  split
  · exact (apart_retraced traced).openLoop x _ _
  · exact (apart_retraced traced).closeLoop x _
  · exact draw_retraced traced x _

theorem perform_noted (trace : Bool) (traced : Array Keyword) (keyword keyword' : Option Keyword)
    (x : Execution) (pc : Nat) (i : Instruction) :
    ∃ traced', ({ (x.retraced traced).note trace keyword' with pc } : Execution).perform settings
      stride i =
      (({ x.note trace keyword with pc } : Execution).perform settings stride i).retraced
        traced' := by
  obtain ⟨first, hfirst⟩ := exists_retraced trace keyword x
  obtain ⟨second, hsecond⟩ := exists_retraced trace keyword' (x.retraced traced)
  refine ⟨second, ?_⟩
  rw [hfirst, hsecond, ← perform_retraced]
  rfl

theorem step_retraced (trace : Bool) (traced : Array Keyword) {x : Execution}
    (h : p.ReadAlike settings stride q x.pc) :
    ∃ traced', (x.retraced traced).step settings stride trace q =
      (x.step settings stride trace p).retraced traced' := by
  have together : (x.retraced traced).pc = x.pc := rfl
  unfold step
  cases h with
  | same hsame =>
      rw [together, hsame]
      cases p.readAt settings.engine.maxRepeat x.pc with
      | none => exact ⟨#[], rfl⟩
      | some read =>
          cases read with
          | error fault =>
              obtain ⟨first, hfirst⟩ := exists_retraced trace fault.keyword x
              obtain ⟨second, hsecond⟩ := exists_retraced trace fault.keyword (x.retraced traced)
              refine ⟨second, ?_⟩
              dsimp only
              rw [hfirst, hsecond]
              rfl
          | ok i => exact perform_noted trace traced _ _ x i.next i
  | @command i j hi hj hnext hperform =>
      rw [together, hi, hj]
      dsimp only
      rw [hnext, hperform]
      exact perform_noted trace traced _ _ x i.next i

end Execution

namespace Scene

def retraced (traced : Array Keyword) (s : Scene) : Scene :=
  ⟨s.execution.retraced traced, s.surface⟩

variable {settings : Settings} {stride : Stride} {trace : Bool} {p q : Program} {s t : Scene}
  {n : Nat}

theorem next?_retraced (h : s.next? settings stride trace p = some t)
    (hread : p.ReadAlike settings stride q s.execution.pc) (traced : Array Keyword) :
    ∃ traced', (s.retraced traced).next? settings stride trace q = some (t.retraced traced') := by
  obtain ⟨traced', hstep⟩ := Execution.step_retraced trace traced hread
  refine ⟨traced', ?_⟩
  cases hs : s.execution.step settings stride trace p with
  | finish | stop =>
      rw [next?, hs] at h
      cases h
  | go after call =>
      rw [hs] at hstep
      cases call with
      | none =>
          rw [next?, hs] at h
          cases h
          rw [next?, show (s.retraced traced).execution =
            s.execution.retraced traced from rfl, hstep]
          rfl
      | some call =>
          rcases hdraw : s.surface.draw call with ⟨surface, _ | fault⟩
          · simp only [next?, hs, hdraw, Option.some.injEq] at h
            subst h
            simp only [next?, retraced, hstep, Transition.retraced, hdraw]
          · simp only [next?, hs, hdraw, reduceCtorEq] at h

theorem ends_retraced {run : Run} (h : s.Ends settings stride trace p run)
    (hread : p.ReadAlike settings stride q s.execution.pc) (traced : Array Keyword) :
    ∃ traced', (s.retraced traced).Ends settings stride trace q
      { run with execution := run.execution.retraced traced' } := by
  obtain ⟨traced', hstep⟩ := Execution.step_retraced trace traced hread
  cases h with
  | finished hs =>
      rw [hs] at hstep
      exact ⟨traced, .finished hstep⟩
  | stopped hs =>
      rw [hs] at hstep
      exact ⟨traced', .stopped hstep⟩
  | undrawn hs hdraw =>
      rw [hs] at hstep
      exact ⟨traced', Ends.undrawn (s := s.retraced traced) hstep hdraw⟩

theorem Reaches.retraced (h : Reaches settings stride trace p n s t) {before : List Instruction}
    {loops : List OpenLoop} (inside : s.execution.Inside settings.engine.maxRepeat p before loops)
    (hread : ∀ before index, p.Passes settings.engine.maxRepeat before index →
      p.ReadAlike settings stride q index)
    (traced : Array Keyword) :
    ∃ traced', Reaches settings stride trace q n (s.retraced traced) (t.retraced traced') := by
  induction h with
  | refl => exact ⟨traced, .refl _⟩
  | tail hreach hnext ih =>
      obtain ⟨traced', reached⟩ := ih inside
      obtain ⟨before', loops', inside'⟩ := hreach.stays_inside inside
      obtain ⟨traced'', hnext'⟩ := next?_retraced hnext (hread _ _ inside'.passes) traced'
      exact ⟨traced'', reached.tail hnext'⟩

end Scene

namespace Interpreter

variable {p q : Program}

/-- Two programs whose commands do the same at every boundary are run alike. -/
theorem runProgram_retraced (interpreter : Interpreter)
    (hread : ∀ before index, p.Passes interpreter.settings.engine.maxRepeat before index →
      p.ReadAlike interpreter.settings interpreter.stride q index) :
    (interpreter.runProgram q).fault = (interpreter.runProgram p).fault ∧
      ∃ traced, (interpreter.runProgram q).interpreter =
        { (interpreter.runProgram p).interpreter with
          execution := (interpreter.runProgram p).interpreter.execution.retraced traced } := by
  obtain ⟨n, t, run, reached, hends, fault, left⟩ := interpreter.exists_ending p
  obtain ⟨before, loops, inside⟩ := reached.stays_inside (interpreter.opening_inside _ p)
  obtain ⟨traced, reached'⟩ := reached.retraced (interpreter.opening_inside _ p) hread #[]
  obtain ⟨traced', hends'⟩ := Scene.ends_retraced hends (hread _ _ inside.passes) traced
  obtain ⟨fault', left'⟩ :=
    runProgram_of_run (reached'.run_eq hends' (interpreter.opening_inside _ q))
  rw [fault, left, fault', left']
  exact ⟨rfl, traced', rfl⟩

end Interpreter

end TurtleGraphics
