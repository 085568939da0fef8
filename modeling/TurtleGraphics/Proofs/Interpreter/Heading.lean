import TurtleGraphics.Proofs.Execution.Obeyed
import TurtleGraphics.Proofs.Interpreter.Normalizing
import TurtleGraphics.Proofs.Interpreter.Safety

/-! # Headings over several runs

An interpreter keeps its turtle from one call to the next, so its heading is the sum of all turns
that it obeyed since it was made or last went home, in whichever run. How headings are kept has no
say in which turns these are.
-/

namespace TurtleGraphics

/-- A turn and the same turn the other way. -/
def Program.leftRight : Program :=
  #[⟨.identifier, 1, "LEFT", 0⟩, ⟨.number, 1, "", 50⟩, ⟨.identifier, 2, "RIGHT", 0⟩,
    ⟨.number, 2, "", 50⟩]

namespace Interpreter

/-- The commands that a run of a program obeys first, at most so many. -/
def obeyed (interpreter : Interpreter) (p : Program) (n : Nat) : List Command :=
  interpreter.opening.obeyed interpreter.settings interpreter.stride interpreter.trace p n

def obeyedBy (interpreter : Interpreter) (call : Call) : List Command :=
  match call.program? interpreter.settings.lexer with
  | some p => interpreter.obeyed p p.workBound
  | none => []

def obeyedOver : Interpreter → List Call → List Command
  | _, [] => []
  | interpreter, call :: calls =>
      interpreter.obeyedBy call ++ (interpreter.called call).obeyedOver calls

/-- The run came to the end of its program, or to a fault of it. -/
def Diagnosed (run : InterpreterRun) : Prop :=
  run.fault = none ∨ ∃ d, run.fault = some (.run (.diagnostic d))

/-- No run of several calls is given up, except for a fault of its program. -/
def Unhindered : Interpreter → List Call → Prop
  | _, [] => True
  | interpreter, call :: calls =>
    (∀ p, call.program? interpreter.settings.lexer = some p →
      Diagnosed (interpreter.runProgram p)) ∧
      (interpreter.called call).Unhindered calls

theorem Sound.unhindered {interpreter : Interpreter} (h : interpreter.Sound) (calls : List Call) :
    interpreter.Unhindered calls := by
  induction calls generalizing interpreter with
  | nil => trivial
  | cons call calls ih =>
      refine ⟨fun p _ => ?_, ih (h.called call)⟩
      obtain ⟨⟨hnone, -⟩ | ⟨d, hsome, -⟩, -⟩ := h.runProgram p
      · exact .inl hnone
      · exact .inr ⟨d, hsome⟩

theorem Diagnosed.not_hindered {ran : InterpreterRun} (h : Diagnosed ran) {run : Run}
    (hfault : ran.fault = run.ending.fault.map .run) : ¬run.Hindered := by
  rintro ⟨fault, hended, hhindered⟩
  rw [hended] at hfault
  rcases h with hnone | ⟨d, hsome⟩
  · cases hnone.symm.trans hfault
  · cases hsome.symm.trans hfault
    cases hhindered

variable {interpreter : Interpreter} {commands : List Command}

theorem faces_called (call : Call)
    (h : interpreter.turtle.Faces interpreter.settings.engine.normalizeAngle
      (Command.heading commands)) :
    (interpreter.called call).turtle.Faces interpreter.settings.engine.normalizeAngle
      (Command.heading (commands ++ interpreter.obeyedBy call)) := by
  unfold obeyedBy
  obtain ⟨p, hp, hcalled⟩ | ⟨hnone, hturtle⟩ := interpreter.called_cases call
  · obtain ⟨n, t, run, hreach, hends, -, hleft⟩ := interpreter.exists_ending p
    have all := hreach.obeyed_workBound hends.next? (interpreter.opening_inside _ p)
    have faces := hreach.faces h
    rw [← hends.turtle, ← all] at faces
    rw [hp, hcalled, hleft]
    exact faces
  · rw [hnone, hturtle, List.append_nil]
    exact h

theorem faces_after (calls : List Call)
    (h : interpreter.turtle.Faces interpreter.settings.engine.normalizeAngle
      (Command.heading commands)) :
    (interpreter.after calls).turtle.Faces interpreter.settings.engine.normalizeAngle
      (Command.heading (commands ++ interpreter.obeyedOver calls)) := by
  induction calls generalizing interpreter commands with
  | nil => rwa [obeyedOver, List.append_nil]
  | cons call calls ih =>
      have called := faces_called call h
      rw [← (interpreter.keeps_called call).settings] at called ⊢
      rw [obeyedOver, ← List.append_assoc]
      exact ih called

/-- Between any two commands of any run, the turtle looks where the sum of all turns says. -/
theorem faces_reached {calls : List Call} {p : Program} {n : Nat} {s : Scene}
    (h : interpreter.turtle.Faces interpreter.settings.engine.normalizeAngle 0)
    (hreach : Scene.Reaches interpreter.settings interpreter.stride interpreter.trace p n
      (interpreter.after calls).opening s) :
    s.execution.turtle.Faces interpreter.settings.engine.normalizeAngle
      (Command.heading (interpreter.obeyedOver calls ++ (interpreter.after calls).obeyed p n)) := by
  have begun : (interpreter.after calls).turtle.Faces interpreter.settings.engine.normalizeAngle
      (Command.heading ([] ++ interpreter.obeyedOver calls)) := faces_after calls h
  have keeps := interpreter.keeps_after calls
  unfold obeyed
  rw [keeps.settings, keeps.stride, keeps.trace]
  exact hreach.faces begun

/-- What two interpreters have in common that obey the same commands. -/
structure Abreast (one other : Interpreter) : Prop where
  stride : other.stride = one.stride
  trace : other.trace = one.trace
  lexer : other.settings.lexer = one.settings.lexer
  limit : other.settings.engine.maxRepeat = one.settings.engine.maxRepeat
  capacity : other.execution.stack.capacity = one.execution.stack.capacity

namespace Abreast

variable {one other : Interpreter} {p : Program}

theorem opening (h : one.Abreast other) : one.opening.execution.Abreast other.opening.execution :=
  ⟨rfl, h.capacity, rfl⟩

theorem keeps {one' other' : Interpreter} (h : one.Abreast other) (hone : one.Keeps one')
    (hother : other.Keeps other') : one'.Abreast other' := by
  refine ⟨?_, ?_, ?_, ?_, ?_⟩
  · rw [hone.stride, hother.stride, h.stride]
  · rw [hone.trace, hother.trace, h.trace]
  · rw [hone.settings, hother.settings, h.lexer]
  · rw [hone.settings, hother.settings, h.limit]
  · rw [hone.capacity, hother.capacity, h.capacity]

theorem obeyed_eq (h : one.Abreast other) {n : Nat} {s t : Scene}
    (hreach : Scene.Reaches one.settings one.stride one.trace p n one.opening s)
    (hreach' : Scene.Reaches other.settings other.stride other.trace p n other.opening t) :
    other.obeyed p n = one.obeyed p n := by
  unfold obeyed
  rw [h.stride, h.trace] at hreach' ⊢
  obtain ⟨k, u, run, less, reached, hends, -⟩ | ⟨-, -, -, same⟩ :=
    hreach.abreast h.opening h.limit (one.opening_inside _ p)
  · have short := reached.le_of_last hends.next? hreach'
    omega
  · exact same

theorem obeyedBy_eq (h : one.Abreast other) {call : Call}
    (hone : ∀ p, call.program? one.settings.lexer = some p → Diagnosed (one.runProgram p))
    (hother : ∀ p, call.program? other.settings.lexer = some p → Diagnosed (other.runProgram p)) :
    other.obeyedBy call = one.obeyedBy call := by
  unfold obeyedBy
  rw [h.lexer] at hother ⊢
  cases hp : call.program? one.settings.lexer with
  | none => rfl
  | some p =>
      obtain ⟨n, s, run, hreach, hends, hfault, -⟩ := one.exists_ending p
      obtain ⟨m, t, run', hreach', hends', hfault', -⟩ := other.exists_ending p
      have all := hreach.obeyed_workBound hends.next? (one.opening_inside _ p)
      have all' := hreach'.obeyed_workBound hends'.next? (other.opening_inside _ p)
      have free := (hone p hp).not_hindered hfault
      have free' := (hother p hp).not_hindered hfault'
      dsimp only [obeyed]
      rw [all, all']
      rw [h.stride, h.trace] at hreach' hends' ⊢
      obtain ⟨rfl, same⟩ :=
        hends.abreast free hreach hends' free' hreach' h.opening h.limit (one.opening_inside _ p)
      exact same

/-- Both interpreters obey the same commands, as long as their runs are given up for faults of
    programs only. -/
theorem obeyedOver_eq (h : one.Abreast other) {calls : List Call} (hone : one.Unhindered calls)
    (hother : other.Unhindered calls) : other.obeyedOver calls = one.obeyedOver calls := by
  induction calls generalizing one other with
  | nil => rfl
  | cons call calls ih =>
      rw [obeyedOver, obeyedOver, h.obeyedBy_eq hone.1 hother.1,
        ih (h.keeps (one.keeps_called call) (other.keeps_called call)) hone.2 hother.2]

theorem obeyedOver_obeyed_eq (h : one.Abreast other) {calls : List Call}
    (hone : one.Unhindered calls) (hother : other.Unhindered calls) {n : Nat} {s t : Scene}
    (hreach : Scene.Reaches one.settings one.stride one.trace p n (one.after calls).opening s)
    (hreach' : Scene.Reaches other.settings other.stride other.trace p n
      (other.after calls).opening t) :
    other.obeyedOver calls ++ (other.after calls).obeyed p n =
      one.obeyedOver calls ++ (one.after calls).obeyed p n := by
  have keeps := one.keeps_after calls
  have keeps' := other.keeps_after calls
  rw [← keeps.settings, ← keeps.stride, ← keeps.trace] at hreach
  rw [← keeps'.settings, ← keeps'.stride, ← keeps'.trace] at hreach'
  rw [h.obeyedOver_eq hone hother, (h.keeps keeps keeps').obeyed_eq hreach hreach']

end Abreast

/-- The angle of the turtle is what all turns since home come to: the one angle from zero up to a
full turn that is full turns apart from their sum, or with less than a full turn to either side, the
remainder that each turn leaves, computed in doubles without loss. So the two ways to keep angles
are full turns apart, and of a turn and the same turn the other way nothing is left. -/
theorem angle_is_sum_of_turns (stride : Stride) {settings : Settings} {trace : Option Bool}
    {surface : Surface} {memory : Memory} {fresh : Bool → Interpreter}
    (hfresh : ∀ normalize, start (settings.normalizing normalize) trace surface memory =
      .ok (fresh normalize)) :
    let interpreter normalize := (fresh normalize).striding stride
    let current normalize calls := (interpreter normalize).after calls
    let sum normalize calls p n :=
      Command.heading ((interpreter normalize).obeyedOver calls ++
        (current normalize calls).obeyed p n)
    let reaches normalize calls p n s :=
      Scene.Reaches (settings.normalizing normalize) stride (interpreter normalize).trace p n
        (current normalize calls).opening s
    (∀ calls p n s, reaches true calls p n s → ∀ angle : Int,
      angle = s.execution.turtle.angle ↔ 0 ≤ angle ∧ angle < 360 ∧
      angle ≡ sum true calls p n [ZMOD 360]) ∧
    (∀ calls p n s, reaches false calls p n s →
      let turtle := s.execution.turtle
      turtle.angle < 360 ∧ -360 < turtle.angle ∧ turtle.angle ≡ sum false calls p n [ZMOD 360] ∧
        ∀ i degrees, p.readAt settings.engine.maxRepeat s.execution.pc = some (.ok i) →
          i.command.degrees = some degrees →
          let angle := turtle.angle + degrees
          angle.natAbs < 2 ^ 53 ∧ Double.wholeOfInt angle = .ok angle ∧
            ∃ t, reaches false calls p (n + 1) t ∧
              t.execution.turtle = { turtle with angle := Int.tmod angle 360 }) ∧
    (∀ calls calls' p p' n n' s t, reaches true calls p n s → reaches false calls' p' n' t →
      sum true calls p n = sum false calls' p' n' →
      s.execution.turtle.angle ≡ t.execution.turtle.angle [ZMOD 360]) ∧
    (∀ calls, (∀ normalize, (interpreter normalize).Unhindered calls) →
      ∀ p n s t, reaches true calls p n s → reaches false calls p n t →
        sum true calls p n = sum false calls p n) ∧
    (∀ trigonometry : Trigonometry, trigonometry.Bounded → stride = trigonometry.stride →
      surface.isCanvas = false → ∀ normalize calls, (interpreter normalize).Unhindered calls) ∧
    ∀ calls p n s i j degrees, reaches true calls p n s →
      p.readAt settings.engine.maxRepeat s.execution.pc = some (.ok i) →
      p.readAt settings.engine.maxRepeat i.next = some (.ok j) →
      i.command.degrees = some degrees → j.command.degrees = some (-degrees) →
      ∃ t, reaches true calls p (n + 2) t ∧ t.execution.turtle = s.execution.turtle := by
  intro interpreter current sum reaches
  obtain ⟨stack, made⟩ := start_normalizing hfresh
  have kept (normalize : Bool) :
      (interpreter normalize).settings = settings.normalizing normalize := by
    simp only [interpreter, made, striding]
  have abreast : (interpreter true).Abreast (interpreter false) := by
    simp only [interpreter, made, striding]
    exact ⟨rfl, rfl, rfl, rfl, rfl⟩
  have initial (normalize : Bool) : (interpreter normalize).turtle = .initial settings.turtle := by
    simp only [interpreter, made, striding, turtle]
  have reached {normalize : Bool} {calls : List Call} {p : Program} {n : Nat} {s : Scene}
      (h : reaches normalize calls p n s) :
      Scene.Reaches (interpreter normalize).settings (interpreter normalize).stride
        (interpreter normalize).trace p n
        (current normalize calls).opening s := by
    rw [kept]
    exact h
  have faces {normalize : Bool} {calls : List Call} {p : Program} {n : Nat} {s : Scene}
      (h : reaches normalize calls p n s) :
      s.execution.turtle.Faces normalize (sum normalize calls p n) := by
    have begun : (interpreter normalize).turtle.Faces
        (interpreter normalize).settings.engine.normalizeAngle 0 := by
      rw [initial]
      exact Turtle.faces_initial _ settings.turtle
    have faces := faces_reached begun (reached h)
    rwa [kept] at faces
  refine ⟨fun calls p n s hreach => (faces hreach).eq_angle_iff, fun calls p n s hreach =>
    ?_, ?_, ?_, ?_, ?_⟩
  · intro turtle
    have faces := faces hreach
    have within : turtle.angle.natAbs < 360 := faces.within
    refine ⟨by omega, by omega, faces.congruent, fun i degrees hread hdegrees => ?_⟩
    obtain ⟨small, exact_, t, hnext, -, hturtle⟩ :=
      Scene.next?_of_degrees (settings.normalizing false) stride (interpreter false).trace hread
        hdegrees within
    exact ⟨small, exact_, t, hreach.tail hnext, hturtle⟩
  · intro calls calls' p p' n n' s t hs ht same
    have congruent := (faces hs).congruent
    rw [same] at congruent
    exact congruent.trans (faces ht).congruent.symm
  · intro calls free p n s t hs ht
    have same := abreast.obeyedOver_obeyed_eq (free true) (free false) (reached hs) (reached ht)
    exact (congrArg Command.heading same).symm
  · rintro trigonometry hbounded rfl hground normalize calls
    have surfaces : (interpreter normalize).surface = surface := by
      simp only [interpreter, made, striding]
    refine Sound.unhindered ⟨hbounded.covers _ (lt_headingLimit (by decide)), ?_, ?_⟩ calls
    · rw [initial]
      exact .inl rfl
    · rw [surfaces]
      exact Surface.extent_of_isCanvas hground
  · intro calls p n s i j degrees hreach hread hread' hdegrees hdegrees'
    obtain ⟨t, u, hnext, hnext', undone⟩ :=
      Scene.next?_undone (settings.normalizing true) stride (interpreter true).trace rfl
        (faces hreach)
        hread hread' hdegrees hdegrees'
    exact ⟨u, (hreach.tail hnext).tail hnext', undone⟩

/-- A turn to the left behind such a turn to the right that the angle is below zero, and back. -/
theorem angle_is_sum_of_turns_slanted :
    let opening normalize :=
      (((untouched normalize).striding level.stride).after [.runProgram .slanted]).opening
    (∀ normalize, start (({} : Settings).normalizing normalize) none (.record #[]) .standard =
      .ok (untouched normalize)) ∧
      120 = (opening true).execution.turtle.angle ∧
      (opening false).execution.turtle.angle ≡ -240 [ZMOD 360] ∧
      ∃ t, Scene.Reaches (({} : Settings).normalizing true) level.stride false .leftRight 2
        (opening true) t ∧
        t.execution.turtle = (opening true).execution.turtle := by
  intro opening
  obtain ⟨normal, remainder, -, -, -, restores⟩ :=
    angle_is_sum_of_turns level.stride start_untouched
  refine ⟨start_untouched, ?_, ?_, ?_⟩
  · refine (normal [.runProgram .slanted] .leftRight 0 _ (.refl _) 120).mpr ?_
    decide +kernel
  · have sum :
        Command.heading
          (((untouched false).striding level.stride).obeyedOver [.runProgram .slanted] ++ []) =
        -240 := by decide +kernel
    exact sum ▸ (remainder [.runProgram .slanted] .leftRight 0 (opening false) (.refl _)).2.2.1
  · have first : Program.leftRight.readAt ({} : Settings).engine.maxRepeat 0 =
        some (.ok ⟨.left 50, 1, 1, 2⟩) := rfl
    have second : Program.leftRight.readAt ({} : Settings).engine.maxRepeat 2 =
        some (.ok ⟨.right 50, 2, 2, 4⟩) := rfl
    exact restores [.runProgram .slanted] .leftRight 0 _ _ _ 50 (.refl _) first second rfl rfl

end Interpreter

end TurtleGraphics
