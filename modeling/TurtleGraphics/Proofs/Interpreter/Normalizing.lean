import TurtleGraphics.Proofs.Execution.Ending
import TurtleGraphics.Proofs.Turtle.Heading
import TurtleGraphics.Proofs.Turtle.Stride

/-! # Headings with and without a full turn

Headings are kept within a full turn from zero up, or as the remainder on the side of zero on which
a turn ended. Two runs that differ in this alone go side by side with headings that are a whole
number of turns apart, and draw the same. They part at most at a move, where the two headings are
not the same to the cosine and the sine that moves are computed with.
-/

namespace TurtleGraphics

def Settings.normalizing (settings : Settings) (normalize : Bool) : Settings :=
  { settings with engine := { settings.engine with normalizeAngle := normalize } }

/-- How far the command moves the turtle along its heading, if it moves it. -/
def Command.pixels : Command → Option Int
  | .forward step => some step
  | .back step => some (-step)
  | _ => none

namespace Turtle

/-- The one turtle has its heading within a full turn, where the other one has a remainder. -/
structure Alike (turtle other : Turtle) : Prop where
  rest : other = { turtle with angle := other.angle }
  angle : turtle.angle = other.angle % 360
  within : other.angle.natAbs < 360

variable {turtle other : Turtle}

theorem Alike.refl (hlow : 0 ≤ turtle.angle) (hhigh : turtle.angle < 360) : turtle.Alike turtle :=
  ⟨rfl, by omega, by omega⟩

theorem Alike.exists_angle (h : turtle.Alike other) : ∃ angle, other = { turtle with angle } :=
  ⟨other.angle, h.rest⟩

theorem Alike.turn (h : turtle.Alike other) {degrees : Int}
    (hdegrees : degrees.natAbs ≤ maxNumber) :
    ∃ after after', turtle.turn true degrees = .ok after ∧ other.turn false degrees = .ok after' ∧
      after.Alike after' := by
  have same := h.angle
  obtain ⟨-, -, hturn⟩ := turn_of_within false h.within hdegrees
  refine ⟨_, { other with angle := keptAngle false (other.angle + degrees) }, rfl, hturn, ?_, ?_,
    natAbs_keptAngle_lt false _⟩
  · rw [h.rest]
  · have congruent : keptAngle false (other.angle + degrees) % 360 =
        (other.angle + degrees) % 360 :=
      keptAngle_modEq false _
    dsimp only
    omega

theorem Alike.move (h : turtle.Alike other) {stride : Stride} {length : Int}
    (hmove : stride turtle.angle length = stride other.angle length) :
    (∃ fault, turtle.move stride length = .error fault ∧ other.move stride length = .error fault) ∨
      ∃ after after' call, turtle.move stride length = .ok (after, call) ∧
        other.move stride length = .ok (after', call) ∧ after.Alike after' := by
  unfold Turtle.move
  rw [hmove]
  cases stride other.angle length with
  | error fault => exact .inl ⟨fault, rfl, rfl⟩
  | ok moved =>
      obtain ⟨angle, rfl⟩ := h.exists_angle
      exact .inr ⟨_, _, _, rfl, rfl, rfl, h.angle, h.within⟩

/-- Alike turtles obey alike, if a move leads both of them equally far. -/
theorem Alike.obey (h : turtle.Alike other) (settings : Settings) {stride : Stride} {limit : Int}
    {command : Command} (haccepted : command.Accepted limit)
    (hmoves : ∀ length, command.pixels = some length →
      stride turtle.angle length = stride other.angle length) :
    (∃ fault, turtle.obey (settings.normalizing true) stride command = .error fault ∧
      other.obey (settings.normalizing false) stride command = .error fault) ∨
    ∃ after after' call, turtle.obey (settings.normalizing true) stride command =
      .ok (after, call) ∧
      other.obey (settings.normalizing false) stride command = .ok (after', call) ∧
      after.Alike after' := by
  cases command with
  | forward step => exact h.move (hmoves step rfl)
  | back step => exact h.move (hmoves (-step) rfl)
  | left degrees =>
      obtain ⟨after, after', hturn, hturn', alike⟩ :=
        h.turn (show degrees.natAbs ≤ maxNumber from haccepted)
      refine .inr ⟨after, after', none, ?_, ?_, alike⟩
      · simp only [Turtle.obey, Settings.normalizing, hturn]
        rfl
      · simp only [Turtle.obey, Settings.normalizing, hturn']
        rfl
  | right degrees =>
      obtain ⟨after, after', hturn, hturn', alike⟩ :=
        h.turn (show (-degrees).natAbs ≤ maxNumber by simpa [Command.Accepted] using haccepted)
      refine .inr ⟨after, after', none, ?_, ?_, alike⟩
      · simp only [Turtle.obey, Settings.normalizing, hturn]
        rfl
      · simp only [Turtle.obey, Settings.normalizing, hturn']
        rfl
  | home =>
      obtain ⟨angle, rfl⟩ := h.exists_angle
      exact .inr ⟨_, _, _, rfl, rfl, rfl, rfl, (by decide : (0 : Int).natAbs < 360)⟩
  | paper | ink | pen | «repeat» | loop =>
      obtain ⟨angle, rfl⟩ := h.exists_angle
      exact .inr ⟨_, _, _, rfl, rfl, rfl, h.angle, h.within⟩

end Turtle

/-- The states of both runs, between two commands. -/
structure Execution.Alike (x y : Execution) : Prop where
  turtle : x.turtle.Alike y.turtle
  rest : y = { x with turtle := y.turtle }

/-- Both runs do the same at one command. -/
inductive Transition.Alike : Transition → Transition → Prop where
  | finish : Alike .finish .finish
  | stop {fault : RunFault} {x y : Execution} : x.Alike y → Alike (.stop fault x) (.stop fault y)
  | go {call : Option DrawCall} {x y : Execution} : x.Alike y → Alike (.go x call) (.go y call)

namespace Execution.Alike

variable {settings : Settings} {stride : Stride} {trace : Bool} {p : Program} {x y : Execution}

theorem exists_turtle (h : x.Alike y) : ∃ turtle, y = { x with turtle } ∧ x.turtle.Alike turtle :=
  ⟨y.turtle, h.rest, h.turtle⟩

theorem note (h : x.Alike y) (trace : Bool) (keyword : Option Keyword) (pc : Nat) :
    Alike { x.note trace keyword with pc } { y.note trace keyword with pc } := by
  obtain ⟨turtle, rfl, alike⟩ := h.exists_turtle
  cases trace <;> cases keyword <;> exact ⟨alike, rfl⟩

theorem apart_turtle (turtle : Turtle) : Apart fun x => { x with turtle } :=
  ⟨fun _ => rfl, fun _ => rfl, fun _ _ _ => rfl, fun _ _ => rfl, fun _ => rfl⟩

theorem loop {line : Int} {t : Transition} (outcome : x.LoopOutcome line t) {turtle : Turtle}
    (h : x.turtle.Alike turtle) :
    Transition.Alike t (t.map fun after => { after with turtle }) := by
  cases outcome with
  | stop abandons => exact .stop ⟨abandons.turtle.symm ▸ h, rfl⟩
  | go same => exact .go ⟨same.symm ▸ h, rfl⟩

theorem draw (h : x.Alike y) {limit : Int} {command : Command} (haccepted : command.Accepted limit)
    (hmoves : ∀ length, command.pixels = some length →
      stride x.turtle.angle length = stride y.turtle.angle length) :
    Transition.Alike (x.draw (settings.normalizing true) stride command)
      (y.draw (settings.normalizing false) stride command) := by
  unfold Execution.draw
  rcases h.turtle.obey settings haccepted hmoves with
    ⟨fault, hobey, hobey'⟩ | ⟨_, _, call, hobey, hobey', alike⟩
  · rw [hobey, hobey']
    exact .stop h
  · rw [hobey, hobey']
    obtain ⟨turtle, rfl, -⟩ := h.exists_turtle
    exact .go ⟨alike, rfl⟩

theorem perform (h : x.Alike y) {limit : Int} {i : Instruction}
    (haccepted : i.command.Accepted limit) (hmoves : ∀ length, i.command.pixels = some length →
      stride x.turtle.angle length = stride y.turtle.angle length) :
    Transition.Alike (x.perform (settings.normalizing true) stride i)
      (y.perform (settings.normalizing false) stride i) := by
  obtain ⟨turtle, rfl, alike⟩ := h.exists_turtle
  unfold Execution.perform
  split
  · rw [(apart_turtle turtle).openLoop]
    exact loop (x.openLoop_outcome _ i.line) alike
  · rw [(apart_turtle turtle).closeLoop]
    exact loop (x.closeLoop_outcome i.line) alike
  · exact h.draw haccepted hmoves

theorem step (h : x.Alike y)
      (hmoves : ∀ i length, p.readAt settings.engine.maxRepeat x.pc = some (.ok i) →
      i.command.pixels = some length →
      stride x.turtle.angle length = stride y.turtle.angle length) :
    Transition.Alike (x.step (settings.normalizing true) stride trace p)
      (y.step (settings.normalizing false) stride trace p) := by
  have together : y.pc = x.pc := by rw [h.rest]
  unfold Execution.step
  simp only [Settings.normalizing, together]
  cases hread : p.readAt settings.engine.maxRepeat x.pc with
  | none => exact .finish
  | some read =>
      have noted := h.note trace
      cases read with
      | error fault => exact .stop (noted fault.keyword fault.next)
      | ok i =>
          have accepted := (Program.readAt_ok hread).1
          refine (noted (some i.command.keyword) i.next).perform accepted fun length hlength => ?_
          obtain ⟨same, -, -, -⟩ := note_fields trace x (some i.command.keyword)
          obtain ⟨same', -, -, -⟩ := note_fields trace y (some i.command.keyword)
          rw [same, same']
          exact hmoves i length hread hlength

theorem undrawn (h : x.Alike y) {after after' : Execution} (hafter : after.Alike after') :
    Alike (x.undrawn after) (y.undrawn after') := by
  obtain ⟨turtle, rfl, alike⟩ := h.exists_turtle
  obtain ⟨turtle', rfl, -⟩ := hafter.exists_turtle
  exact ⟨alike, rfl⟩

end Execution.Alike

/-- The next command of both runs is a move that does not lead both turtles equally far. -/
def Scene.Parts (settings : Settings) (stride : Stride) (p : Program) (s t : Scene) : Prop :=
  ∃ i length, p.readAt settings.engine.maxRepeat s.execution.pc = some (.ok i) ∧
    i.command.pixels = some length ∧
    stride s.execution.turtle.angle length ≠ stride t.execution.turtle.angle length

/-- What both runs leave. -/
structure Run.Alike (run run' : Run) : Prop where
  ending : run.ending = run'.ending
  execution : run.execution.Alike run'.execution
  surface : run.surface = run'.surface

/-- Both runs between two commands. -/
structure Scene.Alike (s t : Scene) : Prop where
  execution : s.execution.Alike t.execution
  surface : s.surface = t.surface

namespace Scene.Alike

variable {settings : Settings} {stride : Stride} {trace : Bool} {p : Program} {s t : Scene}

theorem next_or_ends (h : s.Alike t)
    (hstep : Transition.Alike (s.execution.step (settings.normalizing true) stride trace p)
      (t.execution.step (settings.normalizing false) stride trace p)) :
    (∃ s' t', s.next? (settings.normalizing true) stride trace p = some s' ∧
      t.next? (settings.normalizing false) stride trace p = some t' ∧ s'.Alike t') ∨
    ∃ run run', s.Ends (settings.normalizing true) stride trace p run ∧
      t.Ends (settings.normalizing false) stride trace p run' ∧ run.Alike run' := by
  obtain ⟨x, surface⟩ := s
  obtain ⟨y, surface'⟩ := t
  obtain rfl : surface = surface' := h.surface
  generalize hx : x.step (settings.normalizing true) stride trace p = here at hstep
  generalize hy : y.step (settings.normalizing false) stride trace p = there at hstep
  cases hstep with
  | finish => exact .inr ⟨_, _, .finished hx, .finished hy, rfl, h.execution, rfl⟩
  | stop alike => exact .inr ⟨_, _, .stopped hx, .stopped hy, rfl, alike, rfl⟩
  | @go call after after' alike =>
      cases call with
      | none =>
          refine .inl ⟨⟨after, surface⟩, ⟨after', surface⟩, ?_, ?_, alike, rfl⟩
          · rw [next?, hx]
          · rw [next?, hy]
      | some call =>
          rcases hdraw : surface.draw call with ⟨painted, _ | fault⟩
          · refine .inl ⟨⟨after, painted⟩, ⟨after', painted⟩, ?_, ?_, alike, rfl⟩
            · simp only [next?, hx, hdraw]
            · simp only [next?, hy, hdraw]
          · exact .inr ⟨_, _, .undrawn hx hdraw, .undrawn hy hdraw, rfl,
              h.execution.undrawn alike, rfl⟩

/-- Both runs go side by side until they part, if they do. -/
theorem runFor (h : s.Alike t) (fuel : Nat) :
    Run.Alike
        (s.execution.runFor (settings.normalizing true) stride trace p fuel s.surface)
        (t.execution.runFor (settings.normalizing false) stride trace p fuel t.surface) ∨
      ∃ n u v, Reaches (settings.normalizing true) stride trace p n s u ∧
        Reaches (settings.normalizing false) stride trace p n t v ∧ u.Alike v ∧
        Parts settings stride p u v := by
  induction fuel generalizing s t with
  | zero => exact .inl ⟨rfl, h.execution, h.surface⟩
  | succ fuel ih =>
      by_cases parts : Parts settings stride p s t
      · exact .inr ⟨0, s, t, .refl s, .refl t, h, parts⟩
      · have agrees : Transition.Alike (s.execution.step (settings.normalizing true) stride trace p)
            (t.execution.step (settings.normalizing false) stride trace p) :=
          h.execution.step fun i length hread hlength =>
            by_contra fun differs => parts ⟨i, length, hread, hlength, differs⟩
        rcases h.next_or_ends agrees with ⟨s', t', hs, ht, alike⟩ | ⟨run, run', hs, ht, alike⟩
        · rw [runFor_of_next? hs, runFor_of_next? ht]
          rcases ih alike with same | ⟨n, u, v, hu, hv, alike', parts'⟩
          · exact .inl same
          · exact .inr ⟨1 + n, u, v, (Reaches.single hs).trans hu,
              (Reaches.single ht).trans hv, alike', parts'⟩
        · rw [hs.runFor, ht.runFor]
          exact .inl alike

end Scene.Alike

/-- A turn clockwise by two thirds of a full turn, and a short line. -/
def Program.slanted : Program :=
  #[⟨.identifier, 1, "PEN", 0⟩, ⟨.identifier, 1, "DOWN", 0⟩, ⟨.identifier, 2, "RIGHT", 0⟩,
    ⟨.number, 2, "", 240⟩, ⟨.identifier, 3, "FORWARD", 0⟩, ⟨.number, 3, "", 1⟩]

namespace Interpreter

/-- The interpreter with moves that lead elsewhere. -/
def striding (stride : Stride) (interpreter : Interpreter) : Interpreter :=
  { interpreter with stride }

theorem start_normalizing {settings : Settings} {trace : Option Bool} {surface : Surface}
    {memory : Memory} {fresh : Bool → Interpreter} (h : ∀ normalize,
      start (settings.normalizing normalize) trace surface memory = .ok (fresh normalize)) :
    ∃ stack, ∀ normalize,
      fresh normalize = ⟨settings.normalizing normalize, Turtle.displacement,
        trace.getD settings.engine.trace, surface,
        ⟨.initial settings.turtle, stack, 0, 0, 0, #[]⟩⟩ := by
  obtain ⟨stack, hstack, -⟩ := exists_of_bind_ok (h true)
  refine ⟨stack, fun normalize => ?_⟩
  obtain ⟨stack', hstack', made⟩ := exists_of_bind_ok (h normalize)
  cases hstack.symm.trans hstack'
  exact (Except.ok.inj made).symm

/-- Two fresh interpreters that keep their headings differently fail alike, draw the same and leave
    the same but for the heading, unless they come side by side to a move that does not lead both
    turtles equally far. Their headings are then a whole number of turns apart. -/
theorem runProgram_normalizing (p : Program) (stride : Stride) {settings : Settings}
    {trace : Option Bool} {surface : Surface} {memory : Memory} {fresh : Bool → Interpreter}
    (hfresh : ∀ normalize,
      start (settings.normalizing normalize) trace surface memory = .ok (fresh normalize)) :
    let interpreter normalize := (fresh normalize).striding stride
    let run normalize := (interpreter normalize).runProgram p
    let reaches normalize n :=
      Scene.Reaches (settings.normalizing normalize) stride (interpreter normalize).trace p n
        (interpreter normalize).opening
    ((run true).fault = (run false).fault ∧
        (run true).interpreter.surface = (run false).interpreter.surface ∧
        (run true).interpreter.execution.Alike (run false).interpreter.execution) ∨
      ∃ n s t, reaches true n s ∧ reaches false n t ∧ s.Alike t ∧
      Scene.Parts settings stride p s t := by
  intro interpreter run reaches
  obtain ⟨stack, made⟩ := start_normalizing hfresh
  have begun : (interpreter true).opening.Alike (interpreter false).opening := by
    simp only [interpreter, made, striding, opening]
    exact ⟨⟨Turtle.Alike.refl (Int.le_refl 0) (by decide : (0 : Int) < 360), rfl⟩, rfl⟩
  have keeps (normalize : Bool) :
      (interpreter normalize).settings = settings.normalizing normalize ∧
      (interpreter normalize).trace = trace.getD settings.engine.trace := by
    simp only [interpreter, made, striding, and_self]
  have ran (normalize : Bool) := @runProgram_of_run (interpreter normalize) p _ rfl
  simp only [run, reaches, ran, (keeps _).1, (keeps _).2]
  rcases begun.runFor p.workBound with alike | parts
  · have fault :=
      congrArg (fun ending : Ending => ending.fault.map InterpreterFault.run) alike.ending
    exact .inl ⟨fault, alike.surface, alike.execution⟩
  · exact .inr parts

/-- An interpreter as the settings have it where nothing is said, apart from how it keeps
    headings. -/
def untouched (normalize : Bool) : Interpreter :=
  ⟨({} : Settings).normalizing normalize, Turtle.displacement, false, .record #[],
    ⟨.initial {}, ⟨256, [], []⟩, 0, 0, 0, #[]⟩⟩

theorem start_untouched (normalize : Bool) :
    start (({} : Settings).normalizing normalize) none (.record #[]) .standard =
      .ok (untouched normalize) := by
  cases normalize <;> rfl

/-- Where moves all go along the x axis, the drawing does not tell the one heading from the
    other. -/
theorem runProgram_normalizing_slanted :
    (∀ normalize, start (({} : Settings).normalizing normalize) none (.record #[]) .standard =
        .ok (untouched normalize)) ∧
      (((untouched true).striding level.stride).runProgram .slanted).interpreter.surface =
        (((untouched false).striding level.stride).runProgram .slanted).interpreter.surface ∧
      (((untouched true).striding level.stride).runProgram .slanted).interpreter.turtle.angle =
        120 ∧
      (((untouched false).striding level.stride).runProgram .slanted).interpreter.turtle.angle =
        -240 := by
  refine ⟨start_untouched, ?_, by decide +kernel, by decide +kernel⟩
  have sides := runProgram_normalizing .slanted level.stride start_untouched
  dsimp only at sides
  rcases sides with ⟨-, same, -⟩ | ⟨n, s, t, -, -, -, parts⟩
  · exact same
  · obtain ⟨i, length, -, -, differs⟩ := parts
    exact absurd rfl differs

/-- The cosines of 120 and of -240 degrees are not the same double, and the lines do not end on the
    same pixel. -/
theorem runProgram_slanted_parts :
    let run normalize :=
      ((untouched normalize).striding Trigonometry.sampled.stride).runProgram .slanted
    (run true).interpreter.surface.calls = #[.line ⟨320, 240, 320, 241⟩ .white] ∧
      (run false).interpreter.surface.calls = #[.line ⟨320, 240, 319, 241⟩ .white] := by
  decide +kernel

end Interpreter

end TurtleGraphics
