import TurtleGraphics.Proofs.Execution.Rewording
import TurtleGraphics.Proofs.Interpreter.Normalizing
import TurtleGraphics.Proofs.Turtle.Reversal

/-! # There and back again

A move and the move back leave the turtle as it was, and draw the same line twice, once from each
end. A command may also be said with its contrary and the negated number, and the run does not
change.
-/

namespace TurtleGraphics

namespace Surface

/-- The surface takes all of the calls, one after the other. -/
def Accepts : Surface → List DrawCall → Prop
  | _, [] => True
  | surface, call :: calls => (surface.draw call).2 = none ∧ (surface.draw call).1.Accepts calls

theorem accepts_of_not_canvas {surface : Surface} (h : surface.isCanvas = false)
    (calls : List DrawCall) :
    surface.Accepts calls := by
  induction calls generalizing surface with
  | nil => trivial
  | cons call calls ih =>
      refine ⟨?_, ih ?_⟩
      · rw [draw_of_not_canvas h]
      · rw [draw_of_not_canvas h]
        exact isCanvas_drawAll h [call]

theorem accepts_append {surface : Surface} {calls more : List DrawCall} :
    surface.Accepts (calls ++ more) ↔ surface.Accepts calls ∧
    (surface.drawAll calls).Accepts more := by
  induction calls generalizing surface with
  | nil => exact ⟨fun h => ⟨trivial, h⟩, And.right⟩
  | cons call calls ih =>
      rw [List.cons_append, Accepts, Accepts, ih, and_assoc]
      rfl

end Surface

namespace Command

variable {c d : Command} {n : Int}

theorem mark_of_pixels (h : c.pixels = some n) : c.mark = .plain c := by
  cases c <;> first | rfl | cases h

theorem obey_of_pixels (h : c.pixels = some n) (settings : Settings) (stride : Stride)
    (turtle : Turtle) :
    turtle.obey settings stride c = turtle.move stride n := by
  cases c <;> cases h <;> rfl

theorem Contrary.obey (h : c.Contrary d) (settings : Settings) (stride : Stride) (turtle : Turtle) :
    turtle.obey settings stride d = turtle.obey settings stride c := by
  cases h with
  | forward | left => rfl
  | back n | right n => simp only [Turtle.obey, Int.neg_neg]

theorem Contrary.perform (h : c.Contrary d) (settings : Settings) (stride : Stride)
    {i j : Instruction} (hi : i.command = c) (hj : j.command = d) (x : Execution) :
    x.perform settings stride j = x.perform settings stride i := by
  have obeyed := h.obey settings stride x.turtle
  unfold Execution.perform
  rw [hi, hj]
  cases h <;> simp only [Execution.draw, obeyed]

end Command

namespace Scene

variable {settings : Settings} {stride : Stride} {p : Program} {s : Scene} {i j : Instruction}
  {n : Int}

theorem next?_of_pixels (trace : Bool)
    (hread : p.readAt settings.engine.maxRepeat s.execution.pc = some (.ok i))
    (hpixels : i.command.pixels = some n) {turtle : Turtle} {call : Option DrawCall}
    (hmove : s.execution.turtle.move stride n = .ok (turtle, call))
    (haccepts : s.surface.Accepts call.toList) :
    ∃ t, s.next? settings stride trace p = some t ∧ t.execution.turtle = turtle ∧
      t.execution.stack = s.execution.stack ∧ t.execution.pc = i.next ∧
      t.execution.lines = s.execution.lines + call.toList.countP DrawCall.isLine ∧
      t.surface = s.surface.drawAll call.toList := by
  have hobey : s.execution.turtle.obey settings stride i.command = .ok (turtle, call) := by
    rw [Command.obey_of_pixels hpixels, hmove]
  have hstep : s.execution.step settings stride trace p = _ :=
    Execution.step_plain hread (Command.mark_of_pixels hpixels) hobey
  refine ⟨⟨{ s.execution.dispatched trace i with
    turtle, lines := s.execution.lines + call.toList.countP DrawCall.isLine },
      s.surface.drawAll call.toList⟩,
    ?_, rfl, by simp only [Execution.dispatched_stack], rfl, rfl, rfl⟩
  cases call with
  | none =>
      rw [next?, hstep]
      rfl
  | some call =>
      rw [next?, hstep]
      rcases hdraw : s.surface.draw call with ⟨surface, _ | fault⟩
      · simp only [hdraw, Surface.drawAll, Option.toList_some, List.foldl_cons, List.foldl_nil]
      · have accepted := haccepts.1
        rw [hdraw] at accepted
        cases accepted

variable {trigonometry : Trigonometry} {dx dy : Int}

theorem reaches_back (trace : Bool)
    (hread : p.readAt settings.engine.maxRepeat s.execution.pc = some (.ok i))
    (hread' : p.readAt settings.engine.maxRepeat i.next = some (.ok j))
    (hpixels : i.command.pixels = some n) (hpixels' : j.command.pixels = some (-n))
    (hstride : trigonometry.stride s.execution.turtle.angle n = .ok (dx, dy)) :
    let turtle := s.execution.turtle
    let segment := turtle.segmentBy dx dy
    let calls : List DrawCall :=
      if turtle.penDown then [.line segment turtle.ink, .line segment.reversed turtle.ink] else []
    s.surface.Accepts calls → ∃ t, Reaches settings trigonometry.stride trace p 2 s t ∧
      t.execution.turtle = turtle ∧ t.execution.stack = s.execution.stack ∧
      t.execution.pc = j.next ∧
      t.execution.lines = s.execution.lines + calls.length ∧
      t.surface = s.surface.drawAll calls := by
  intro turtle segment calls haccepts
  let first : Option DrawCall := if turtle.penDown then some (.line segment turtle.ink) else none
  let second : Option DrawCall := if turtle.penDown then some (.line segment.reversed turtle.ink)
    else none
  have split : calls = first.toList ++ second.toList ∧
      first.toList.countP DrawCall.isLine + second.toList.countP DrawCall.isLine =
        calls.length := by
    simp only [calls, first, second]
    cases turtle.penDown <;> exact ⟨rfl, rfl⟩
  obtain ⟨hcalls, hlines⟩ := split
  rw [hcalls] at haccepts
  obtain ⟨haccepts, haccepts'⟩ := Surface.accepts_append.mp haccepts
  have out : turtle.move trigonometry.stride n = .ok (turtle.moveBy dx dy, first) := by
    rw [Turtle.move, hstride]
  obtain ⟨t, hnext, hturtle, hstack, hpc, hcount, hsurface⟩ :=
    next?_of_pixels trace hread hpixels out haccepts
  have back : t.execution.turtle.move trigonometry.stride (-n) = .ok (turtle, second) := by
    rw [hturtle]
    exact Turtle.move_back hstride
  rw [← hsurface] at haccepts'
  rw [← hpc] at hread'
  obtain ⟨u, hnext', hturtle', hstack', hpc', hcount', hsurface'⟩ :=
    next?_of_pixels trace hread' hpixels' back haccepts'
  refine ⟨u, (Reaches.single hnext).tail hnext', hturtle', hstack'.trans hstack, hpc', ?_, ?_⟩
  · rw [hcount', hcount, Nat.add_assoc, hlines]
  · rw [hsurface', hsurface, hcalls, Surface.drawAll_append]

end Scene

namespace Interpreter

/-- A command may be said with its contrary and the negated number anywhere in a program: all that
changes is the keyword that is reported. -/
theorem runProgram_reworded (interpreter : Interpreter) {p : Program} {before : List Instruction}
    {i : Instruction} {command : Command}
    (hfront : before ++ [i] <+: (p.walk interpreter.settings.engine.maxRepeat).instructions)
    (hcontrary : i.command.Contrary command) :
    let q := p.reworded (Instruction.boundary before) command.keyword
    q.readAt interpreter.settings.engine.maxRepeat (Instruction.boundary before) =
      some (.ok { i with command }) ∧
      (interpreter.runProgram q).fault = (interpreter.runProgram p).fault ∧
      ∃ traced, (interpreter.runProgram q).interpreter =
        { (interpreter.runProgram p).interpreter with
          execution := (interpreter.runProgram p).interpreter.execution.retraced traced } := by
  intro q
  have passed := Program.Passes.of_isPrefix ((List.prefix_append _ _).trans hfront)
  have read := (Program.Passes.of_isPrefix hfront).readAt_last
  have reworded := Program.readAt_reworded read hcontrary
  refine ⟨reworded, interpreter.runProgram_retraced fun front index hpasses => ?_⟩
  by_cases here : index = Instruction.boundary before
  · subst here
    exact .command read reworded rfl
      (hcontrary.perform interpreter.settings interpreter.stride rfl rfl)
  · obtain ⟨word, parameter, -, -, -, -, hi⟩ := Program.pair_of_readAt read hcontrary.parameterKind
    exact .same (hpasses.readAt_reworded passed read (congrArg Instruction.next hi) here
      command.keyword)

end Interpreter

/-- A step of minus so many pixels leads exactly as far the other way. So a command forward and the
same command back, in either order, restore the turtle, and draw one line from both ends; unless the
heading is beyond all doubles and no move does anything. Forward by a negated number is back, and
left is right. -/
theorem Trigonometry.Bounded.back_undoes_forward {trigonometry : Trigonometry}
    (hbounded : trigonometry.Bounded) :
    (∀ angle n, trigonometry.stride angle (-n) =
      (trigonometry.stride angle n).map fun parts => (-parts.1, -parts.2)) ∧
    (∀ (settings : Settings) (trace : Bool) (p : Program) (s : Scene) (i j : Instruction) (n : Int),
      p.readAt settings.engine.maxRepeat s.execution.pc = some (.ok i) →
      p.readAt settings.engine.maxRepeat i.next = some (.ok j) →
      (i.command = .forward n ∧ j.command = .back n ∨ i.command = .back n ∧
        j.command = .forward n) →
      let turtle := s.execution.turtle
      (∃ fault after, Double.ofInt turtle.angle = .error fault ∧
        s.execution.step settings trigonometry.stride trace p = .stop (.number fault) after ∧
        after.turtle = turtle) ∨
      ∃ length dx dy, i.command.pixels = some length ∧
        trigonometry.stride turtle.angle length = .ok (dx, dy) ∧
        let segment := turtle.segmentBy dx dy
        let calls : List DrawCall :=
          if turtle.penDown then [.line segment turtle.ink, .line segment.reversed turtle.ink]
            else []
        (s.surface.Accepts calls → ∃ t, Scene.Reaches settings trigonometry.stride trace p 2 s t ∧
          t.execution.turtle = turtle ∧ t.execution.stack = s.execution.stack ∧
          t.execution.pc = j.next ∧
          t.execution.lines = s.execution.lines + calls.length ∧
          t.surface = s.surface.drawAll calls)) ∧
    ∀ (interpreter : Interpreter) (p : Program) (before : List Instruction) (i : Instruction)
      (command : Command),
      before ++ [i] <+: (p.walk interpreter.settings.engine.maxRepeat).instructions →
      i.command.Contrary command →
      let q := p.reworded (Instruction.boundary before) command.keyword
      q.readAt interpreter.settings.engine.maxRepeat (Instruction.boundary before) =
        some (.ok { i with command }) ∧
        (interpreter.runProgram q).fault = (interpreter.runProgram p).fault ∧
        ∃ traced, (interpreter.runProgram q).interpreter =
          { (interpreter.runProgram p).interpreter with
            execution := (interpreter.runProgram p).interpreter.execution.retraced traced } := by
  refine ⟨trigonometry.stride_neg, ?_, fun interpreter _ _ _ _ => interpreter.runProgram_reworded⟩
  intro settings trace p s i j n hread hread' hcommands turtle
  obtain ⟨length, hpixels, hpixels', hlength⟩ : ∃ length, i.command.pixels = some length ∧
      j.command.pixels = some (-length) ∧ length.natAbs = n.natAbs := by
    rcases hcommands with ⟨hi, hj⟩ | ⟨hi, hj⟩
    · exact ⟨n, by rw [hi]; rfl, by rw [hj]; rfl, rfl⟩
    · exact ⟨-n, by rw [hi]; rfl, by rw [hj, Int.neg_neg]; rfl, Int.natAbs_neg n⟩
  have bounded : length.natAbs ≤ maxNumber := by
    have accepted := (Program.readAt_ok hread).1
    rw [hlength]
    rcases hcommands with ⟨hi, -⟩ | ⟨hi, -⟩ <;>
    · rw [hi] at accepted
      exact accepted
  cases hangle : Double.ofInt turtle.angle with
  | error fault =>
      have stuck : turtle.obey settings trigonometry.stride i.command = .error fault := by
        rw [Command.obey_of_pixels hpixels, Turtle.move, Trigonometry.stride, radians, hangle]
        rfl
      obtain ⟨after, hstep, hturtle, -⟩ :=
        @Execution.step_number_fault settings trigonometry.stride trace p _ _ hread
          (Command.mark_of_pixels hpixels) _
          stuck
      exact .inl ⟨fault, after, rfl, hstep, hturtle⟩
  | ok x =>
      obtain ⟨direction, hdirection, hfinite⟩ := radians_of_ofInt hangle
      obtain ⟨⟨dx, dy⟩, hstride⟩ := hbounded.stride_ok hdirection hfinite bounded
      exact .inr ⟨length, dx, dy, hpixels, hstride,
        Scene.reaches_back trace hread hread' hpixels hpixels' hstride⟩

def Program.toAndFro : Program :=
  #[⟨.identifier, 1, "FORWARD", 0⟩, ⟨.number, 1, "", 2⟩, ⟨.identifier, 2, "BACK", 0⟩,
    ⟨.number, 2, "", 2⟩]

/-- Along a heading of 30 degrees two pixels lead two to the right and one down. -/
theorem Trigonometry.Bounded.back_undoes_forward_slanted :
    let turtle : Turtle := { x := 320, y := 240, angle := 30, penDown := true }
    Trigonometry.sampled.stride 30 (-2) = .ok (-2, -1) ∧
      (∃ t, Scene.Reaches {} Trigonometry.sampled.stride false .toAndFro 2
          ⟨⟨turtle, ⟨4, [], []⟩, 0, 0, 0, #[]⟩, .record #[]⟩ t ∧ t.execution.turtle = turtle ∧
        t.surface =
          .record #[.line ⟨320, 240, 322, 241⟩ .white, .line ⟨322, 241, 320, 240⟩ .white]) ∧
      Program.reworded .toAndFro 0 .back = #[⟨.identifier, 1, "BACK", 0⟩, ⟨.number, 1, "", -2⟩,
        ⟨.identifier, 2, "BACK", 0⟩, ⟨.number, 2, "", 2⟩] ∧
      (Interpreter.level.runProgram (Program.reworded .toAndFro 0 .back)).fault =
        (Interpreter.level.runProgram .toAndFro).fault := by
  intro turtle
  obtain ⟨odd, undoes, rewords⟩ := Trigonometry.sampled_bounded.back_undoes_forward
  have there : Trigonometry.sampled.stride 30 2 = .ok (2, 1) := by decide +kernel
  have first : Program.toAndFro.readAt ({} : Settings).engine.maxRepeat 0 =
      some (.ok ⟨.forward 2, 1, 1, 2⟩) := rfl
  have second : Program.toAndFro.readAt ({} : Settings).engine.maxRepeat 2 =
      some (.ok ⟨.back 2, 2, 2, 4⟩) := rfl
  refine ⟨?_, ?_, rfl, ?_⟩
  · rw [odd, there]
    rfl
  · rcases undoes {} false .toAndFro ⟨⟨turtle, ⟨4, [], []⟩, 0, 0, 0, #[]⟩, .record #[]⟩
      ⟨.forward 2, 1, 1, 2⟩
      ⟨.back 2, 2, 2, 4⟩ 2 first second (.inl ⟨rfl, rfl⟩) with
      ⟨fault, -, beyond, -⟩ | ⟨length, dx, dy, hlength, hstride, restores⟩
    · have finite : (Float.ofInt 30).isFinite = true := by decide +kernel
      simp [Double.ofInt, turtle, finite] at beyond
    · cases hlength
      cases there.symm.trans hstride
      obtain ⟨t, reached, hturtle, -, -, -, hsurface⟩ :=
        restores (Surface.accepts_of_not_canvas rfl _)
      exact ⟨t, reached, hturtle, hsurface⟩
  · have passed :
        Program.toAndFro.Passes Interpreter.level.settings.engine.maxRepeat
          ([] ++ [⟨.forward 2, 1, 1, 2⟩]) 2 :=
      Program.Passes.start.next first
    have contrary : Command.Contrary (.forward 2) (.back (-2)) := by
      simpa using Command.Contrary.forward (-2)
    exact (rewords Interpreter.level .toAndFro [] ⟨.forward 2, 1, 1, 2⟩ (.back (-2)) passed.isPrefix
      contrary).2.1

/-- An angle beyond all doubles has no cosine. A move of no pixels fails, and so does the first of
    two moves. -/
theorem Trigonometry.Bounded.back_undoes_forward_beyond :
    let turtle : Turtle := { x := 320, y := 240, angle := 10 ^ 400, penDown := true }
    let scene : Scene := ⟨⟨turtle, ⟨4, [], []⟩, 0, 0, 0, #[]⟩, .record #[]⟩
    (∀ trigonometry : Trigonometry, trigonometry.stride turtle.angle 0 = .error .integerTooLarge) ∧
      ∀ (trigonometry : Trigonometry) t,
      ¬ Scene.Reaches {} trigonometry.stride false .toAndFro 2 scene t := by
  intro turtle scene
  have beyond : Double.ofInt turtle.angle = .error .integerTooLarge := by
    have infinite : (Float.ofInt (10 ^ 400)).isFinite = false := by decide +kernel
    rw [Double.ofInt, infinite]
    rfl
  have stuck (trigonometry : Trigonometry) (n : Int) :
      trigonometry.stride turtle.angle n = .error .integerTooLarge := by
    rw [Trigonometry.stride, radians, beyond]
    rfl
  refine ⟨fun trigonometry => stuck trigonometry 0, fun trigonometry t hreach => ?_⟩
  have first : Program.toAndFro.readAt ({} : Settings).engine.maxRepeat 0 =
      some (.ok ⟨.forward 2, 1, 1, 2⟩) := rfl
  have fails : scene.execution.turtle.obey {} trigonometry.stride (.forward 2) =
      .error .integerTooLarge := by
    rw [Command.obey_of_pixels rfl, Turtle.move, stuck]
  obtain ⟨after, hstop, -⟩ :=
    @Execution.step_number_fault {} trigonometry.stride false .toAndFro scene.execution _ first
      rfl _ fails
  have hlast : scene.next? {} trigonometry.stride false .toAndFro = none := by
    rw [Scene.next?, hstop]
  have none := (Scene.Reaches.refl scene).le_of_last hlast hreach
  omega

end TurtleGraphics
