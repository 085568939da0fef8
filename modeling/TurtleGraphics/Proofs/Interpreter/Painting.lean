import TurtleGraphics.Proofs.Interpreter.Safety
import TurtleGraphics.Proofs.Turtle.Marker

/-! # Everything can be painted

On a canvas that fits the memory, a run fails with diagnostics only, and so does nothing else: every
line that the turtle draws can be painted, and so can its marker behind the run. What carries this
is how far the turtle can have gone, which grows by one move with each command.
-/

namespace TurtleGraphics

open Double

/-- So many commands lead a turtle no farther than lines can be drawn. -/
def Program.workLimit : Nat :=
  2 ^ 960

namespace Turtle

variable {turtle : Turtle} {distance : Nat}

/-- Lines can be drawn up to here. -/
def horizon : Nat :=
  2 ^ 39 + Program.workLimit * 2 ^ 36

theorem start_le_horizon : 2 ^ 39 ≤ horizon :=
  Nat.le_add_right ..

theorem ranges_of_commands {n : Nat} (hn : n < Program.workLimit)
    (h : turtle.Ranges (2 ^ 39 + n * 2 ^ 36)) :
    turtle.Ranges horizon :=
  h.mono (Nat.add_le_add_left (Nat.mul_le_mul_right _ (Nat.le_of_lt hn)) _)

theorem le_horizon {n : Int} (h : n.natAbs ≤ horizon) : 100 * |(n : ℚ)| ≤ ceiling := by
  have far : |(n : ℚ)| ≤ 2 ^ 39 + 2 ^ 960 * 2 ^ 36 := by
    rw [← Int.cast_abs, Int.abs_eq_natAbs, Int.cast_natCast]
    unfold horizon Program.workLimit at h
    exact_mod_cast h
  have start : (2 : ℚ) ^ 39 ≤ 2 ^ 960 * 2 ^ 36 := by
    rw [← pow_add]
    exact pow_le_pow_right₀ (by norm_num) (by norm_num)
  unfold ceiling
  calc 100 * |(n : ℚ)|
    _ ≤ 2 ^ 14 * (2 ^ 960 * 2 ^ 36) := by
      generalize (2 : ℚ) ^ 960 * 2 ^ 36 = reach at far start ⊢
      linarith
    _ = 2 ^ 1010 := by rw [← pow_add, ← pow_add]

theorem Ranges.close (h : turtle.Ranges horizon) : turtle.Close :=
  ⟨le_horizon h.1, le_horizon h.2⟩

theorem Close.segmentBy_tame (h : turtle.Close) {dx dy : Int} (hdx : dx.natAbs ≤ 2 ^ 36)
    (hdy : dy.natAbs ≤ 2 ^ 36) :
    (turtle.segmentBy dx dy).Tame := by
  have along {start change : Int} (hstart : 100 * |(start : ℚ)| ≤ ceiling)
      (hchange : change.natAbs ≤ 2 ^ 36) :
      TurtleGraphics.Tame start (start + change - start) := by
    have short : |(change : ℚ)| ≤ 2 ^ 36 := by
      exact_mod_cast abs_intCast_le_iff.mpr hchange
    rw [add_sub_cancel_left]
    exact ⟨by linarith [abs_nonneg (start : ℚ)], le_max_of_le_left (by linarith)⟩
  exact ⟨along h.x hdx, along h.y hdy⟩

end Turtle

namespace Surface

/-- A row of samples fits the memory, if there is a canvas. -/
def Roomy (surface : Surface) : Prop :=
  ∀ width height memory, surface.extent = some (width, height, memory) →
    Segment.Holds memory width height

variable {surface : Surface}

theorem draw_ok (h : surface.Roomy) {call : DrawCall}
    (hcall : ∀ s ink, call = .line s ink → s.Tame) :
    (surface.draw call).2 = none := by
  cases surface with
  | discard | record => rfl
  | raster palette canvas memory =>
      cases call with
      | clear paper => rfl
      | line s ink => exact Canvas.drawLine_ok (palette ink) (hcall s ink rfl) (h _ _ _ rfl)

theorem drawTurtle_ok (h : surface.Roomy) {settings : TurtleSettings} {turtle : Turtle}
    (hclose : turtle.Close)
    (hheaded : turtle.Headed 0) {trigonometry : Trigonometry} (hbounded : trigonometry.Bounded)
    (hsize : settings.glyphSize.natAbs ≤ 2 ^ 36) :
    (surface.drawTurtle settings turtle trigonometry).2 = none := by
  have few : |(settings.glyphSize : ℚ)| ≤ 2 ^ 36 := by
    exact_mod_cast abs_intCast_le_iff.mpr hsize
  obtain ⟨size, hofInt, within⟩ := Within.ofInt few (by linarith [le_ceiling])
  obtain ⟨segments, hglyph, tame⟩ :=
    Turtle.glyph_tame hclose hheaded hbounded (within.mono (by norm_num))
  unfold drawTurtle
  rw [hofInt]
  cases surface with
  | discard | record => rfl
  | raster palette canvas memory =>
      simp only [drawGlyph, hglyph]
      exact Canvas.drawLines_ok _ segments tame (h _ _ _ rfl)

end Surface

variable {settings : Settings} {stride : Stride} {trace : Bool} {p : Program}

theorem Execution.ranges_step {x y : Execution} {call : Option DrawCall} {distance : Nat}
    (hshort : stride.Short) (hheaded : x.turtle.Headed 0) (hrange : x.turtle.Ranges distance)
    (hhome : settings.turtle.homeX.natAbs ≤ distance ∧ settings.turtle.homeY.natAbs ≤ distance)
    (hstep : x.step settings stride trace p = .go y call) :
    y.turtle.Ranges (distance + 2 ^ 36) ∧
      (distance ≤ Turtle.horizon → ∀ s ink, call = some (.line s ink) → s.Tame) := by
  obtain ⟨i, hread, hobey, -⟩ := Execution.obey_of_step_go hstep
  obtain ⟨range, drawn⟩ :=
    Turtle.obey_ranges hshort hheaded hrange hhome (Program.readAt_ok hread).1 hobey
  refine ⟨range, fun hdistance s ink hcall => ?_⟩
  obtain ⟨dx, dy, hdx, hdy, rfl⟩ := drawn s ink hcall
  exact (hrange.mono hdistance).close.segmentBy_tame hdx hdy

namespace Scene

variable {n : Nat} {s t : Scene}

/-- How far the turtle can have gone grows with the number of commands. -/
theorem Reaches.ranges (h : Reaches settings stride trace p n s t) (hshort : stride.Short)
    (hcovers : stride.Covers settings.engine.normalizeAngle 0)
    (hheaded : s.execution.turtle.Headed 0)
    {distance : Nat} (hrange : s.execution.turtle.Ranges distance)
    (hhome : settings.turtle.homeX.natAbs ≤ distance ∧ settings.turtle.homeY.natAbs ≤ distance) :
    t.execution.turtle.Ranges (distance + n * 2 ^ 36) := by
  induction h with
  | refl => simpa using hrange
  | @tail n _ _ _ hreach hnext ih =>
      obtain ⟨call, hstep⟩ := step_of_next? hnext
      have farther := Nat.le_add_right distance (n * 2 ^ 36)
      have home := And.intro (Nat.le_trans hhome.1 farther) (Nat.le_trans hhome.2 farther)
      obtain ⟨range, -⟩ :=
        Execution.ranges_step hshort (hreach.headed hcovers hheaded) (ih hheaded hrange) home hstep
      rwa [Nat.succ_mul, ← Nat.add_assoc]

end Scene

namespace Interpreter

/-- The turtle can go wherever commands lead it, it is near home, and lines fit the memory. -/
structure Paints (interpreter : Interpreter) : Prop where
  covers : interpreter.stride.Covers interpreter.settings.engine.normalizeAngle 0
  short : interpreter.stride.Short
  headed : interpreter.turtle.Headed 0
  range : interpreter.turtle.Ranges (2 ^ 39)
  home : interpreter.settings.turtle.homeX.natAbs ≤ 2 ^ 39 ∧
  interpreter.settings.turtle.homeY.natAbs ≤ 2 ^ 39
  roomy : interpreter.surface.Roomy

variable {interpreter : Interpreter}

/-- A run on a canvas fails with diagnostics only, and leaves a turtle whose marker can be
    painted. -/
theorem Paints.runProgram (h : interpreter.Paints) (hwork : p.workBound ≤ Program.workLimit) :
    let run := interpreter.runProgram p
    (run.fault = none ∨ ∃ d, run.fault = some (.run (.diagnostic d)) ∧
        p.Tells interpreter.settings.engine.maxRepeat d) ∧
      run.interpreter.turtle.Headed 0 ∧ run.interpreter.turtle.Close ∧
      run.interpreter.surface.Roomy := by
  intro run
  obtain ⟨n, t, left, hreach, hends, hfault, hafter⟩ := interpreter.exists_ending p
  have inside := interpreter.opening_inside interpreter.settings.engine.maxRepeat p
  obtain ⟨m, u, hreach', hlast, bound⟩ :=
    Scene.exists_last interpreter.stride interpreter.trace inside
  obtain ⟨rfl, rfl⟩ := hreach.last_unique hends.next? hreach' hlast
  have headed := hreach.headed h.covers h.headed
  have range := Turtle.ranges_of_commands (Nat.lt_of_lt_of_le bound hwork)
    (hreach.ranges h.short h.covers h.headed h.range h.home)
  have roomy : t.surface.Roomy := by
    unfold Surface.Roomy
    rw [hreach.extent]
    exact h.roomy
  have draws :
      ∀ after call, t.execution.step interpreter.settings interpreter.stride interpreter.trace p =
      .go after (some call) → (t.surface.draw call).2 = none := by
    intro after call hstep
    obtain ⟨-, tame⟩ := Execution.ranges_step h.short headed range
      ⟨Nat.le_trans h.home.1 Turtle.start_le_horizon, Nat.le_trans h.home.2 Turtle.start_le_horizon⟩
        hstep
    exact Surface.draw_ok roomy fun s ink hcall => tame (Nat.le_refl _) s ink (congrArg some hcall)
  have turtle : run.interpreter.turtle = t.execution.turtle := by
    rw [Interpreter.turtle, hafter]
    exact hends.turtle
  refine ⟨?_, by rwa [turtle], by rw [turtle]; exact range.close, ?_⟩
  · rw [hfault]
    obtain ⟨hending, -⟩ | ⟨d, hending, -, hd⟩ := hends.diagnosed draws h.covers headed
    · rw [hending]
      exact .inl rfl
    · rw [hending]
      exact .inr ⟨d, rfl, hd⟩
  · unfold Surface.Roomy
    rw [(interpreter.keeps_runProgram p).extent]
    exact h.roomy

end Interpreter

end TurtleGraphics
