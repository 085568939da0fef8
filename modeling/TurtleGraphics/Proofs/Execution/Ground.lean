import TurtleGraphics.Proofs.Canvas.Pixels
import TurtleGraphics.Proofs.Execution.Reach

/-! # What a run never looks at

A run never looks at what it has drawn. Of its surface it only learns whether a call can be painted,
and that is decided by the size of the canvas and by the memory for its samples. Neither does it
look at what was left in slots of the stack that are not in use.
-/

namespace TurtleGraphics

namespace Canvas

theorem size_drawLine (memory : Memory) (canvas : Canvas) (rgb : Rgb) (s : Segment) :
    (canvas.drawLine memory rgb s).1.width = canvas.width ∧
      (canvas.drawLine memory rgb s).1.height = canvas.height := by
  unfold drawLine
  split
  · exact ⟨rfl, rfl⟩
  · exact size_setAll _ _ _

theorem size_drawLines (memory : Memory) (rgb : Rgb) (segments : List Segment) (canvas : Canvas) :
    (drawLines memory rgb segments canvas).1.width = canvas.width ∧
      (drawLines memory rgb segments canvas).1.height = canvas.height := by
  induction segments generalizing canvas with
  | nil => exact ⟨rfl, rfl⟩
  | cons segment segments ih =>
      obtain ⟨width, height⟩ := canvas.size_drawLine memory rgb segment
      rw [drawLines]
      split
      · rename_i painted hdraw
        rw [hdraw] at width height
        obtain ⟨width', height'⟩ := ih painted
        exact ⟨width'.trans width, height'.trans height⟩
      · rename_i painted fault hdraw
        rw [hdraw] at width height
        exact ⟨width, height⟩

end Canvas

namespace Surface

def extent : Surface → Option (Nat × Nat × Memory)
  | .raster _ canvas memory => some (canvas.width, canvas.height, memory)
  | _ => none

variable {surface ground : Surface}

theorem extent_of_isCanvas (h : surface.isCanvas = false) : surface.extent = none := by
  cases surface with
  | discard | record => rfl
  | raster => cases h

theorem isCanvas_of_extent (h : surface.extent = none) : surface.isCanvas = false := by
  cases surface with
  | discard | record => rfl
  | raster => cases h

theorem extent_draw (surface : Surface) (call : DrawCall) :
    (surface.draw call).1.extent = surface.extent := by
  cases surface with
  | discard | record => rfl
  | raster palette canvas memory =>
      cases call with
      | clear paper => rfl
      | line segment ink =>
          obtain ⟨width, height⟩ := canvas.size_drawLine memory (palette ink) segment
          simp only [draw, extent, width, height]

theorem extent_drawAll (surface : Surface) (calls : List DrawCall) :
    (surface.drawAll calls).extent = surface.extent := by
  induction calls generalizing surface with
  | nil => rfl
  | cons call calls ih => exact (ih _).trans (surface.extent_draw call)

theorem extent_reset (surface : Surface) : surface.reset.extent = surface.extent := by
  cases surface <;> rfl

theorem extent_drawGlyph (settings : TurtleSettings) (turtle : Turtle) (size : Float)
    (surface : Surface) (trigonometry : Trigonometry) :
    (surface.drawGlyph settings turtle size trigonometry).1.extent = surface.extent := by
  cases surface with
  | discard | record => rfl
  | raster palette canvas memory =>
      unfold drawGlyph
      dsimp only
      cases turtle.glyph size trigonometry with
      | error fault => rfl
      | ok segments =>
          obtain ⟨width, height⟩ :=
            canvas.size_drawLines memory (palette settings.glyphColor) segments
          simp only [extent, width, height]

theorem extent_drawTurtle (settings : TurtleSettings) (turtle : Turtle) (surface : Surface)
    (trigonometry : Trigonometry) :
    (surface.drawTurtle settings turtle trigonometry).1.extent = surface.extent := by
  unfold drawTurtle
  split
  · rfl
  · exact extent_drawGlyph settings turtle _ surface trigonometry

theorem draw_congr (h : ground.extent = surface.extent) (call : DrawCall) :
    (ground.draw call).2 = (surface.draw call).2 := by
  cases surface with
  | discard | record =>
      cases ground with
      | discard | record => rfl
      | raster => cases h
  | raster palette canvas memory =>
      cases ground with
      | discard | record => cases h
      | raster palette' canvas' memory' =>
          simp only [extent, Option.some.injEq, Prod.mk.injEq] at h
          obtain ⟨width, height, rfl⟩ := h
          cases call with
          | clear paper => rfl
          | line segment ink =>
              simp only [draw, Canvas.drawLine, width, height]
              cases segment.samples Float memory' canvas.width canvas.height <;> rfl

end Surface

namespace Execution

/-- The state without what was left in slots that are not in use. -/
def used (x : Execution) : Execution :=
  x.holding x.stack.slots []

variable {settings : Settings} {stride : Stride} {trace : Bool} {p : Program} {x y : Execution}
  {surface ground : Surface}

theorem used_note (trace : Bool) (keyword : Option Keyword) (pc : Nat) (x : Execution) :
    used { x.note trace keyword with pc } = { x.used.note trace keyword with pc } := by
  cases trace <;> cases keyword <;> rfl

theorem openLoop_used (x : Execution) (count line : Int) :
    (x.openLoop count line).map used = (x.used.openLoop count line).map used := by
  simp only [openLoop_eq, apply_ite (Transition.map used), Transition.map_stop, Transition.map_go]
  rfl

theorem closeLoop_used (x : Execution) (line : Int) :
    (x.closeLoop line).map used = (x.used.closeLoop line).map used := by
  have same : x.used.stack.slots = x.stack.slots := rfl
  simp only [closeLoop_eq, same]
  rcases x.stack.slots with _ | ⟨count, _ | ⟨body, slots⟩⟩
  · rfl
  · rfl
  · simp only [apply_ite (Transition.map used), Transition.map_stop, Transition.map_go]
    rfl

theorem draw_used (x : Execution) (command : Command) :
    (x.draw settings stride command).map used = (x.used.draw settings stride command).map used := by
  have same : x.used.turtle = x.turtle := rfl
  unfold draw
  rw [same]
  cases x.turtle.obey settings stride command <;> rfl

theorem step_used (x : Execution) :
    (x.step settings stride trace p).map used = (x.used.step settings stride trace p).map used := by
  have same : x.used.pc = x.pc := rfl
  unfold step
  rw [same]
  rcases p.readAt settings.engine.maxRepeat x.pc with _ | ⟨fault | i⟩
  · rfl
  · dsimp only
    rw [← used_note]
    rfl
  · dsimp only
    rw [← used_note]
    generalize { x.note trace (some i.command.keyword) with pc := i.next } = noted
    unfold perform
    split
    · exact noted.openLoop_used _ _
    · exact noted.closeLoop_used _
    · exact noted.draw_used _

/-- On surfaces of one extent a run goes alike and makes the same calls, from states that differ in
    what was left in slots that are not in use. -/
theorem runFor_alike (settings : Settings) (stride : Stride) (trace : Bool) (p : Program)
    (fuel : Nat) (h : y.used = x.used) (hextent : ground.extent = surface.extent) :
    let run := x.runFor settings stride trace p fuel surface
    let run' := y.runFor settings stride trace p fuel ground
    run'.ending = run.ending ∧ run'.execution.used = run.execution.used ∧
      ∃ calls, run.surface = surface.drawAll calls ∧ run'.surface = ground.drawAll calls := by
  induction fuel generalizing x y surface ground with
  | zero => exact ⟨rfl, h, [], rfl, rfl⟩
  | succ fuel ih =>
      have alike : (y.step settings stride trace p).map used =
          (x.step settings stride trace p).map used := by
        rw [y.step_used, h, ← x.step_used]
      simp only [runFor]
      generalize x.step settings stride trace p = t, y.step settings stride trace p = t' at alike
      cases t with
      | finish =>
          cases t' with
          | finish => exact ⟨rfl, h, [], rfl, rfl⟩
          | stop | go => cases alike
      | stop fault after =>
          cases t' with
          | stop fault' after' =>
              obtain ⟨rfl, left⟩ := Transition.stop.inj alike
              exact ⟨rfl, left, [], rfl, rfl⟩
          | finish | go => cases alike
      | go after call =>
          cases t' with
          | finish | stop => cases alike
          | go after' call' =>
              obtain ⟨left, rfl⟩ := Transition.go.inj alike
              cases call' with
              | none => exact ih left hextent
              | some call =>
                  have answer := Surface.draw_congr hextent call
                  have extent : (ground.draw call).1.extent = (surface.draw call).1.extent := by
                    rw [Surface.extent_draw, Surface.extent_draw, hextent]
                  have drawn (s : Surface) (calls : List DrawCall) :
                      (s.draw call).1.drawAll calls = s.drawAll (call :: calls) := rfl
                  dsimp only
                  rcases hdraw : surface.draw call with ⟨painted, fault⟩
                  rcases hdraw' : ground.draw call with ⟨painted', fault'⟩
                  rw [hdraw, hdraw'] at answer extent
                  obtain rfl : fault' = fault := answer
                  cases fault' with
                  | some fault =>
                      have undone : (y.undrawn after').used = (x.undrawn after).used :=
                        congrArg₂ undrawn h left
                      refine ⟨rfl, undone, [call], ?_, ?_⟩
                      · rw [← drawn, hdraw]
                        rfl
                      · rw [← drawn, hdraw']
                        rfl
                  | none =>
                      obtain ⟨ending, execution, calls, hcalls, hcalls'⟩ := ih left extent
                      refine ⟨ending, execution, call :: calls, ?_, ?_⟩
                      · rw [← drawn, hdraw, ← hcalls]
                      · rw [← drawn, hdraw', ← hcalls']

end Execution

namespace Scene

variable {settings : Settings} {stride : Stride} {trace : Bool} {p : Program} {n : Nat}
  {s t : Scene}

theorem extent_next? (h : s.next? settings stride trace p = some t) :
    t.surface.extent = s.surface.extent := by
  unfold next? at h
  split at h
  · cases h
    rfl
  · rename_i call hstep
    have extent := s.surface.extent_draw call
    split at h
    · rename_i surface hdraw
      cases h
      rwa [hdraw] at extent
    · cases h
  · cases h
  · cases h

theorem Reaches.extent (h : Reaches settings stride trace p n s t) :
    t.surface.extent = s.surface.extent := by
  induction h with
  | refl => rfl
  | tail _ hnext ih => exact (extent_next? hnext).trans ih

end Scene

end TurtleGraphics
