import TurtleGraphics.Proofs.Execution.Ending
import TurtleGraphics.Proofs.Turtle.Heading

/-! # The commands that a run obeys

A run obeys commands in the order in which it comes to them, in a loop again and again, and not the
one that fails. Which ones these are does not depend on the turtle or the surface, except that a
turtle that cannot obey or a line that cannot be drawn gives up the run.
-/

namespace TurtleGraphics

variable {settings settings' : Settings} {stride : Stride} {trace : Bool} {p : Program}

/-- Whether the fault lies in the program, and neither in a number nor in a drawing. -/
def RunFault.isDiagnostic : RunFault → Bool
  | .diagnostic _ => true
  | .number _ | .drawing _ => false

/-- The run was given up, but not for a fault of its program. -/
def Run.Hindered (run : Run) : Prop :=
  ∃ fault, run.ending.fault = some fault ∧ fault.isDiagnostic = false

namespace Scene

/-- The commands that a run obeys next, at most so many. -/
def obeyed (settings : Settings) (stride : Stride) (trace : Bool) (p : Program) :
    Nat → Scene → List Command
  | 0, _ => []
  | n + 1, s =>
    match s.next? settings stride trace p, p.readAt settings.engine.maxRepeat s.execution.pc with
    | some t, some (.ok i) => i.command :: obeyed settings stride trace p n t
    | _, _ => []

variable {n k : Nat} {s t u : Scene}

theorem obeyed_of_next? (h : s.next? settings stride trace p = some t) :
    ∃ i call, p.readAt settings.engine.maxRepeat s.execution.pc = some (.ok i) ∧
      s.execution.turtle.obey settings stride i.command = .ok (t.execution.turtle, call) ∧
      ∀ n, s.obeyed settings stride trace p (n + 1) =
        i.command :: t.obeyed settings stride trace p n := by
  obtain ⟨call, hstep⟩ := step_of_next? h
  obtain ⟨i, hread, hobey, -⟩ := Execution.obey_of_step_go hstep
  exact ⟨i, call, hread, hobey, fun n => by simp only [obeyed, h, hread]⟩

theorem obeyed_of_last (h : s.next? settings stride trace p = none) (n : Nat) :
    s.obeyed settings stride trace p n = [] := by
  cases n with
  | zero => rfl
  | succ n => simp only [obeyed, h]

theorem Reaches.obeyed_add (h : Reaches settings stride trace p n s t) (k : Nat) :
    s.obeyed settings stride trace p (n + k) =
      s.obeyed settings stride trace p n ++ t.obeyed settings stride trace p k := by
  induction h generalizing k with
  | refl => rw [Nat.zero_add, obeyed, List.nil_append]
  | @tail n s t u _ hnext ih =>
      obtain ⟨i, call, -, -, hobeyed⟩ := obeyed_of_next? hnext
      calc s.obeyed settings stride trace p (n + 1 + k)
        _ = s.obeyed settings stride trace p (n + (k + 1)) := by rw [Nat.add_assoc, Nat.add_comm 1]
        _ = s.obeyed settings stride trace p n ++ i.command ::
          u.obeyed settings stride trace p k := by
            rw [ih, hobeyed]
        _ = s.obeyed settings stride trace p n ++ t.obeyed settings stride trace p 1 ++
              u.obeyed settings stride trace p k := by
                rw [hobeyed 0, obeyed, List.append_assoc, List.singleton_append]
        _ = s.obeyed settings stride trace p (n + 1) ++ u.obeyed settings stride trace p k := by
          rw [ih]

/-- Wherever a run comes to, the turtle looks where the sum of all its turns says. -/
theorem Reaches.faces (h : Reaches settings stride trace p n s t) {commands : List Command}
    (hs : s.execution.turtle.Faces settings.engine.normalizeAngle (Command.heading commands)) :
    t.execution.turtle.Faces settings.engine.normalizeAngle
      (Command.heading (commands ++ s.obeyed settings stride trace p n)) := by
  induction h with
  | refl => rwa [obeyed, List.append_nil]
  | @tail n s t u hreach hnext ih =>
      obtain ⟨i, call, hread, hobey, hobeyed⟩ := obeyed_of_next? hnext
      have turned := (ih hs).obey (Program.readAt_ok hread).1 hobey
      rw [hreach.obeyed_add 1, hobeyed 0, ← List.append_assoc, Command.heading_append]
      exact turned

theorem next?_of_degrees (settings : Settings) (stride : Stride) (trace : Bool) {i : Instruction}
    (hread : p.readAt settings.engine.maxRepeat s.execution.pc = some (.ok i)) {degrees : Int}
    (hdegrees : i.command.degrees = some degrees) (within : s.execution.turtle.angle.natAbs < 360) :
    let turtle := s.execution.turtle
    let angle := turtle.angle + degrees
    angle.natAbs < 2 ^ 53 ∧ Double.wholeOfInt angle = .ok angle ∧
      ∃ t, s.next? settings stride trace p = some t ∧ t.execution.pc = i.next ∧
        t.execution.turtle =
          { turtle with angle := keptAngle settings.engine.normalizeAngle angle } := by
  intro turtle angle
  have accepted := (Program.readAt_ok hread).1
  obtain ⟨hplain, bounded, hobey⟩ : i.command.mark = .plain i.command ∧ degrees.natAbs ≤ maxNumber ∧
      turtle.obey settings stride i.command =
        return (← turtle.turn settings.engine.normalizeAngle degrees, none) := by
    cases hc : i.command <;> rw [hc] at hdegrees accepted <;> cases hdegrees
    · exact ⟨rfl, accepted, rfl⟩
    · exact ⟨rfl, by simpa [Command.Accepted] using accepted, rfl⟩
  obtain ⟨small, exact_, turned⟩ :=
    Turtle.turn_of_within settings.engine.normalizeAngle within bounded
  refine ⟨small, exact_, ?_⟩
  rw [turned] at hobey
  have hstep : s.execution.step settings stride trace p = _ :=
    Execution.step_plain hread hplain hobey
  exact ⟨_, by rw [next?, hstep], rfl, rfl⟩

theorem next?_undone (settings : Settings) (stride : Stride) (trace : Bool)
    (hnormal : settings.engine.normalizeAngle = true) {sum : Int}
    (faces : s.execution.turtle.Faces true sum) {i j : Instruction}
    (hread : p.readAt settings.engine.maxRepeat s.execution.pc = some (.ok i))
    (hread' : p.readAt settings.engine.maxRepeat i.next = some (.ok j)) {degrees : Int}
    (hdegrees : i.command.degrees = some degrees)
    (hdegrees' : j.command.degrees = some (-degrees)) :
    ∃ t u, s.next? settings stride trace p = some t ∧ t.next? settings stride trace p = some u ∧
      u.execution.turtle = s.execution.turtle := by
  obtain ⟨-, -, t, hnext, hpc, hturtle⟩ :=
    next?_of_degrees settings stride trace hread hdegrees faces.within
  have within : t.execution.turtle.angle.natAbs < 360 := by
    rw [hturtle]
    exact natAbs_keptAngle_lt _ _
  rw [← hpc] at hread'
  obtain ⟨-, -, u, hnext', -, hturtle'⟩ :=
    next?_of_degrees settings stride trace hread' hdegrees' within
  refine ⟨t, u, hnext, hnext', ?_⟩
  let angle := s.execution.turtle.angle
  calc u.execution.turtle
    _ =
      { s.execution.turtle with angle := keptAngle true (keptAngle true (angle + degrees) +
        -degrees) } := by
        rw [hturtle', hturtle, hnormal]
    _ = s.execution.turtle := by rw [keptAngle_undone (faces.normal rfl) faces.within]

end Scene

/-- Both runs are at the same command, in the same loops. -/
structure Execution.Abreast (x y : Execution) : Prop where
  pc : y.pc = x.pc
  capacity : y.stack.capacity = x.stack.capacity
  slots : y.stack.slots = x.stack.slots

namespace Execution.Abreast

variable {x x' y : Execution} {before : List Instruction} {loops : List OpenLoop}
  {call : Option DrawCall}

theorem symm (h : x.Abreast y) : y.Abreast x :=
  ⟨h.pc.symm, h.capacity.symm, h.slots.symm⟩

theorem inside {limit : Int} (h : x.Abreast y) (inside : x.Inside limit p before loops) :
    y.Inside limit p before loops := by
  obtain ⟨passes, opens, depth, running, slots, room⟩ := inside
  refine ⟨h.pc ▸ passes, opens, depth, running, ?_, h.capacity ▸ room⟩
  rw [LoopStack.toList, h.slots, ← slots, LoopStack.toList]

theorem step (h : x.Abreast y) (hlimit : settings'.engine.maxRepeat = settings.engine.maxRepeat)
    (inside : x.Inside settings.engine.maxRepeat p before loops)
    (hstep : x.step settings stride trace p = .go x' call) :
    (∃ fault after, y.step settings' stride trace p = .stop (.number fault) after) ∨
      ∃ y' call', y.step settings' stride trace p = .go y' call' ∧ x'.Abreast y' := by
  obtain ⟨i, hread, -, hcapacity, hcases⟩ := step_go hstep
  have room := inside.room
  rw [← inside.length_slots] at room
  rw [← hlimit, ← h.pc] at hread
  obtain ⟨hmark, hpc, hslots⟩ | ⟨count, hcount, hpc, hroom, hmore, hslots⟩ |
    ⟨hloop, count, body, slots, hwhole, hcases⟩ := hcases
  · -- Only here do the turtles have a say.
    cases hobey : y.turtle.obey settings' stride i.command with
    | error fault =>
        obtain ⟨after, hstop, -⟩ :=
          @step_number_fault settings' stride trace p y i hread hmark fault hobey
        exact .inl ⟨fault, after, hstop⟩
    | ok obeyed =>
        refine .inr ⟨_, _, step_plain hread hmark hobey, hpc.symm, ?_, ?_⟩
        · rw [dispatched_stack, h.capacity, hcapacity]
        · rw [dispatched_stack, h.slots, hslots]
  · have free : y.stack.slots.length + 2 ≤ y.stack.capacity := by
      rw [h.slots, h.capacity]
      omega
    refine .inr ⟨_, _, step_repeat hread hcount free, hpc.symm, h.capacity.trans hcapacity.symm, ?_⟩
    rw [hslots, h.slots]
  · obtain ⟨outer, opening, -, rfl, -⟩ := inside.innermost hwhole
    have whole := h.slots.trans hwhole
    obtain ⟨hleft, hpc, hslots⟩ | ⟨hlast, hpc, hslots⟩ := hcases
    · have room' : y.stack.slots.length ≤ y.stack.capacity := by rwa [h.slots, h.capacity]
      exact .inr ⟨_, _, step_loop_again hread hloop whole room' hleft, hpc.symm,
        h.capacity.trans hcapacity.symm, hslots.symm⟩
    · exact .inr ⟨_, _, step_loop_done hread hloop whole hlast, hpc.symm,
        h.capacity.trans hcapacity.symm, hslots.symm⟩

end Execution.Abreast

namespace Scene

variable {n : Nat} {s s' t : Scene} {before : List Instruction} {loops : List OpenLoop}

theorem next?_abreast (hnext : s.next? settings stride trace p = some s')
    (h : s.execution.Abreast t.execution)
    (hlimit : settings'.engine.maxRepeat = settings.engine.maxRepeat)
    (inside : s.execution.Inside settings.engine.maxRepeat p before loops) :
    (∃ run, t.Ends settings' stride trace p run ∧ run.Hindered) ∨
      ∃ t', t.next? settings' stride trace p = some t' ∧ s'.execution.Abreast t'.execution := by
  obtain ⟨call, hstep⟩ := step_of_next? hnext
  obtain ⟨fault, after, hstop⟩ | ⟨after, call', hgo, abreast⟩ := h.step hlimit inside hstep
  · exact .inl ⟨_, .stopped hstop, _, rfl, rfl⟩
  · cases call' with
    | none => exact .inr ⟨⟨after, t.surface⟩, by rw [next?, hgo], abreast⟩
    | some call' =>
        rcases hdraw : t.surface.draw call' with ⟨surface, _ | fault⟩
        · exact .inr ⟨⟨after, surface⟩, by simp only [next?, hgo, hdraw], abreast⟩
        · exact .inl ⟨_, .undrawn hgo hdraw, _, rfl, rfl⟩

/-- A run that starts abreast of another one obeys the same commands, unless it is hindered on its
    way. -/
theorem Reaches.abreast (h : Reaches settings stride trace p n s s')
    (ht : s.execution.Abreast t.execution)
    (hlimit : settings'.engine.maxRepeat = settings.engine.maxRepeat)
    (inside : s.execution.Inside settings.engine.maxRepeat p before loops) :
    (∃ k u run, k < n ∧ Reaches settings' stride trace p k t u ∧
        u.Ends settings' stride trace p run ∧
        run.Hindered) ∨
      ∃ t', Reaches settings' stride trace p n t t' ∧ s'.execution.Abreast t'.execution ∧
        t.obeyed settings' stride trace p n = s.obeyed settings stride trace p n := by
  induction h with
  | refl => exact .inr ⟨t, .refl t, ht, rfl⟩
  | @tail n s u s' hreach hnext ih =>
      obtain ⟨k, v, run, less, reached, hends, hindered⟩ | ⟨v, reached, abreast, same⟩ :=
        ih ht inside
      · exact .inl ⟨k, v, run, Nat.lt_succ_of_lt less, reached, hends, hindered⟩
      · obtain ⟨before', loops', inside'⟩ := hreach.stays_inside inside
        obtain ⟨run, hends, hindered⟩ | ⟨t', hnext', abreast'⟩ :=
          next?_abreast hnext abreast hlimit inside'
        · exact .inl ⟨n, v, run, Nat.lt_succ_self n, reached, hends, hindered⟩
        · refine .inr ⟨t', reached.tail hnext', abreast', ?_⟩
          obtain ⟨i, -, hread, -, hobeyed⟩ := obeyed_of_next? hnext
          obtain ⟨j, -, hread', -, hobeyed'⟩ := obeyed_of_next? hnext'
          rw [hlimit, abreast.pc, hread] at hread'
          cases hread'
          rw [reached.obeyed_add 1, hreach.obeyed_add 1, same, hobeyed 0, hobeyed' 0]
          rfl

variable {m : Nat} {t' : Scene} {run run' : Run}

theorem Ends.unique (h : s.Ends settings stride trace p run)
    (h' : s.Ends settings stride trace p run') :
    run = run' :=
  (h.runFor 0).symm.trans (h'.runFor 0)

/-- Two runs that start abreast obey the same commands to their ends, unless one of them is
    hindered. -/
theorem Ends.abreast (hends : s'.Ends settings stride trace p run) (hrun : ¬run.Hindered)
    (h : Reaches settings stride trace p n s s') (hends' : t'.Ends settings' stride trace p run')
    (hrun' : ¬run'.Hindered) (h' : Reaches settings' stride trace p m t t')
    (ht : s.execution.Abreast t.execution)
    (hlimit : settings'.engine.maxRepeat = settings.engine.maxRepeat)
    (inside : s.execution.Inside settings.engine.maxRepeat p before loops) :
    m = n ∧ t.obeyed settings' stride trace p n = s.obeyed settings stride trace p n := by
  obtain ⟨k, u, other, -, reached, hother, hindered⟩ | ⟨u, reached, abreast, same⟩ :=
    h.abreast ht hlimit inside
  · obtain ⟨-, rfl⟩ := h'.last_unique hends'.next? reached hother.next?
    exact absurd (hends'.unique hother ▸ hindered) hrun'
  · refine ⟨?_, same⟩
    -- If the other run went on from here, so would the first one, which has ended.
    cases hnext : u.next? settings' stride trace p with
    | none => exact (h'.last_unique hends'.next? reached hnext).1
    | some v =>
        obtain ⟨before', loops', inside'⟩ := h.stays_inside inside
        rw [← hlimit] at inside'
        obtain ⟨other, hother, hindered⟩ | ⟨w, hgoes, -⟩ :=
          next?_abreast hnext abreast.symm hlimit.symm (abreast.inside inside')
        · exact absurd (hends.unique hother ▸ hindered) hrun
        · rw [hends.next?] at hgoes
          cases hgoes

theorem Reaches.obeyed_workBound (h : Reaches settings stride trace p n s t)
    (hlast : t.next? settings stride trace p = none)
    (inside : s.execution.Inside settings.engine.maxRepeat p before loops) :
    s.obeyed settings stride trace p p.workBound = s.obeyed settings stride trace p n := by
  obtain ⟨m, u, reached, hlast', bound⟩ := exists_last stride trace inside
  obtain ⟨rfl, rfl⟩ := h.last_unique hlast reached hlast'
  obtain ⟨k, hk⟩ := Nat.exists_eq_add_of_le (Nat.le_of_lt bound)
  rw [hk, h.obeyed_add, obeyed_of_last hlast, List.append_nil]

end Scene

end TurtleGraphics
