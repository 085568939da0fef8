import TurtleGraphics.Execution
import TurtleGraphics.Proofs.Program.Nesting

/-! # Dispatching one command

Everything that a run can do at one command, said once: a command of the turtle goes on to the next
index, the start of a loop pushes two slots, and the end of a loop takes them up again. A run is a
chain of such dispatches, and however long a chain is, the run goes on from its end.
-/

namespace TurtleGraphics

namespace Surface

/-- Whether calls are painted. All other surfaces take every call. -/
def isCanvas : Surface → Bool
  | .raster _ _ _ => true
  | _ => false

def drawAll (surface : Surface) (calls : List DrawCall) : Surface :=
  calls.foldl (fun surface call => (surface.draw call).1) surface

theorem drawAll_append (surface : Surface) (calls calls' : List DrawCall) :
    surface.drawAll (calls ++ calls') = (surface.drawAll calls).drawAll calls' :=
  List.foldl_append

theorem isCanvas_of_record {surface : Surface} {calls : Array DrawCall}
    (h : surface = .record calls) :
    surface.isCanvas = false := by
  rw [h]
  rfl

theorem draw_of_not_canvas {surface : Surface} (h : surface.isCanvas = false) (call : DrawCall) :
    surface.draw call = (surface.drawAll [call], none) := by
  cases surface with
  | discard | record => rfl
  | raster => cases h

theorem isCanvas_drawAll {surface : Surface} (h : surface.isCanvas = false)
    (calls : List DrawCall) :
    (surface.drawAll calls).isCanvas = false := by
  induction calls generalizing surface with
  | nil => exact h
  | cons call calls ih =>
      apply ih
      cases surface with
      | discard | record => rfl
      | raster => cases h

theorem drawAll_record (calls : Array DrawCall) (more : List DrawCall) :
    (Surface.record calls).drawAll more = .record (calls ++ more.toArray) := by
  induction more generalizing calls with
  | nil => simp [drawAll]
  | cons call more ih =>
      have := ih (calls.push call)
      simpa [drawAll, draw] using this

end Surface

namespace LoopStack

theorem ofCapacity_ok {capacity : Int} {memory : Memory} (hpositive : 0 < capacity)
    (hmemory : 8 * capacity ≤ memory.bytes) :
    ofCapacity capacity memory = .ok ⟨capacity.toNat, [], []⟩ := by
  have limit : countLimit = 2 ^ 63 := by decide
  have bound : memory.bytes < 2 ^ 56 := memory.bytes_lt
  rw [ofCapacity, if_neg (by omega), if_neg (by rw [limit]; omega),
    if_neg (by rw [slotSize]; omega)]

theorem of_pop_ok {stack after : LoopStack} {value : Int} (h : stack.pop = .ok (value, after)) :
    stack = { after with slots := value :: after.slots, stale := after.stale.tail } := by
  obtain ⟨capacity, slots, stale⟩ := stack
  cases slots with
  | nil => cases h
  | cons top slots =>
      cases h
      rfl

end LoopStack

namespace Transition

/-- The same transition to another state. -/
def map (f : Execution → Execution) : Transition → Transition
  | .finish => .finish
  | .stop fault after => .stop fault (f after)
  | .go after call => .go (f after) call

@[simp]
theorem map_stop (f : Execution → Execution) (fault : RunFault) (after : Execution) :
    (stop fault after).map f = .stop fault (f after) := rfl

@[simp]
theorem map_go (f : Execution → Execution) (after : Execution) (call : Option DrawCall) :
    (go after call).map f = .go (f after) call := rfl

end Transition

namespace Execution

variable {settings : Settings} {stride : Stride} {trace : Bool} {p : Program} {x : Execution}
  {i : Instruction}

/-- The state once a command is read, reported and counted. -/
def dispatched (trace : Bool) (i : Instruction) (x : Execution) : Execution :=
  { (x.note trace (some i.command.keyword)).counted with pc := i.next }

@[simp]
theorem dispatched_turtle : (x.dispatched trace i).turtle = x.turtle := by
  cases trace <;> rfl

@[simp]
theorem dispatched_stack : (x.dispatched trace i).stack = x.stack := by
  cases trace <;> rfl

@[simp]
theorem dispatched_pc : (x.dispatched trace i).pc = i.next := rfl

@[simp]
theorem dispatched_commands : (x.dispatched trace i).commands = x.commands + 1 := by
  cases trace <;> rfl

@[simp]
theorem dispatched_lines : (x.dispatched trace i).lines = x.lines := by
  cases trace <;> rfl

theorem note_fields (trace : Bool) (x : Execution) (keyword : Option Keyword) :
    (x.note trace keyword).turtle = x.turtle ∧ (x.note trace keyword).stack = x.stack ∧
      (x.note trace keyword).commands = x.commands ∧ (x.note trace keyword).lines = x.lines := by
  cases trace <;> cases keyword <;> exact ⟨rfl, rfl, rfl, rfl⟩

theorem step_finish (hread : p.readAt settings.engine.maxRepeat x.pc = none) :
    x.step settings stride trace p = .finish := by
  rw [step, hread]

theorem step_of_readAt (hread : p.readAt settings.engine.maxRepeat x.pc = some (.ok i)) :
    x.step settings stride trace p =
      { x.note trace (some i.command.keyword) with pc := i.next }.perform settings stride i := by
  rw [step, hread]

private theorem perform_plain (hplain : i.command.mark = .plain i.command) :
    x.perform settings stride i = x.draw settings stride i.command := by
  unfold perform
  cases hc : i.command <;> simp_all [Command.mark]

private theorem perform_repeat {count : Int} (hcount : i.command = .repeat count) :
    x.perform settings stride i = x.openLoop count i.line := by
  rw [perform, hcount]

private theorem perform_loop (hloop : i.command = .loop) :
    x.perform settings stride i = x.closeLoop i.line := by
  rw [perform, hloop]

/-- The same state with other slots on the stack, and with others above them. -/
def holding (slots stale : List Int) (x : Execution) : Execution :=
  { x with stack := { x.stack with slots, stale } }

/-- The same state with another command to go on at. -/
def goto (pc : Nat) (x : Execution) : Execution :=
  { x with pc }

theorem openLoop_eq (x : Execution) (count line : Int) :
    x.openLoop count line =
      if x.stack.slots.length = x.stack.capacity then
        .stop (.diagnostic ⟨.stack .overflow, some line⟩) x
      else if x.stack.slots.length + 1 = x.stack.capacity then
        .stop (.diagnostic ⟨.stack .overflow, some line⟩)
          (x.holding ((x.pc : Int) :: x.stack.slots) x.stack.stale.tail)
      else
        .go (x.holding (count :: (x.pc : Int) :: x.stack.slots) x.stack.stale.tail.tail).counted
          none := by
  unfold openLoop LoopStack.push
  by_cases full : x.stack.slots.length = x.stack.capacity
  · simp only [if_pos full]
  · simp only [if_neg full, List.length_cons]
    by_cases full' : x.stack.slots.length + 1 = x.stack.capacity
    · simp only [if_pos full', holding]
    · simp only [if_neg full', holding]

/-- The end of a loop, told by the slots: it takes up two of them, and lays them down again while
    runs are left. -/
theorem closeLoop_eq (x : Execution) (line : Int) :
    x.closeLoop line =
      match x.stack.slots with
      | [] => .stop (.diagnostic ⟨.stack .empty, some line⟩) x
      | [top] =>
        .stop (.diagnostic ⟨.stack .empty, some line⟩) (x.holding [] (top :: x.stack.stale))
      | count :: body :: slots =>
        if count ≤ 1 then .go (x.holding slots (body :: count :: x.stack.stale)).counted none
        else if slots.length = x.stack.capacity then
          .stop (.diagnostic ⟨.stack .overflow, some line⟩)
            (x.holding slots (body :: count :: x.stack.stale))
        else if slots.length + 1 = x.stack.capacity then
          .stop (.diagnostic ⟨.stack .overflow, some line⟩)
            (x.holding (body :: slots) (count :: x.stack.stale))
        else
          .go ((x.holding ((count - 1) :: body :: slots) x.stack.stale).goto body.toNat).counted
            none := by
  unfold closeLoop LoopStack.pop
  rcases hslots : x.stack.slots with _ | ⟨count, _ | ⟨body, slots⟩⟩
  · rfl
  · rfl
  · dsimp only
    by_cases last : count ≤ 1
    · rw [if_neg (by omega), if_pos last]
      rfl
    · rw [if_pos (by omega), if_neg last]
      unfold LoopStack.push
      by_cases full : slots.length = x.stack.capacity
      · simp only [if_pos full, holding]
      · simp only [if_neg full, List.length_cons]
        by_cases full' : slots.length + 1 = x.stack.capacity
        · simp only [if_pos full', holding, List.tail_cons]
        · simp only [if_neg full', holding, goto, List.tail_cons]

/-- A change of the state that loops have nothing to do with: it can be made before and behind
    them. -/
structure Apart (f : Execution → Execution) : Prop where
  stack : ∀ x, (f x).stack = x.stack
  pc : ∀ x, (f x).pc = x.pc
  holding : ∀ slots stale x, f (x.holding slots stale) = (f x).holding slots stale
  goto : ∀ pc x, f (x.goto pc) = (f x).goto pc
  counted : ∀ x, f x.counted = (f x).counted

theorem Apart.openLoop {f : Execution → Execution} (h : Apart f) (x : Execution)
    (count line : Int) :
    (f x).openLoop count line = (x.openLoop count line).map f := by
  simp only [openLoop_eq, h.stack, h.pc, apply_ite (Transition.map f), Transition.map_stop,
    Transition.map_go, h.counted, h.holding]

theorem Apart.closeLoop {f : Execution → Execution} (h : Apart f) (x : Execution) (line : Int) :
    (f x).closeLoop line = (x.closeLoop line).map f := by
  simp only [closeLoop_eq, h.stack]
  rcases x.stack.slots with _ | ⟨count, _ | ⟨body, slots⟩⟩
  · rfl
  · simp only [Transition.map_stop, h.holding]
  · simp only [apply_ite (Transition.map f), Transition.map_stop, Transition.map_go,
      h.counted, h.goto, h.holding]

theorem step_plain (hread : p.readAt settings.engine.maxRepeat x.pc = some (.ok i))
    (hplain : i.command.mark = .plain i.command) {turtle : Turtle} {call : Option DrawCall}
    (hobey : x.turtle.obey settings stride i.command = .ok (turtle, call)) :
    x.step settings stride trace p =
      .go { x.dispatched trace i with
        turtle, lines := x.lines + call.toList.countP DrawCall.isLine } call := by
  obtain ⟨same, -, -, -⟩ := note_fields trace x (some i.command.keyword)
  rw [step_of_readAt hread, perform_plain hplain, draw]
  simp only [same, hobey]
  cases trace <;> rfl

theorem step_number_fault (hread : p.readAt settings.engine.maxRepeat x.pc = some (.ok i))
    (hplain : i.command.mark = .plain i.command) {fault : NumberFault}
    (hobey : x.turtle.obey settings stride i.command = .error fault) :
    ∃ after, x.step settings stride trace p = .stop (.number fault) after ∧
      after.turtle = x.turtle ∧ after.commands = x.commands ∧ after.lines = x.lines := by
  obtain ⟨same, -, commands, lines⟩ := note_fields trace x (some i.command.keyword)
  rw [step_of_readAt hread, perform_plain hplain, draw]
  simp only [same, hobey]
  exact ⟨_, rfl, rfl, commands, lines⟩

theorem step_repeat (hread : p.readAt settings.engine.maxRepeat x.pc = some (.ok i)) {count : Int}
    (hcount : i.command = .repeat count) (room : x.stack.slots.length + 2 ≤ x.stack.capacity) :
    x.step settings stride trace p =
      .go { x.dispatched trace i with
        stack := { x.stack with
          slots := count :: (i.next : Int) :: x.stack.slots, stale := x.stack.stale.tail.tail } }
        none := by
  obtain ⟨-, stack, -, -⟩ := note_fields trace x (some i.command.keyword)
  rw [step_of_readAt hread, perform_repeat hcount, openLoop_eq, stack, if_neg (by omega),
    if_neg (by omega), holding, stack]
  cases trace <;> rfl

theorem step_loop_again (hread : p.readAt settings.engine.maxRepeat x.pc = some (.ok i))
    (hloop : i.command = .loop) {count : Int} {body : Nat} {slots : List Int}
    (hslots : x.stack.slots = count :: (body : Int) :: slots)
    (room : x.stack.slots.length ≤ x.stack.capacity) (left : 1 < count) :
    x.step settings stride trace p =
      .go { x.dispatched trace i with
        pc := body
        stack := { x.stack with slots := (count - 1) :: (body : Int) :: slots } } none := by
  obtain ⟨-, stack, -, -⟩ := note_fields trace x (some i.command.keyword)
  rw [hslots, List.length_cons, List.length_cons] at room
  rw [step_of_readAt hread, perform_loop hloop, closeLoop_eq, stack, hslots]
  dsimp only
  rw [if_neg (by omega), if_neg (by omega), if_neg (by omega), holding, stack]
  cases trace <;> rfl

theorem step_loop_done (hread : p.readAt settings.engine.maxRepeat x.pc = some (.ok i))
    (hloop : i.command = .loop) {count : Int} {body : Int} {slots : List Int}
    (hslots : x.stack.slots = count :: body :: slots) (last : count ≤ 1) :
    x.step settings stride trace p =
      .go { x.dispatched trace i with
        stack := { x.stack with slots, stale := body :: count :: x.stack.stale } } none := by
  obtain ⟨-, stack, -, -⟩ := note_fields trace x (some i.command.keyword)
  rw [step_of_readAt hread, perform_loop hloop, closeLoop_eq, stack, hslots]
  dsimp only
  rw [if_pos last, holding, stack]
  cases trace <;> rfl

theorem openLoop_go {count line : Int} {y : Execution} {call : Option DrawCall}
    (h : x.openLoop count line = .go y call) :
    x.stack.slots.length ≠ x.stack.capacity ∧ x.stack.slots.length + 1 ≠ x.stack.capacity ∧
      y = (x.holding (count :: (x.pc : Int) :: x.stack.slots) x.stack.stale.tail.tail).counted := by
  rw [openLoop_eq] at h
  split at h
  · cases h
  · split at h
    · cases h
    · cases h
      exact ⟨‹_›, ‹_›, rfl⟩

theorem closeLoop_go {line : Int} {y : Execution} {call : Option DrawCall}
    (h : x.closeLoop line = .go y call) :
    ∃ count body slots, x.stack.slots = count :: body :: slots ∧
      ((1 < count ∧
          y = ((x.holding ((count - 1) :: body :: slots) x.stack.stale).goto body.toNat).counted) ∨
        (count ≤ 1 ∧ y = (x.holding slots (body :: count :: x.stack.stale)).counted)) := by
  rw [closeLoop_eq] at h
  split at h
  · cases h
  · cases h
  · rename_i count body slots hslots
    refine ⟨count, body, slots, hslots, ?_⟩
    split at h
    · cases h
      exact .inr ⟨‹_›, rfl⟩
    · split at h
      · cases h
      · split at h
        · cases h
        · cases h
          exact .inl ⟨by omega, rfl⟩

/-- All that a command can do to the index and to the stack when the run goes on behind it. -/
theorem step_go {y : Execution} {call : Option DrawCall}
    (h : x.step settings stride trace p = .go y call) :
    ∃ i, p.readAt settings.engine.maxRepeat x.pc = some (.ok i) ∧ y.commands = x.commands + 1 ∧
      y.stack.capacity = x.stack.capacity ∧
      ((i.command.mark = .plain i.command ∧ y.pc = i.next ∧ y.stack.slots = x.stack.slots) ∨
        (∃ count, i.command = .repeat count ∧ y.pc = i.next ∧
          x.stack.slots.length ≠ x.stack.capacity ∧ x.stack.slots.length + 1 ≠ x.stack.capacity ∧
          y.stack.slots = count :: (i.next : Int) :: x.stack.slots) ∨
        (i.command = .loop ∧ ∃ count body slots, x.stack.slots = count :: body :: slots ∧
          ((1 < count ∧ y.pc = body.toNat ∧ y.stack.slots = (count - 1) :: body :: slots) ∨
            (count ≤ 1 ∧ y.pc = i.next ∧ y.stack.slots = slots)))) := by
  unfold step at h
  split at h
  · cases h
  · cases h
  · rename_i i hread
    obtain ⟨-, hstack, hcommands, -⟩ := note_fields trace x (some i.command.keyword)
    refine ⟨i, hread, ?_⟩
    rw [← hcommands, ← hstack]
    generalize x.note trace (some i.command.keyword) = noted at h
    obtain ⟨hplain, -⟩ | ⟨count, hcount⟩ | hloop := i.command.mark_cases
    · rw [perform_plain hplain, draw] at h
      split at h
      · cases h
      · cases h
        exact ⟨rfl, rfl, .inl ⟨hplain, rfl, rfl⟩⟩
    · rw [perform_repeat hcount] at h
      obtain ⟨room, more, rfl⟩ := openLoop_go h
      exact ⟨rfl, rfl, .inr (.inl ⟨count, hcount, rfl, room, more, rfl⟩)⟩
    · rw [perform_loop hloop] at h
      obtain ⟨count, body, slots, hslots, ⟨left, rfl⟩ | ⟨last, rfl⟩⟩ := closeLoop_go h
      · exact ⟨rfl, rfl, .inr (.inr ⟨hloop, count, body, slots, hslots, .inl ⟨left, rfl, rfl⟩⟩)⟩
      · exact ⟨rfl, rfl, .inr (.inr ⟨hloop, count, body, slots, hslots, .inr ⟨last, rfl, rfl⟩⟩)⟩

theorem commands_of_step {y : Execution} {call : Option DrawCall}
    (h : x.step settings stride trace p = .go y call) : y.commands = x.commands + 1 := by
  obtain ⟨-, -, hcommands, -⟩ := step_go h
  exact hcommands

end Execution

end TurtleGraphics
