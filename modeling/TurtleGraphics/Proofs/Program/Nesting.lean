import Mathlib.Data.List.Infix
import TurtleGraphics.Program.Instruction

/-! # Nesting

A flat sequence in which some items open a loop and some close one stands for nested blocks. An
outline keeps the blocks together with the loops that are still open, so that it can be built item
by item, from left to right. The depth of a place is counted without any outline: the starts before
it less the ends.
-/

namespace TurtleGraphics

/-- What an item of a sequence is to its nesting. -/
inductive Mark (α β : Type) where
  | plain (item : α)
  | opening (head : β)
  | closing
  deriving Repr, DecidableEq

namespace Mark

variable {α β γ δ : Type}

def map (f : α → γ) (g : β → δ) : Mark α β → Mark γ δ
  | .plain item => .plain (f item)
  | .opening head => .opening (g head)
  | .closing => .closing

end Mark

/-- A sequence in which every loop is closed, built up at its end. -/
inductive Block (α β : Type) where
  | empty
  | plain (before : Block α β) (item : α)
  | loop (before : Block α β) (head : β) (body : Block α β)
  deriving Repr, DecidableEq

namespace Block

variable {α β γ δ : Type}

def map (f : α → γ) (g : β → δ) : Block α β → Block γ δ
  | .empty => .empty
  | .plain before item => .plain (before.map f g) (f item)
  | .loop before head body => .loop (before.map f g) (g head) (body.map f g)

/-- How many loops are open at once at most. -/
def depth : Block α β → Nat
  | .empty => 0
  | .plain before _ => before.depth
  | .loop before _ body => max before.depth (body.depth + 1)

end Block

/-- A sequence in which some loops may still be open. -/
structure Outline (α β : Type) where
  /-- The open loops, the innermost first, each behind the block before it. -/
  frames : List (Block α β × β)
  /-- What stands in the innermost open loop so far. -/
  current : Block α β
  deriving Repr, DecidableEq

namespace Outline

variable {α β γ δ : Type}

/-- The outline with one more item, unless the item closes a loop where none is open. -/
def add : Outline α β → Mark α β → Option (Outline α β)
  | ⟨frames, current⟩, .plain item => some ⟨frames, .plain current item⟩
  | ⟨frames, current⟩, .opening head => some ⟨(current, head) :: frames, .empty⟩
  | ⟨(before, head) :: frames, current⟩, .closing => some ⟨frames, .loop before head current⟩
  | ⟨[], _⟩, .closing => none

def ofMarks (marks : List (Mark α β)) : Option (Outline α β) :=
  marks.foldlM add ⟨[], .empty⟩

def map (f : α → γ) (g : β → δ) (o : Outline α β) : Outline γ δ :=
  ⟨o.frames.map fun frame => (frame.1.map f g, g frame.2), o.current.map f g⟩

theorem ofMarks_concat (marks : List (Mark α β)) (mark : Mark α β) :
    ofMarks (marks ++ [mark]) = (ofMarks marks).bind (·.add mark) := by
  simp [ofMarks, List.foldlM_append]

theorem add_map (f : α → γ) (g : β → δ) (o : Outline α β) (mark : Mark α β) :
    (o.map f g).add (mark.map f g) = (o.add mark).map (·.map f g) := by
  obtain ⟨frames, current⟩ := o
  cases mark with
  | plain item => rfl
  | opening head => rfl
  | closing => cases frames <;> rfl

theorem ofMarks_map (f : α → γ) (g : β → δ) (marks : List (Mark α β)) :
    ofMarks (marks.map (·.map f g)) = (ofMarks marks).map (·.map f g) := by
  induction marks using List.reverseRecOn with
  | nil => rfl
  | append_singleton marks mark ih =>
      rw [List.map_append, List.map_singleton, ofMarks_concat, ofMarks_concat, ih]
      cases ofMarks marks with
      | none => rfl
      | some o => exact add_map f g o mark

/-- At no place of the outline are more than `limit` loops open. -/
def Within (limit : Nat) : List (Block α β × β) → Block α β → Prop
  | [], current => current.depth ≤ limit
  | (before, _) :: frames, current =>
    frames.length + 1 + current.depth ≤ limit ∧ Within limit frames before

theorem Within.depth_le {limit : Nat} {frames : List (Block α β × β)} {current : Block α β}
    (h : Within limit frames current) : frames.length + current.depth ≤ limit := by
  cases frames with
  | nil => simpa [Within] using h
  | cons frame frames => simpa [Within] using h.1

theorem Within.replace {limit : Nat} {frames : List (Block α β × β)} {current other : Block α β}
    (h : Within limit frames current) (hother : frames.length + other.depth ≤ limit) :
    Within limit frames other := by
  cases frames with
  | nil => simpa [Within] using hother
  | cons frame frames => exact ⟨by simpa using hother, h.2⟩

end Outline

namespace Command

/-- What the command is to the nesting of a program. -/
def mark : Command → Mark Command Int
  | .repeat count => .opening count
  | .loop => .closing
  | command => .plain command

def opensLoop : Command → Bool
  | .repeat _ => true
  | _ => false

def closesLoop : Command → Bool
  | .loop => true
  | _ => false

/-- How many more loops are open behind the command than before it. -/
def deepens (command : Command) : Int :=
  (if command.opensLoop then 1 else 0) - (if command.closesLoop then 1 else 0)

@[simp]
theorem deepens_repeat (count : Int) : (Command.repeat count).deepens = 1 := rfl

@[simp]
theorem deepens_loop : Command.loop.deepens = -1 := rfl

theorem deepens_plain {command : Command} (h : command.mark = .plain command) :
    command.deepens = 0 := by
  cases command with
  | «repeat» | loop => simp [mark] at h
  | _ => rfl

theorem mark_cases (command : Command) :
    (command.mark = .plain command ∧ command.deepens = 0) ∨
    (∃ count, command = .repeat count) ∨ command = .loop := by
  cases command <;> simp [mark, deepens, opensLoop, closesLoop]

end Command

namespace Instruction

/-- How many loops are open behind some commands: those that open one less those that close one. -/
def loopDepth (before : List Instruction) : Int :=
  (before.countP fun i => i.command.opensLoop) - (before.countP fun i => i.command.closesLoop)

@[simp]
theorem loopDepth_nil : loopDepth [] = 0 := rfl

@[simp]
theorem loopDepth_concat (before : List Instruction) (i : Instruction) :
    loopDepth (before ++ [i]) = loopDepth before + i.command.deepens := by
  simp only [loopDepth, Command.deepens, List.countP_append, List.countP_singleton]
  split <;> split <;> omega

/-- Every end of a loop closes one, and at no place are more than `limit` loops open. -/
def WellNested (limit : Nat) (instructions : List Instruction) : Prop :=
  ∀ before, before <+: instructions → 0 ≤ loopDepth before ∧ loopDepth before ≤ limit

instance (limit : Nat) (instructions : List Instruction) :
    Decidable (WellNested limit instructions) :=
  decidable_of_iff
    (∀ before ∈ instructions.inits, 0 ≤ loopDepth before ∧ loopDepth before ≤ limit)
    (by simp only [WellNested, List.mem_inits])

theorem WellNested.of_isPrefix {limit : Nat} {before instructions : List Instruction}
    (h : WellNested limit instructions) (hbefore : before <+: instructions) :
    WellNested limit before :=
  fun front hfront => h front (hfront.trans hbefore)

/-- Commands that are well nested have an outline, and its open loops are as many as the depth
    says. -/
theorem WellNested.exists_outline {limit : Nat} {instructions : List Instruction}
    (h : WellNested limit instructions) :
    ∃ o, Outline.ofMarks (instructions.map fun i => i.command.mark) = some o ∧
      (o.frames.length : Int) = loopDepth instructions ∧
      Outline.Within limit o.frames o.current := by
  induction instructions using List.reverseRecOn with
  | nil => exact ⟨⟨[], .empty⟩, rfl, rfl, Nat.zero_le _⟩
  | append_singleton before i ih =>
      obtain ⟨⟨frames, current⟩, ho, hdepth, hwithin⟩ := ih (h.of_isPrefix (List.prefix_append _ _))
      dsimp only at hdepth hwithin
      obtain ⟨nonneg, le⟩ := h _ (List.prefix_refl _)
      rw [loopDepth_concat, ← hdepth] at nonneg le ⊢
      rw [List.map_append, List.map_singleton, Outline.ofMarks_concat, ho, Option.bind_some]
      obtain ⟨hmark, hdeepens⟩ | ⟨count, hcount⟩ | hloop := i.command.mark_cases
      · exact ⟨⟨frames, .plain current i.command⟩, by rw [hmark]; rfl, by simp [hdeepens],
          hwithin.replace hwithin.depth_le⟩
      · rw [hcount] at le ⊢
        refine ⟨⟨(current, count) :: frames, .empty⟩, rfl, rfl, ?_, hwithin⟩
        simp only [Command.deepens_repeat] at le
        simp only [Block.depth]
        omega
      · rw [hloop] at nonneg ⊢
        cases frames with
        | nil => simp at nonneg
        | cons frame frames =>
            obtain ⟨outer, count⟩ := frame
            have inner : frames.length + 1 + current.depth ≤ limit := hwithin.1
            have before := hwithin.2.depth_le
            refine ⟨⟨frames, .loop outer count current⟩, rfl, ?_, hwithin.2.replace ?_⟩
            · rw [Command.deepens_loop, List.length_cons]
              dsimp only
              omega
            · simp only [Block.depth]
              omega

end Instruction

end TurtleGraphics
