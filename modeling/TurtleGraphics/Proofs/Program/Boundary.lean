import Mathlib.Data.List.Infix
import TurtleGraphics.Program.Instruction

/-! # Command boundaries

Reading a program command by command stops at some of its indices only. These boundaries are the
places from which a run can go on: the commands behind a boundary depend on nothing before it. A
command that was read keeps what its reader checked.
-/

namespace TurtleGraphics

/-- What the reader checks of a command: a loop runs from once up to `limit` times, and every other
    number lies within the bound. -/
def Command.Accepted (limit : Int) : Command → Prop
  | .repeat count => 0 < count ∧ count ≤ limit
  | .forward number | .back number | .left number | .right number => number.natAbs ≤ maxNumber
  | .home | .paper _ | .ink _ | .pen _ | .loop => True

/-- The index behind commands that were read from the start of a program. -/
def Instruction.boundary (before : List Instruction) : Nat :=
  (before.getLast?.map Instruction.next).getD 0

@[simp]
theorem Instruction.boundary_concat (before : List Instruction) (i : Instruction) :
    Instruction.boundary (before ++ [i]) = i.next := by
  simp [Instruction.boundary]

theorem exists_of_bind_ok {ε α β : Type} {x : Except ε α} {f : α → Except ε β} {b : β}
    (h : x >>= f = .ok b) : ∃ a, x = .ok a ∧ f a = .ok b := by
  cases x with
  | error e => cases h
  | ok a => exact ⟨a, rfl, h⟩

theorem of_bind_error {ε α β : Type} {x : Except ε α} {f : α → Except ε β} {e : ε}
    (h : x >>= f = .error e) : x = .error e ∨ ∃ a, x = .ok a ∧ f a = .error e := by
  cases x with
  | error e' =>
      cases h
      exact .inl rfl
  | ok a => exact .inr ⟨a, rfl, h⟩

theorem ok_of_mapError_ok {ε δ α : Type} {x : Except ε α} {f : ε → δ} {a : α}
    (h : x.mapError f = .ok a) : x = .ok a := by
  cases x with
  | error e => cases h
  | ok b =>
      cases h
      rfl

theorem Step.boundedNumber_ok {step : Step} {number : Int} (h : step.boundedNumber = .ok number) :
    number.natAbs ≤ maxNumber := by
  unfold boundedNumber at h
  split at h
  · cases h
    assumption
  · cases h

theorem Step.loopCount_ok {limit : Int} {step : Step} {count : Int}
    (h : step.loopCount limit = .ok count) : (0 < count ∧ count ≤ limit) ∧ step.number = count := by
  unfold loopCount at h
  split at h
  · cases h
    exact ⟨‹_›, rfl⟩
  · cases h

namespace Program

variable {limit : Int} {p : Program} {index : Nat}

theorem parameterAt_ok {expected : StepKind} {step : Step}
    (h : p.parameterAt index expected = .ok step) : p[index]? = some step := by
  unfold parameterAt at h
  split at h
  · cases h
  · split at h
    · cases h
      assumption
    · cases h

private theorem parameter_ok {α : Type} {expected : StepKind} {read : Step → Except Diagnostic α}
    {make : α → Command} {command : Command} {line : Option Int}
    (h : (do
      let step ← p.parameterAt index expected
      return (make (← read step), some step.line)) = Except.ok (command, line)) :
    ∃ step value, p[index]? = some step ∧ read step = .ok value ∧ make value = command := by
  obtain ⟨step, hstep, h⟩ := exists_of_bind_ok h
  obtain ⟨value, hvalue, h⟩ := exists_of_bind_ok h
  cases h
  exact ⟨step, value, parameterAt_ok hstep, hvalue, rfl⟩

theorem commandWith_ok {keyword : Keyword} {command : Command} {line : Option Int}
    (h : p.commandWith limit index keyword = .ok (command, line)) :
    command.keyword = keyword ∧ command.Accepted limit ∧
      (keyword.takesParameter = true → index < p.size) ∧
      ∀ count, command = .repeat count → ∃ step, p[index]? = some step ∧ step.number = count := by
  cases keyword with
  | home | loop =>
      cases h
      exact ⟨rfl, trivial, by simp [Keyword.takesParameter], by simp⟩
  | paper | ink | pen =>
      obtain ⟨step, value, hstep, -, rfl⟩ := parameter_ok h
      exact ⟨rfl, trivial, fun _ => (Array.getElem?_eq_some_iff.mp hstep).1, by simp⟩
  | forward | back | left | right =>
      obtain ⟨step, number, hstep, hnumber, rfl⟩ := parameter_ok h
      exact ⟨rfl, Step.boundedNumber_ok hnumber, fun _ => (Array.getElem?_eq_some_iff.mp hstep).1,
        by simp⟩
  | «repeat» =>
      obtain ⟨step, count, hstep, hcount, rfl⟩ := parameter_ok h
      obtain ⟨accepted, number⟩ := Step.loopCount_ok hcount
      refine ⟨rfl, accepted, fun _ => (Array.getElem?_eq_some_iff.mp hstep).1, ?_⟩
      rintro _ ⟨⟩
      exact ⟨step, hstep, number⟩

theorem keywordOf_ok {step : Step} {keyword : Keyword} (h : keywordOf step = .ok keyword) :
    Keyword.ofName? step.text = some keyword := by
  unfold keywordOf at h
  split at h
  · cases h
  · split at h
    · cases h
      assumption
    · cases h

/-- All that is known of a command that was read: its keyword stands at the index, its numbers were
    checked, and the next command starts behind it and within the program. -/
theorem readAt_ok {i : Instruction} (h : p.readAt limit index = some (.ok i)) :
    i.command.Accepted limit ∧ index < i.next ∧ i.next ≤ p.size ∧
      ∃ first, p[index]? = some first ∧ i.line = first.line ∧
        Keyword.ofName? first.text = some i.command.keyword ∧
        ∀ count, i.command = .repeat count →
          i.next = index + 2 ∧ ∃ step, p[index + 1]? = some step ∧ step.number = count := by
  obtain ⟨first, hfirst, hread⟩ := Option.map_eq_some_iff.mp h
  have inside : index < p.size := (Array.getElem?_eq_some_iff.mp hfirst).1
  unfold instruction at hread
  split at hread
  · cases hread
  · rename_i keyword hkeyword
    split at hread
    · cases hread
    · rename_i command line hcommand
      cases hread
      obtain ⟨rfl, accepted, within, count⟩ := commandWith_ok hcommand
      refine ⟨accepted, ?_, ?_, first, hfirst, rfl, keywordOf_ok hkeyword, ?_⟩
      · simp only [indexAfter]
        split <;> omega
      · simp only [indexAfter]
        split <;> omega
      · rintro n rfl
        have := within rfl
        exact ⟨by simp only [indexAfter, Command.keyword, Keyword.takesParameter, if_true]; omega,
          count n rfl⟩

theorem readAt_eq_none : p.readAt limit index = none ↔ p.size ≤ index := by
  simp [readAt]

theorem parameterAt_error {expected : StepKind} {d : Diagnostic}
    (h : p.parameterAt index expected = .error d) : d.kind = .grammatical := by
  unfold parameterAt at h
  split at h
  · cases h
    rfl
  · split at h
    · cases h
    · cases h
      rfl

private theorem parameter_error {α : Type} {expected : StepKind} {read : Step → Except Diagnostic α}
    {make : α → Command} {d : Diagnostic}
    (hread : ∀ step d, read step = .error d → d.kind = .grammatical)
    (h : (do
      let step ← p.parameterAt index expected
      return (make (← read step), some step.line)) = Except.error d) : d.kind = .grammatical := by
  obtain h | ⟨step, -, h⟩ := of_bind_error h
  · exact parameterAt_error h
  · obtain h | ⟨value, -, h⟩ := of_bind_error h
    · exact hread step d h
    · cases h

theorem commandWith_error {keyword : Keyword} {d : Diagnostic}
    (h : p.commandWith limit index keyword = .error d) : d.kind = .grammatical := by
  cases keyword with
  | home | loop => cases h
  | paper | ink =>
      refine parameter_error (fun step d h => ?_) h
      unfold Step.color at h
      split at h <;> cases h
      rfl
  | pen =>
      refine parameter_error (fun step d h => ?_) h
      unfold Step.penState at h
      split at h <;> cases h
      rfl
  | forward | back | left | right =>
      refine parameter_error (fun step d h => ?_) h
      unfold Step.boundedNumber at h
      split at h <;> cases h
      rfl
  | «repeat» =>
      refine parameter_error (fun step d h => ?_) h
      unfold Step.loopCount at h
      split at h <;> cases h
      rfl

theorem readAt_error {fault : ReadFault} (h : p.readAt limit index = some (.error fault)) :
    fault.diagnostic.kind = .grammatical := by
  obtain ⟨step, -, hread⟩ := Option.map_eq_some_iff.mp h
  unfold instruction at hread
  split at hread
  · rename_i d hkeyword
    cases hread
    unfold keywordOf at hkeyword
    split at hkeyword
    · cases hkeyword
      rfl
    · split at hkeyword
      · cases hkeyword
      · cases hkeyword
        rfl
  · split at hread
    · rename_i d hcommand
      cases hread
      exact commandWith_error hcommand
    · cases hread

theorem next_le_of_readAt_error {fault : ReadFault}
    (h : p.readAt limit index = some (.error fault)) :
    fault.next ≤ p.size := by
  obtain ⟨step, hstep, hread⟩ := Option.map_eq_some_iff.mp h
  have inside : index < p.size := (Array.getElem?_eq_some_iff.mp hstep).1
  unfold instruction at hread
  split at hread
  · cases hread
    exact inside
  · split at hread
    · cases hread
      simp only [indexAfter]
      split <;> omega
    · cases hread

theorem walkFrom_eq (limit : Int) (p : Program) (index : Nat) :
    p.walkFrom limit index =
      match p.readAt limit index with
      | none => ⟨[], none⟩
      | some (.error fault) => ⟨[], some fault⟩
      | some (.ok i) =>
        ⟨i :: (p.walkFrom limit i.next).instructions, (p.walkFrom limit i.next).fault⟩ := by
  rw [walkFrom]
  split
  · rename_i inside
    simp only [readAt, Array.getElem?_eq_getElem inside, Option.map_some]
    split <;> simp_all
  · rename_i outside
    simp [readAt, Array.getElem?_eq_none (Nat.le_of_not_lt outside)]

/-- Reading from the start passes the commands `before` and comes to an index. -/
inductive Passes (limit : Int) (p : Program) : List Instruction → Nat → Prop where
  | start : Passes limit p [] 0
  | next {before : List Instruction} {index : Nat} {i : Instruction} :
    Passes limit p before index → p.readAt limit index = some (.ok i) →
      Passes limit p (before ++ [i]) i.next

namespace Passes

variable {before : List Instruction}

theorem boundary (h : Passes limit p before index) : Instruction.boundary before = index := by
  cases h with
  | start => rfl
  | next => exact Instruction.boundary_concat _ _

theorem index_le (h : Passes limit p before index) : index ≤ p.size := by
  cases h with
  | start => exact Nat.zero_le _
  | next _ hread => exact (readAt_ok hread).2.2.1

theorem next_le (h : Passes limit p before index) {i : Instruction} (hmem : i ∈ before) :
    i.next ≤ index := by
  induction h with
  | start => cases hmem
  | next _ hread ih =>
      rcases List.mem_append.mp hmem with hmem | hmem
      · exact Nat.le_trans (ih hmem) (Nat.le_of_lt (readAt_ok hread).2.1)
      · rw [List.mem_singleton.mp hmem]

theorem length_le (h : Passes limit p before index) : before.length ≤ index := by
  induction h with
  | start => exact Nat.le_refl _
  | next _ hread ih =>
      have := (readAt_ok hread).2.1
      simp only [List.length_append, List.length_singleton]
      omega

/-- What was passed is the front of the walk, and the walk goes on behind it. -/
theorem walk_eq (h : Passes limit p before index) :
    p.walk limit =
      ⟨before ++ (p.walkFrom limit index).instructions, (p.walkFrom limit index).fault⟩ := by
  induction h with
  | start => rfl
  | next _ hread ih =>
      rw [ih, walkFrom_eq, hread]
      simp

theorem isPrefix (h : Passes limit p before index) : before <+: (p.walk limit).instructions := by
  rw [h.walk_eq]
  exact List.prefix_append _ _

theorem of_isPrefix (h : before <+: (p.walk limit).instructions) :
    Passes limit p before (Instruction.boundary before) := by
  induction before using List.reverseRecOn with
  | nil => exact .start
  | append_singleton before i ih =>
      have passed := ih ((List.prefix_append _ _).trans h)
      obtain ⟨rest, hrest⟩ := h
      rw [passed.walk_eq, List.append_assoc, List.append_cancel_left_eq, walkFrom_eq] at hrest
      cases hread : p.readAt limit (Instruction.boundary before) with
      | none => simp [hread] at hrest
      | some result =>
          cases result with
          | error fault => simp [hread] at hrest
          | ok j =>
              simp only [hread, List.singleton_append, List.cons.injEq] at hrest
              obtain ⟨rfl, -⟩ := hrest
              rw [Instruction.boundary_concat]
              exact passed.next hread

theorem of_walk (limit : Int) (p : Program) :
    p.Passes limit (p.walk limit).instructions (Instruction.boundary (p.walk limit).instructions) :=
  of_isPrefix (List.prefix_refl _)

theorem readAt_last {i : Instruction} (h : Passes limit p (before ++ [i]) index) :
    p.readAt limit (Instruction.boundary before) = some (.ok i) := by
  generalize hwhole : before ++ [i] = whole at h
  cases h with
  | start => simp at hwhole
  | next passed hread =>
      obtain ⟨rfl, rfl⟩ := List.append_singleton_inj.mp hwhole
      rw [passed.boundary]
      exact hread

theorem readAt_walk (limit : Int) (p : Program) :
    p.readAt limit (Instruction.boundary (p.walk limit).instructions) =
      (p.walk limit).fault.map Except.error := by
  have passed := of_walk limit p
  have count := congrArg (fun walk => walk.instructions.length) passed.walk_eq
  have fault := congrArg Walk.fault passed.walk_eq
  rw [fault]
  rw [walkFrom_eq] at count ⊢
  cases hread : p.readAt limit (Instruction.boundary (p.walk limit).instructions) with
  | none => rfl
  | some result =>
      cases result with
      | error fault => rfl
      | ok i =>
          simp only [hread, List.length_append, List.length_cons] at count
          omega

theorem boundary_walk (h : (p.walk limit).fault = none) :
    Instruction.boundary (p.walk limit).instructions = p.size := by
  have behind := readAt_walk limit p
  rw [h] at behind
  exact Nat.le_antisymm (of_walk limit p).index_le (readAt_eq_none.mp behind)

/-- At every boundary before another one a command is read, and it ends before the other one. -/
theorem readAt_of_lt {before' : List Instruction} {index' : Nat} (h : Passes limit p before index)
    (h' : Passes limit p before' index') (hlt : index < index') :
    ∃ i, p.readAt limit index = some (.ok i) ∧ i.next ≤ index' := by
  rcases List.prefix_or_prefix_of_prefix h.isPrefix h'.isPrefix with shorter | longer
  · obtain ⟨rest, rfl⟩ := shorter
    cases rest with
    | nil =>
        have same :=
          h.boundary.symm.trans ((congrArg _ (List.append_nil before).symm).trans h'.boundary)
        omega
    | cons i rest =>
        rw [← List.singleton_append, ← List.append_assoc] at h'
        have passed := of_isPrefix ((List.prefix_append _ _).trans h'.isPrefix)
        have read := passed.readAt_last
        rw [h.boundary] at read
        exact ⟨i, read, h'.next_le (by simp)⟩
  · obtain ⟨rest, rfl⟩ := longer
    have passed := h'.boundary
    cases hlast : before'.getLast? with
    | none =>
        rw [Instruction.boundary, hlast] at passed
        simp only [Option.map_none, Option.getD_none] at passed
        omega
    | some last =>
        rw [Instruction.boundary, hlast] at passed
        have := h.next_le (List.mem_append_left _ (List.mem_of_getLast? hlast))
        simp only [Option.map_some, Option.getD_some] at passed
        omega

theorem unique {before' : List Instruction} (h : Passes limit p before index)
    (h' : Passes limit p before' index) : before = before' := by
  have same := h.walk_eq.symm.trans h'.walk_eq
  exact List.append_cancel_right (Walk.mk.inj same).1

end Passes

end Program

end TurtleGraphics
