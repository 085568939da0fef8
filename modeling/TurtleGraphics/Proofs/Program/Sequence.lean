import TurtleGraphics.Proofs.Program.Boundary

/-! # Programs in sequence

Two programs that are written one behind the other are read one behind the other, if the first is
read to its end: no command reaches over the seam, and every place of the second program is as many
steps further on as the first one has.
-/

namespace TurtleGraphics

variable {limit : Int} {p q : Program} {index : Nat}

/-- The command if its program starts `k` steps further on. -/
def Instruction.movedOn (k : Nat) (i : Instruction) : Instruction :=
  { i with next := k + i.next }

/-- The fault if its program starts `k` steps further on. -/
def ReadFault.movedOn (k : Nat) (fault : ReadFault) : ReadFault :=
  { fault with next := k + fault.next }

/-- What is read if its program starts `k` steps further on. -/
def Instruction.readingMovedOn (k : Nat) (read : Except ReadFault Instruction) :
    Except ReadFault Instruction :=
  (read.map (movedOn k)).mapError (ReadFault.movedOn k)

namespace Program

theorem getElem?_append_size_add (p q : Program) (index : Nat) :
    (p ++ q)[p.size + index]? = q[index]? := by
  rw [Array.getElem?_append_right (Nat.le_add_right _ _), Nat.add_sub_cancel_left]

theorem lastLine_append (p : Program) (hq : 0 < q.size) : (p ++ q).lastLine = q.lastLine := by
  obtain ⟨last, hlast⟩ : ∃ last, q.back? = some last :=
    Option.isSome_iff_exists.mp (by simpa [Array.back?_isSome] using Nat.ne_of_gt hq)
  simp [lastLine, Array.back?_append, hlast]

theorem commandWith_congr {p' : Program} {index' : Nat} (keyword : Keyword)
    (h : keyword.takesParameter = true →
      ∀ expected, p'.parameterAt index' expected = p.parameterAt index expected) :
    p'.commandWith limit index' keyword = p.commandWith limit index keyword := by
  cases keyword with
  | home | loop => rfl
  | _ => simp only [commandWith, h rfl]

theorem readAt_append_right (limit : Int) (p q : Program) (index : Nat) :
    (p ++ q).readAt limit (p.size + index) =
      (q.readAt limit index).map (Instruction.readingMovedOn p.size) := by
  rw [readAt, readAt, getElem?_append_size_add]
  cases hstep : q[index]? with
  | none => rfl
  | some step =>
      have inside : index < q.size := (Array.getElem?_eq_some_iff.mp hstep).1
      have command (keyword : Keyword) : (p ++ q).commandWith limit (p.size + index + 1) keyword =
          q.commandWith limit (index + 1) keyword := by
        refine commandWith_congr keyword fun _ expected => ?_
        rw [parameterAt, parameterAt, Nat.add_assoc, getElem?_append_size_add,
          lastLine_append p (Nat.zero_lt_of_lt inside)]
      have after (keyword : Keyword) : (p ++ q).indexAfter (p.size + index) keyword =
          p.size + q.indexAfter index keyword := by
        simp only [indexAfter, Array.size_append]
        split <;> omega
      simp only [Option.map_some, instruction, command, after]
      cases keywordOf step with
      | error d => rfl
      | ok keyword =>
          dsimp only
          cases q.commandWith limit (index + 1) keyword <;> rfl

theorem readAt_ok_congr {p' : Program} {i : Instruction} (h : p.readAt limit index = some (.ok i))
    (hsame : ∀ k, index ≤ k → k < i.next → p'[k]? = p[k]?) :
    p'.readAt limit index = some (.ok i) := by
  have forward : index < i.next := (readAt_ok h).2.1
  obtain ⟨step, hstep, hread⟩ := Option.map_eq_some_iff.mp h
  rw [readAt, hsame index (Nat.le_refl _) forward, hstep, Option.map_some]
  unfold instruction at hread ⊢
  cases hkeyword : keywordOf step with
  | error d =>
      rw [hkeyword] at hread
      cases hread
  | ok keyword =>
      rw [hkeyword] at hread
      dsimp only at hread ⊢
      cases hcommand : p.commandWith limit (index + 1) keyword with
      | error d =>
          rw [hcommand] at hread
          cases hread
      | ok result =>
          rw [hcommand] at hread
          cases hread
          have within := (commandWith_ok hcommand).2.2.1
          have parameter (htakes : keyword.takesParameter = true) :
              p'[index + 1]? = p[index + 1]? := by
            have := within htakes
            refine hsame _ (Nat.le_succ _) ?_
            simp only [indexAfter, htakes, if_true]
            omega
          have command : p'.commandWith limit (index + 1) keyword =
              p.commandWith limit (index + 1) keyword := by
            refine commandWith_congr keyword fun htakes expected => ?_
            rw [parameterAt, parameterAt, parameter htakes,
              Array.getElem?_eq_getElem (within htakes)]
          have after : p'.indexAfter index keyword = p.indexAfter index keyword := by
            simp only [indexAfter]
            split
            · rename_i htakes
              have := within htakes
              have same := parameter htakes
              rw [Array.getElem?_eq_getElem this] at same
              have := (Array.getElem?_eq_some_iff.mp same).1
              omega
            · rfl
          rw [command, hcommand, after]

/-- Before the end of a program its commands are read as if nothing stood behind it. -/
theorem readAt_append_left {i : Instruction} (h : p.readAt limit index = some (.ok i))
    (q : Program) :
    (p ++ q).readAt limit index = some (.ok i) := by
  refine readAt_ok_congr h fun k _ hk => ?_
  exact Array.getElem?_append_left (Nat.lt_of_lt_of_le hk (readAt_ok h).2.2.1)

theorem Passes.append {before : List Instruction} (h : p.Passes limit before index) (q : Program) :
    (p ++ q).Passes limit before index := by
  induction h with
  | start => exact .start
  | next _ hread ih => exact ih.next (readAt_append_left hread q)

theorem walkFrom_append (limit : Int) (p q : Program) (index : Nat) :
    (p ++ q).walkFrom limit (p.size + index) =
      ⟨(q.walkFrom limit index).instructions.map (Instruction.movedOn p.size),
        (q.walkFrom limit index).fault.map (ReadFault.movedOn p.size)⟩ := by
  rw [walkFrom_eq, readAt_append_right, walkFrom_eq limit q]
  cases hread : q.readAt limit index with
  | none => rfl
  | some result =>
      cases result with
      | error fault => rfl
      | ok i =>
          have forward : index < i.next := (readAt_ok hread).2.1
          have within : i.next ≤ q.size := (readAt_ok hread).2.2.1
          have behind := walkFrom_append limit p q i.next
          simp only [Option.map_some, Instruction.readingMovedOn, Except.map, Except.mapError,
            Instruction.movedOn, behind, List.map_cons]
termination_by q.size - index

/-- The commands of the first program come first, and then those of the second. -/
theorem walk_append (h : (p.walk limit).fault = none) (q : Program) :
    (p ++ q).walk limit =
      ⟨(p.walk limit).instructions ++ (q.walk limit).instructions.map (Instruction.movedOn p.size),
        (q.walk limit).fault.map (ReadFault.movedOn p.size)⟩ := by
  have passed := (Passes.of_walk limit p).append q
  rw [passed.walk_eq, Passes.boundary_walk h, ← Nat.add_zero p.size, walkFrom_append]
  rfl

end Program

end TurtleGraphics
