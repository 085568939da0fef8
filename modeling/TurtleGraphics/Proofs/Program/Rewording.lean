import TurtleGraphics.Proofs.Program.Grammar
import TurtleGraphics.Proofs.Program.Sequence

/-! # Programs with one command reworded

The commands that move or turn come in pairs: with the number negated, the one says what the other
one says. A program in which one of them takes the place of the other is read alike everywhere else.
-/

namespace TurtleGraphics

/-- Two commands that go or turn in opposite directions by opposite numbers. -/
inductive Command.Contrary : Command → Command → Prop where
  | forward (n : Int) : Contrary (.forward (-n)) (.back n)
  | back (n : Int) : Contrary (.back (-n)) (.forward n)
  | left (n : Int) : Contrary (.left (-n)) (.right n)
  | right (n : Int) : Contrary (.right (-n)) (.left n)

theorem Keyword.uppercase_name (keyword : Keyword) :
    Text.uppercase keyword.name = keyword.name := by
  cases keyword <;> decide +kernel

def Step.negated (step : Step) : Step :=
  { step with number := -step.number }

namespace Command.Contrary

variable {limit : Int} {c d : Command}

theorem parameterKind (h : c.Contrary d) : c.keyword.parameterKind = some .number := by
  cases h <;> rfl

theorem names_negated (h : c.Contrary d) {step : Step} (hnames : c.Names limit step) :
    d.Names limit step.negated := by
  cases h with
  | forward | back | left | right =>
      obtain ⟨hkind, hnumber, hlow, hhigh⟩ := hnames
      exact ⟨hkind, by rw [Step.negated, hnumber, Int.neg_neg], by omega, by omega⟩

end Command.Contrary

namespace Program

/-- The program with the word of another keyword at an index, and the negated number behind it. -/
def reworded (p : Program) (index : Nat) (keyword : Keyword) : Program :=
  (p.modify index fun step => { step with text := keyword.name }).modify (index + 1) Step.negated

variable {limit : Int} {p : Program} {index k : Nat} {i : Instruction} {keyword : Keyword}

theorem readAt_of_pair {command : Command} {word parameter : Step} (hword : p[index]? = some word)
    (hparameter : p[index + 1]? = some parameter) (hkeyword : command.keyword.IsWord word)
    (hnames : command.Names limit parameter) :
    p.readAt limit index = some (.ok ⟨command, word.line, parameter.line, index + 2⟩) := by
  have kind := Step.parameterKind_of_names hnames
  have inside : index + 2 ≤ p.size := (Array.getElem?_eq_some_iff.mp hparameter).1
  have found : p.commandWith limit (index + 1) command.keyword =
      .ok (command, some parameter.line) := by
    rw [commandWith_eq kind, parameterAt, hparameter]
    simp only [if_true, Except.bind, bind, Step.meaning_of_names hnames, pure, Except.pure]
  have behind : p.indexAfter index command.keyword = index + 2 := by
    rw [indexAfter, Keyword.takesParameter_eq, kind, Option.isSome_some, if_pos rfl]
    omega
  rw [readAt, hword, Option.map_some, instruction, Keyword.keywordOf_eq_ok_iff.mpr hkeyword]
  simp only [found, behind, Option.getD_some]

theorem pair_of_readAt (h : p.readAt limit index = some (.ok i)) {kind : StepKind}
    (hkind : i.command.keyword.parameterKind = some kind) :
    ∃ word parameter, p[index]? = some word ∧ p[index + 1]? = some parameter ∧
      i.command.keyword.IsWord word ∧
      i.command.Names limit parameter ∧ i = ⟨i.command, word.line, parameter.line, index + 2⟩ := by
  have spec := readAt_spec limit p index
  rw [h] at spec
  obtain ⟨front, hspelled, hfront⟩ := spec
  cases hspelled with
  | alone hnone =>
      rw [hnone] at hkind
      cases hkind
  | @pair word parameter hkeyword hnames =>
      have at_ (offset : Nat) : p[index + offset]? = (p.toList.drop index)[offset]? := by
        rw [List.getElem?_drop, Array.getElem?_toList]
      have hword : p[index]? = some word := by
        rw [← Nat.add_zero index, at_ 0, hfront]
        rfl
      have hparameter : p[index + 1]? = some parameter := by
        rw [at_ 1, hfront]
        rfl
      have read := readAt_of_pair hword hparameter hkeyword hnames
      rw [h] at read
      exact ⟨word, parameter, hword, hparameter, hkeyword, hnames,
        Except.ok.inj (Option.some.inj read)⟩

theorem size_reworded (p : Program) (k : Nat) (keyword : Keyword) :
    (p.reworded k keyword).size = p.size := by
  simp [reworded]

theorem getElem?_reworded_of_ne (p : Program) (keyword : Keyword) (hne : index ≠ k)
    (hne' : index ≠ k + 1) :
    (p.reworded k keyword)[index]? = p[index]? := by
  rw [reworded, Array.getElem?_modify, if_neg hne'.symm, Array.getElem?_modify, if_neg hne.symm]

theorem line_reworded (p : Program) (k : Nat) (keyword : Keyword) (index : Nat) :
    (p.reworded k keyword)[index]?.map Step.line = p[index]?.map Step.line := by
  rw [reworded, Array.getElem?_modify, Array.getElem?_modify]
  split <;> split <;> cases p[index]? <;> rfl

theorem lastLine_reworded (p : Program) (k : Nat) (keyword : Keyword) :
    (p.reworded k keyword).lastLine = p.lastLine := by
  rw [lastLine, lastLine, Array.back?, Array.back?, size_reworded, line_reworded]

theorem readAt_reworded (h : p.readAt limit k = some (.ok i)) {command : Command}
    (hcontrary : i.command.Contrary command) :
    (p.reworded k command.keyword).readAt limit k = some (.ok { i with command }) := by
  obtain ⟨word, parameter, hword, hparameter, hkeyword, hnames, hi⟩ :=
    pair_of_readAt h hcontrary.parameterKind
  have hword' : (p.reworded k command.keyword)[k]? =
      some { word with text := command.keyword.name } := by
    rw [reworded, Array.getElem?_modify, if_neg (Nat.succ_ne_self k), Array.getElem?_modify,
      if_pos rfl, hword]
    rfl
  have hparameter' : (p.reworded k command.keyword)[k + 1]? = some parameter.negated := by
    rw [reworded, Array.getElem?_modify, if_pos rfl, Array.getElem?_modify,
      if_neg (Nat.succ_ne_self k).symm, hparameter]
    rfl
  have hkeyword' : command.keyword.IsWord { word with text := command.keyword.name } := by
    exact ⟨hkeyword.1, Keyword.uppercase_name command.keyword⟩
  rw [readAt_of_pair hword' hparameter' hkeyword' (hcontrary.names_negated hnames), hi]
  rfl

theorem Passes.readAt_reworded {before before' : List Instruction} (h : p.Passes limit before index)
    (hk : p.Passes limit before' k) (hread : p.readAt limit k = some (.ok i))
    (hnext : i.next = k + 2) (hne : index ≠ k) (keyword : Keyword) :
    (p.reworded k keyword).readAt limit index = p.readAt limit index := by
  rcases Nat.lt_or_gt_of_ne hne with hlt | hgt
  · -- What is read here ends before the reworded command begins.
    obtain ⟨j, hj, hle⟩ := h.readAt_of_lt hk hlt
    rw [hj]
    exact readAt_ok_congr hj fun m _ hm => getElem?_reworded_of_ne p keyword (by omega) (by omega)
  · -- A fault may be read here, so more has to be said than which steps are the same.
    obtain ⟨j, hj, hle⟩ := hk.readAt_of_lt h hgt
    cases hread.symm.trans hj
    have here : (p.reworded k keyword)[index]? = p[index]? :=
      getElem?_reworded_of_ne p keyword (by omega) (by omega)
    have behind : (p.reworded k keyword)[index + 1]? = p[index + 1]? :=
      getElem?_reworded_of_ne p keyword (by omega) (by omega)
    have command (limit : Int) (word : Keyword) :
        (p.reworded k keyword).commandWith limit (index + 1) word =
        p.commandWith limit (index + 1) word := by
      refine commandWith_congr word fun _ expected => ?_
      rw [parameterAt, parameterAt, behind, lastLine_reworded]
    have after (word : Keyword) : (p.reworded k keyword).indexAfter index word =
        p.indexAfter index word := by
      rw [indexAfter, indexAfter, size_reworded]
    rw [readAt, readAt, here]
    unfold instruction
    simp only [command, after]

end Program

end TurtleGraphics
