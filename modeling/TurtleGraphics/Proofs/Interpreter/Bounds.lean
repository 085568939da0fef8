import TurtleGraphics.Proofs.Compiler.Refusal
import TurtleGraphics.Proofs.Execution.Obeyed
import TurtleGraphics.Proofs.Program.Numbers

/-! # Bounds on numbers

A number that a command takes lies within the bound, also in a program that no lexer has read. Only
the count of a loop is held against another limit, the one of the settings, and nothing keeps that
limit within the bound.
-/

namespace TurtleGraphics

variable {settings : Settings} {p : Program} {limit : Int} {index k : Nat} {i : Instruction}
  {step : Step}

/-! ## Which numbers are taken -/

/-- An engine with these settings carries out the instruction at an index of a program. -/
inductive CarriesOut (settings : Settings) (p : Program) : Nat → Instruction → Prop where
  /-- A compilation counts the instruction, whatever becomes of the ones behind it. -/
  | compiled {compiler : Compiler} {sink : Sink} {before : List Instruction} {i : Instruction} :
    compiler.settings = settings →
      before ++ [i] <+: (p.walk settings.engine.maxRepeat).instructions →
      before.length < (compiler.compileProgram p sink).compiler.commands →
        CarriesOut settings p (Instruction.boundary before) i
  /-- A run comes to the instruction and goes on behind it. -/
  | run {interpreter : Interpreter} {n : Nat} {s t : Scene} {i : Instruction} :
    interpreter.settings = settings →
      Scene.Reaches settings interpreter.stride interpreter.trace p n interpreter.opening s →
        s.next? settings interpreter.stride interpreter.trace p = some t →
          p.readAt settings.engine.maxRepeat s.execution.pc = some (.ok i) →
            CarriesOut settings p s.execution.pc i

/-- The step is a number behind the keyword of an instruction that is carried out, and before the
    next one. -/
def TakesNumber (settings : Settings) (p : Program) (i : Instruction) (step : Step) : Prop :=
  ∃ index k, CarriesOut settings p index i ∧ index < k ∧ k < i.next ∧ p[k]? = some step ∧
    step.kind = .number

theorem CarriesOut.readAt (h : CarriesOut settings p index i) :
    p.readAt settings.engine.maxRepeat index = some (.ok i) := by
  cases h with
  | compiled _ hwalk _ => exact (Program.Passes.of_isPrefix hwalk).readAt_last
  | run _ _ _ hread => exact hread

theorem Program.getElem?_of_drop {front rest : List Step} (h : p.toList.drop index = front ++ rest)
    {j : Nat} (hj : j < front.length) : p[index + j]? = front[j]? := by
  rw [← Array.getElem?_toList, ← List.getElem?_drop, h, List.getElem?_append_left hj]

/-- Whatever stands behind the keyword of a command names its parameter. -/
theorem Program.names_of_readAt (h : p.readAt limit index = some (.ok i)) (hafter : index < k)
    (hbefore : k < i.next) (hstep : p[k]? = some step) : i.command.Names limit step := by
  obtain ⟨front, ⟨hspelled, -⟩, hsteps⟩ := spelledBy_of_readAt h
  obtain ⟨-, -, within, -⟩ := readAt_ok h
  have long : front.length = i.next - index := by
    have := congrArg List.length hsteps
    simp only [List.length_append, List.length_drop, Array.length_toList] at this
    omega
  obtain ⟨j, rfl⟩ := Nat.exists_eq_add_of_lt hafter
  have place : front[j + 1]? = some step := by
    rw [← getElem?_of_drop hsteps (by omega)]
    exact hstep
  cases hspelled with
  | alone => simp at place
  | pair _ hnames =>
      cases j with
      | zero => exact Option.some.inj place ▸ hnames
      | succ j => simp at place

theorem Command.Names.number {command : Command} (h : command.Names limit step)
    (hkind : step.kind = .number) :
    if command.keyword = .repeat then 1 ≤ step.number ∧ step.number ≤ limit
      else step.number.natAbs ≤ maxNumber := by
  cases command with
  | home | loop => cases h
  | paper | ink | pen => cases hkind.symm.trans h.1
  | forward number | back number | left number | right number =>
      obtain ⟨-, rfl, low, high⟩ := h
      simp only [Command.keyword, reduceCtorEq, if_false]
      omega
  | «repeat» count =>
      obtain ⟨-, rfl, positive, small⟩ := h
      exact ⟨positive, small⟩

theorem TakesNumber.number (h : TakesNumber settings p i step) :
    if i.command.keyword = .repeat then 1 ≤ step.number ∧ step.number ≤ settings.engine.maxRepeat
    else step.number.natAbs ≤ maxNumber := by
  obtain ⟨index, k, hcarries, hafter, hbefore, hstep, hkind⟩ := h
  exact (Program.names_of_readAt hcarries.readAt hafter hbefore hstep).number hkind

/-! ## Where the bound holds -/

/-- A loop that is run as often as the limit allows, and is never closed. -/
def Program.opened (limit : Int) : Program :=
  #[⟨.identifier, 1, "REPEAT", 0⟩, ⟨.number, 1, "", limit⟩]

theorem Program.readAt_opened (hlimit : 1 ≤ limit) :
    (opened limit).readAt limit 0 = some (.ok ⟨.repeat limit, 1, 1, 2⟩) := by
  have count : Step.loopCount limit ⟨.number, 1, "", limit⟩ = .ok limit :=
    Step.loopCount_eq_ok_iff.mpr ⟨rfl, hlimit, Int.le_refl _⟩
  have word : keywordOf ⟨.identifier, 1, "REPEAT", 0⟩ = .ok .repeat := by decide
  have command : (opened limit).commandWith limit 1 .repeat = .ok (.repeat limit, some 1) := by
    have parameter : (opened limit).parameterAt 1 .number = .ok ⟨.number, 1, "", limit⟩ := rfl
    simp only [commandWith, parameter, count, bind, Except.bind, pure, Except.pure]
  have first : (opened limit)[0]? = some ⟨.identifier, 1, "REPEAT", 0⟩ := rfl
  simp only [readAt, first, Option.map_some, instruction, word, command]
  rfl

theorem takesNumber_opened (hlimit : 1 ≤ settings.engine.maxRepeat) :
    TakesNumber settings (.opened settings.engine.maxRepeat)
      ⟨.repeat settings.engine.maxRepeat, 1, 1, 2⟩
      ⟨.number, 1, "", settings.engine.maxRepeat⟩ := by
  have walk :
      ((Program.opened settings.engine.maxRepeat).walk settings.engine.maxRepeat).instructions =
      [⟨.repeat settings.engine.maxRepeat, 1, 1, 2⟩] := by
    rw [Program.walk, Program.walkFrom_eq, Program.readAt_opened hlimit]
    simp [Program.walkFrom_eq, Program.readAt, Program.opened]
  let compiler := Compiler.start settings none
  have counted :
      0 < (compiler.compileProgram (.opened settings.engine.maxRepeat) {}).compiler.commands := by
    obtain ⟨-, count⟩ := compiler.compileProgram_unfailing (.opened settings.engine.maxRepeat)
      (show Sink.failure {} = none from rfl)
    rw [count]
    exact List.length_pos_iff.mpr (walk ▸ List.cons_ne_nil _ _)
  have carries := @CarriesOut.compiled settings _ compiler {} [] _ rfl
    (by rw [walk]; exact List.prefix_refl _) counted
  exact ⟨0, 1, carries, Nat.zero_lt_one, Nat.one_lt_two, rfl, rfl⟩

/-- Whatever the settings, the program and the engine: a number that is taken by a command that the
engine carries out is a count from one up to the limit of the settings if the command is a loop, and
lies within the bound otherwise. So the bound holds of every number in programs that were read from
text, and in all programs as soon as the limit lies within it; but only then. -/
theorem taken_numbers_bounded (settings : Settings) :
    (∀ p i step, TakesNumber settings p i step →
      if i.command.keyword = .repeat then 1 ≤ step.number ∧ step.number ≤ settings.engine.maxRepeat
      else step.number.natAbs ≤ maxNumber) ∧
    (∀ source p, (settings.lexer.read source).program = .ok p →
      ∀ i step, TakesNumber settings p i step →
      step.number.natAbs ≤ maxNumber) ∧
    ((∀ p i step, TakesNumber settings p i step → step.number.natAbs ≤ maxNumber) ↔
      settings.engine.maxRepeat ≤ maxNumber) := by
  refine ⟨fun p i step => TakesNumber.number, fun source p hread i step htakes =>
    ?_, fun hall => ?_, fun hlimit p i step htakes => ?_⟩
  · obtain ⟨index, k, -, -, -, hstep, -⟩ := htakes
    exact LexerSettings.number_of_read hread
      (Array.mem_toList_iff.mpr (Array.mem_of_getElem? hstep))
  · by_contra hbeyond
    have := hall _ _ _ (@takesNumber_opened settings (by omega))
    dsimp only at this
    omega
  · have bounded := htakes.number
    split at bounded <;> omega

/-- With a limit beyond the bound, both engines carry out a loop whose count is beyond the bound as
    well. -/
theorem taken_count_beyond :
    let settings : Settings := { engine := { maxRepeat := 2147483648 } }
    let p := Program.opened 2147483648
    Settings.ofDatum (.mapping [("engine", .mapping [("max_repeat", .int 2147483648)])]) =
      .ok settings ∧
      ((Compiler.start settings none).compileProgram p {}).fault = none ∧
      (∃ interpreter, Interpreter.start settings none (.record #[]) .standard = .ok interpreter ∧
        (interpreter.runProgram p).fault = none ∧
        (interpreter.runProgram p).interpreter.execution.commands = 1) ∧
      ∃ i step, TakesNumber settings p i step ∧ ¬ step.number.natAbs ≤ maxNumber := by
  intro settings p
  have stack := @LoopStack.ofCapacity_ok 256 .standard (by decide) (by decide)
  have started : Interpreter.start settings none (.record #[]) .standard =
      .ok ⟨settings, Turtle.displacement, false, .record #[],
        ⟨.initial {}, ⟨256, [], []⟩, 0, 0, 0, #[]⟩⟩ := by
    rw [Interpreter.start, stack]
    rfl
  refine ⟨by cbv, by decide +kernel, ⟨_, started, ?_, ?_⟩, ?_⟩
  · decide +kernel
  · decide +kernel
  · exact ⟨_, _, @takesNumber_opened settings (by decide), by decide⟩

end TurtleGraphics
