import TurtleGraphics.Proofs.Program.Boundary

/-! # The grammar of commands

Which steps spell which command, said without any reader: a word that names the keyword, and behind
it the step that names the parameter. Steps split into commands in at most one way, and where they
do not split there is one thing to say about it. Reading a program finds this way.
-/

namespace TurtleGraphics

namespace Keyword

def IsWord (keyword : Keyword) (step : Step) : Prop :=
  step.kind = .identifier ∧ Text.uppercase step.text = keyword.name

/-- The kind of the step that follows the keyword, if one does. -/
def parameterKind : Keyword → Option StepKind
  | .home | .loop => none
  | .paper | .ink | .pen => some .identifier
  | .forward | .back | .left | .right | .repeat => some .number

/-- What there is to say about a parameter that is of the right kind and names nothing. -/
def complaint (limit : Int) (step : Step) : Keyword → GrammarFault
  | .pen => .unknownPenState step.text
  | .forward | .back | .left | .right => .numberOutOfRange step.number
  | .repeat => .countOutOfRange step.number limit
  | .paper | .ink | .home | .loop => .unknownColor step.text

end Keyword

namespace Command

def penWord : Bool → String
  | true => "DOWN"
  | false => "UP"

/-- The step names the parameter of the command. Loops run at most `limit` times. -/
def Names (limit : Int) (step : Step) : Command → Prop
  | .paper color | .ink color => step.kind = .identifier ∧ Text.uppercase step.text = color.name
  | .pen down => step.kind = .identifier ∧ Text.uppercase step.text = penWord down
  | .forward number | .back number | .left number | .right number =>
    step.kind = .number ∧ step.number = number ∧ -(maxNumber : Int) ≤ number ∧ number ≤ maxNumber
  | .repeat count => step.kind = .number ∧ step.number = count ∧ 1 ≤ count ∧ count ≤ limit
  | .home | .loop => False

/-- The steps spell the command. -/
inductive Spelled (limit : Int) : Command → List Step → Prop where
  | alone {command : Command} {word : Step} :
    command.keyword.parameterKind = none → command.keyword.IsWord word →
    Spelled limit command [word]
  | pair {command : Command} {word parameter : Step} :
    command.keyword.IsWord word → command.Names limit parameter →
    Spelled limit command [word, parameter]

end Command

def Step.faulty (step : Step) (fault : GrammarFault) : Diagnostic :=
  ⟨.grammatical fault, some step.line⟩

/-- No command starts these steps, and what there is to say about the first step that does not
    fit. -/
inductive Misfit (limit : Int) : List Step → Diagnostic → Prop where
  /-- A number stands where a keyword should. -/
  | number {step : Step} {rest : List Step} :
    step.kind = .number → Misfit limit (step :: rest) (step.faulty (.unexpectedStep .number))
  /-- The word is no keyword. -/
  | unknown {step : Step} {rest : List Step} :
    step.kind = .identifier → (∀ keyword : Keyword, Text.uppercase step.text ≠ keyword.name) →
      Misfit limit (step :: rest) (step.faulty (.unknownKeyword step.text))
  /-- The parameter is missing. -/
  | cut {keyword : Keyword} {kind : StepKind} {word : Step} :
    keyword.IsWord word → keyword.parameterKind = some kind →
      Misfit limit [word] (word.faulty .unexpectedEnd)
  /-- The parameter is of another kind. -/
  | kind {keyword : Keyword} {kind : StepKind} {word parameter : Step} {rest : List Step} :
    keyword.IsWord word → keyword.parameterKind = some kind → parameter.kind ≠ kind →
      Misfit limit (word :: parameter :: rest) (parameter.faulty (.wrongKind kind parameter.kind))
  /-- The parameter is of the right kind and names nothing. -/
  | meaning {keyword : Keyword} {word parameter : Step} {rest : List Step} :
    keyword.IsWord word → keyword.parameterKind = some parameter.kind →
      (∀ command : Command, command.keyword = keyword → ¬ command.Names limit parameter) →
      Misfit limit (word :: parameter :: rest)
        (parameter.faulty (keyword.complaint limit parameter))

/-- The steps split into commands, one behind the other, up to their end or to the first that do not
    fit. -/
inductive Splits (limit : Int) : List Step → List Command → Option Diagnostic → Prop where
  /-- Nothing is left. -/
  | done : Splits limit [] [] none
  /-- What is left does not start with a command. -/
  | misfit {rest : List Step} {d : Diagnostic} : Misfit limit rest d → Splits limit rest [] (some d)
  /-- A command, and what is behind it. -/
  | command {command : Command} {front rest : List Step} {commands : List Command}
      {fault : Option Diagnostic} :
    command.Spelled limit front → Splits limit rest commands fault →
      Splits limit (front ++ rest) (command :: commands) fault

theorem Keyword.ofName?_eq_some_iff {text : String} {keyword : Keyword} :
    Keyword.ofName? text = some keyword ↔ Text.uppercase text = keyword.name := by
  refine ⟨fun h => ?_, fun h => ?_⟩
  · have := List.find?_some h
    exact (of_decide_eq_true this).symm
  · rw [ofName?, h]
    cases keyword <;> rfl

theorem Color.ofName?_eq_some_iff {text : String} {color : Color} :
    Color.ofName? text = some color ↔ Text.uppercase text = color.name := by
  refine ⟨fun h => ?_, fun h => ?_⟩
  · have := List.find?_some h
    exact (of_decide_eq_true this).symm
  · rw [ofName?, h]
    cases color <;> rfl

theorem penState?_eq_some_iff {text : String} {down : Bool} :
    penState? text = some down ↔ Text.uppercase text = Command.penWord down := by
  refine ⟨fun h => ?_, fun h => ?_⟩
  · unfold penState? at h
    split at h
    · cases h
      assumption
    · split at h
      · cases h
        assumption
      · cases h
  · rw [penState?, h]
    cases down <;> rfl

theorem Keyword.IsWord.unique {keyword other : Keyword} {step : Step} (h : keyword.IsWord step)
    (h' : other.IsWord step) : keyword = other := by
  have found := Keyword.ofName?_eq_some_iff.mpr h.2
  rw [Keyword.ofName?_eq_some_iff.mpr h'.2] at found
  exact (Option.some.inj found).symm

namespace Step

variable {limit : Int} {step : Step}

theorem color_eq_ok_iff {color : Color} :
    step.color = .ok color ↔ Text.uppercase step.text = color.name := by
  rw [← Color.ofName?_eq_some_iff, Step.color]
  split <;> simp_all

theorem penState_eq_ok_iff {down : Bool} :
    step.penState = .ok down ↔ Text.uppercase step.text = Command.penWord down := by
  rw [← penState?_eq_some_iff, Step.penState]
  split <;> simp_all

theorem boundedNumber_eq_ok_iff {number : Int} : step.boundedNumber = .ok number ↔
    step.number = number ∧ -(maxNumber : Int) ≤ number ∧ number ≤ maxNumber := by
  rw [boundedNumber]
  split
  · simp only [Except.ok.injEq]
    omega
  · simp only [reduceCtorEq, false_iff]
    omega

theorem loopCount_eq_ok_iff {count : Int} :
    step.loopCount limit = .ok count ↔ step.number = count ∧ 1 ≤ count ∧ count ≤ limit := by
  rw [loopCount]
  split
  · simp only [Except.ok.injEq]
    omega
  · simp only [reduceCtorEq, false_iff]
    omega

/-- What a keyword and the step behind it mean, if the step is of the right kind. -/
def meaning (limit : Int) (step : Step) : Keyword → Except Diagnostic Command
  | .home => .ok .home
  | .loop => .ok .loop
  | .paper => step.color.map .paper
  | .ink => step.color.map .ink
  | .pen => step.penState.map .pen
  | .forward => step.boundedNumber.map .forward
  | .back => step.boundedNumber.map .back
  | .left => step.boundedNumber.map .left
  | .right => step.boundedNumber.map .right
  | .repeat => (step.loopCount limit).map .repeat

private theorem map_eq_ok_iff {α : Type} {value : Except Diagnostic α} {make : α → Command}
    {command : Command} :
    value.map make = .ok command ↔ ∃ a, value = .ok a ∧ make a = command := by
  cases value <;> simp [Except.map]

theorem meaning_of_names {command : Command} (h : command.Names limit step) :
    step.meaning limit command.keyword = .ok command := by
  cases command with
  | home | loop => cases h
  | paper color | ink color =>
      obtain ⟨-, hname⟩ := h
      rw [Command.keyword, meaning, color_eq_ok_iff.mpr hname]
      rfl
  | pen down =>
      obtain ⟨-, hname⟩ := h
      rw [Command.keyword, meaning, penState_eq_ok_iff.mpr hname]
      rfl
  | forward number | back number | left number | right number =>
      obtain ⟨-, hnumber⟩ := h
      rw [Command.keyword, meaning, boundedNumber_eq_ok_iff.mpr hnumber]
      rfl
  | «repeat» count =>
      obtain ⟨-, hcount⟩ := h
      rw [Command.keyword, meaning, loopCount_eq_ok_iff.mpr hcount]
      rfl

theorem names_of_meaning {keyword : Keyword} {command : Command}
    (hkind : keyword.parameterKind = some step.kind)
    (h : step.meaning limit keyword = .ok command) :
    command.keyword = keyword ∧ command.Names limit step := by
  cases keyword with
  | home | loop => cases hkind
  | paper | ink =>
      obtain ⟨color, hcolor, rfl⟩ := map_eq_ok_iff.mp h
      exact ⟨rfl, (Option.some.inj hkind).symm, color_eq_ok_iff.mp hcolor⟩
  | pen =>
      obtain ⟨down, hdown, rfl⟩ := map_eq_ok_iff.mp h
      exact ⟨rfl, (Option.some.inj hkind).symm, penState_eq_ok_iff.mp hdown⟩
  | forward | back | left | right =>
      obtain ⟨number, hnumber, rfl⟩ := map_eq_ok_iff.mp h
      exact ⟨rfl, (Option.some.inj hkind).symm, boundedNumber_eq_ok_iff.mp hnumber⟩
  | «repeat» =>
      obtain ⟨count, hcount, rfl⟩ := map_eq_ok_iff.mp h
      exact ⟨rfl, (Option.some.inj hkind).symm, loopCount_eq_ok_iff.mp hcount⟩

theorem meaning_error {keyword : Keyword} {d : Diagnostic}
    (hkind : keyword.parameterKind = some step.kind) (h : step.meaning limit keyword = .error d) :
    d = step.faulty (keyword.complaint limit step) := by
  cases keyword with
  | home | loop => cases h
  | paper | ink =>
      simp only [meaning, color] at h
      split at h <;> cases h
      rfl
  | pen =>
      simp only [meaning, penState] at h
      split at h <;> cases h
      rfl
  | forward | back | left | right =>
      simp only [meaning, boundedNumber] at h
      split at h <;> cases h
      rfl
  | «repeat» =>
      simp only [meaning, loopCount] at h
      split at h <;> cases h
      rfl

theorem names_unique {command other : Command} (hsame : command.keyword = other.keyword)
    (h : command.Names limit step) (h' : other.Names limit step) : command = other := by
  have found := meaning_of_names h
  rw [hsame, meaning_of_names h'] at found
  exact (Except.ok.inj found).symm

theorem parameterKind_of_names {command : Command} (h : command.Names limit step) :
    command.keyword.parameterKind = some step.kind := by
  cases command <;> first | exact h.elim | exact congrArg some h.1.symm

end Step

theorem Command.eq_of_alone {command other : Command} (h : command.keyword.parameterKind = none)
    (hsame : command.keyword = other.keyword) : command = other := by
  cases command with
  | home | loop => cases other <;> first | rfl | cases hsame
  | _ => cases h

namespace Splits

variable {limit : Int} {steps front front' rest rest' : List Step}
  {commands commands' : List Command}

/-- Two commands that start the same steps are one command. -/
theorem spelled_unique {command other : Command} (h : command.Spelled limit front)
    (h' : other.Spelled limit front') (hsame : front ++ rest = front' ++ rest') :
    command = other ∧ rest = rest' := by
  cases h with
  | alone hkind hword =>
      cases h' with
      | alone hkind' hword' =>
          obtain ⟨rfl, rfl⟩ := List.cons.inj hsame
          exact ⟨Command.eq_of_alone hkind (hword.unique hword'), rfl⟩
      | pair hword' hnames' =>
          obtain ⟨rfl, -⟩ := List.cons.inj hsame
          rw [hword.unique hword', Step.parameterKind_of_names hnames'] at hkind
          cases hkind
  | pair hword hnames =>
      cases h' with
      | alone hkind' hword' =>
          obtain ⟨rfl, -⟩ := List.cons.inj hsame
          rw [← hword.unique hword', Step.parameterKind_of_names hnames] at hkind'
          cases hkind'
      | pair hword' hnames' =>
          obtain ⟨rfl, hbehind⟩ := List.cons.inj hsame
          obtain ⟨rfl, rfl⟩ := List.cons.inj hbehind
          exact ⟨Step.names_unique (hword.unique hword') hnames hnames', rfl⟩

theorem not_misfit {command : Command} {d : Diagnostic} (h : command.Spelled limit front) :
    ¬ Misfit limit (front ++ rest) d := by
  intro hmisfit
  cases h with
  | alone hkind hword =>
      cases hmisfit with
      | number hnumber => simp [hword.1] at hnumber
      | unknown _ hunknown => exact hunknown _ hword.2
      | cut hword' hkind' | kind hword' hkind' _ | meaning hword' hkind' _ =>
          rw [← hword.unique hword', hkind] at hkind'
          cases hkind'
  | pair hword hnames =>
      have right := Step.parameterKind_of_names hnames
      cases hmisfit with
      | number hnumber => simp [hword.1] at hnumber
      | unknown _ hunknown => exact hunknown _ hword.2
      | kind hword' hkind' hother =>
          rw [← hword.unique hword', right] at hkind'
          exact hother (Option.some.inj hkind')
      | meaning hword' _ hnothing => exact hnothing _ (hword.unique hword') hnames

theorem misfit_unique {d d' : Diagnostic} (h : Misfit limit steps d) (h' : Misfit limit steps d') :
    d = d' := by
  cases h with
  | number hnumber =>
      cases h' with
      | number => rfl
      | unknown hword' | cut hword' | kind hword' | meaning hword' => simp_all [Keyword.IsWord]
  | unknown hword hunknown =>
      cases h' with
      | number hnumber => simp_all
      | unknown => rfl
      | cut hword' | kind hword' | meaning hword' => exact absurd hword'.2 (hunknown _)
  | cut hword hkind =>
      cases h' with
      | number hnumber => simp_all [Keyword.IsWord]
      | unknown _ hunknown => exact absurd hword.2 (hunknown _)
      | cut => rfl
  | kind hword hkind hother =>
      cases h' with
      | number hnumber => simp_all [Keyword.IsWord]
      | unknown _ hunknown => exact absurd hword.2 (hunknown _)
      | kind hword' hkind' | meaning hword' hkind' =>
          rw [← hword.unique hword', hkind] at hkind'
          obtain rfl := Option.some.inj hkind'
          first | rfl | exact absurd rfl hother
  | meaning hword hkind =>
      cases h' with
      | number hnumber => simp_all [Keyword.IsWord]
      | unknown _ hunknown => exact absurd hword.2 (hunknown _)
      | kind hword' hkind' hother =>
          rw [← hword.unique hword', hkind] at hkind'
          exact absurd (Option.some.inj hkind') hother
      | meaning hword' => rw [hword.unique hword']

theorem not_misfit_nil {d : Diagnostic} : ¬ Misfit limit [] d := by
  intro h
  cases h

theorem inv {fault : Option Diagnostic} (h : Splits limit steps commands fault) :
    (steps = [] ∧ commands = [] ∧ fault = none) ∨
    (∃ d, Misfit limit steps d ∧ commands = [] ∧ fault = some d) ∨
    ∃ command front rest later, steps = front ++ rest ∧ command.Spelled limit front ∧
      Splits limit rest later fault ∧ commands = command :: later := by
  cases h with
  | done => exact .inl ⟨rfl, rfl, rfl⟩
  | misfit hmisfit => exact .inr (.inl ⟨_, hmisfit, rfl, rfl⟩)
  | command hspelled hrest => exact .inr (.inr ⟨_, _, _, _, rfl, hspelled, hrest, rfl⟩)

theorem ne_nil_of_spelled {command : Command} (h : command.Spelled limit front) :
    front ++ rest ≠ [] := by
  cases h <;> simp

theorem unique {fault fault' : Option Diagnostic} (h : Splits limit steps commands fault)
    (h' : Splits limit steps commands' fault') : commands = commands' ∧ fault = fault' := by
  induction h generalizing commands' fault' with
  | done =>
      obtain ⟨-, rfl, rfl⟩ | ⟨d, hmisfit, -, -⟩ | ⟨command, front, rest, later, hnil, hspelled, -,
        -⟩ := h'.inv
      · exact ⟨rfl, rfl⟩
      · exact absurd hmisfit not_misfit_nil
      · exact absurd hnil.symm (ne_nil_of_spelled hspelled)
  | misfit hmisfit =>
      obtain ⟨rfl, -, -⟩ | ⟨d, hmisfit', rfl, rfl⟩ | ⟨command, front, rest, later, rfl, hspelled, -,
        -⟩ := h'.inv
      · exact absurd hmisfit not_misfit_nil
      · exact ⟨rfl, congrArg some (misfit_unique hmisfit hmisfit')⟩
      · exact absurd hmisfit (not_misfit hspelled)
  | command hspelled hrest ih =>
      obtain ⟨hnil, -, -⟩ | ⟨d, hmisfit, -, -⟩ | ⟨command, front, rest, later, hsame, hspelled',
        hrest', rfl⟩ :=
        h'.inv
      · exact absurd hnil (ne_nil_of_spelled hspelled)
      · exact absurd hmisfit (not_misfit hspelled)
      · obtain ⟨rfl, rfl⟩ := spelled_unique hspelled hspelled' hsame
        obtain ⟨rfl, rfl⟩ := ih hrest'
        exact ⟨rfl, rfl⟩

end Splits

namespace Keyword

variable {keyword : Keyword} {step : Step}

theorem takesParameter_eq (keyword : Keyword) :
    keyword.takesParameter = keyword.parameterKind.isSome := by
  cases keyword <;> rfl

theorem keywordOf_eq_ok_iff : Program.keywordOf step = .ok keyword ↔ keyword.IsWord step := by
  rw [IsWord, ← ofName?_eq_some_iff, Program.keywordOf]
  cases step.kind with
  | number => simp
  | identifier => cases ofName? step.text <;> simp

theorem misfit_of_keywordOf_error {limit : Int} {d : Diagnostic} (rest : List Step)
    (h : Program.keywordOf step = .error d) : Misfit limit (step :: rest) d := by
  unfold Program.keywordOf at h
  split at h
  · rename_i hkind
    cases h
    rw [hkind]
    exact .number hkind
  · rename_i hkind
    split at h
    · cases h
    · rename_i hnone
      cases h
      refine .unknown hkind fun keyword hname => ?_
      rw [ofName?_eq_some_iff.mpr hname] at hnone
      cases hnone

end Keyword

namespace Program

variable {limit : Int} {p : Program} {index : Nat} {keyword : Keyword}

private theorem read_map {α : Type} (parameter : Except Diagnostic Step)
    (value : Step → Except Diagnostic α) (make : α → Command) :
    (do
      let step ← parameter
      return (make (← value step), some step.line)) =
    (do
      let step ← parameter
      return (← (value step).map make, some step.line) :
        Except Diagnostic (Command × Option Int)) := by
  cases parameter with
  | error d => rfl
  | ok step =>
      change (value step >>= fun a => pure (make a, some step.line)) =
        ((value step).map make >>= fun command => pure (command, some step.line))
      cases value step <;> rfl

theorem commandWith_eq {kind : StepKind} (hkind : keyword.parameterKind = some kind) :
    p.commandWith limit index keyword = (do
      let step ← p.parameterAt index kind
      return (← step.meaning limit keyword, some step.line)) := by
  cases keyword with
  | home | loop => cases hkind
  | paper | ink =>
      cases hkind
      exact read_map _ Step.color _
  | pen =>
      cases hkind
      exact read_map _ Step.penState _
  | forward | back | left | right =>
      cases hkind
      exact read_map _ Step.boundedNumber _
  | «repeat» =>
      cases hkind
      exact read_map _ (Step.loopCount limit) _

theorem commandWith_alone (limit : Int) (p : Program) (index : Nat)
    (hkind : keyword.parameterKind = none) :
    ∃ command, command.keyword = keyword ∧
    p.commandWith limit index keyword = .ok (command, none) := by
  cases keyword with
  | home => exact ⟨.home, rfl, rfl⟩
  | loop => exact ⟨.loop, rfl, rfl⟩
  | _ => cases hkind

theorem lastLine_eq {step : Step} (hstep : p[index]? = some step) (hlast : p[index + 1]? = none) :
    p.lastLine = some step.line := by
  obtain ⟨inside, rfl⟩ := Array.getElem?_eq_some_iff.mp hstep
  have outside : p.size ≤ index + 1 := Array.getElem?_eq_none_iff.mp hlast
  obtain rfl : index = p.size - 1 := by omega
  rw [lastLine, Array.back?, Array.getElem?_eq_getElem inside]
  rfl

theorem toList_drop {step : Step} (h : p[index]? = some step) :
    p.toList.drop index = step :: p.toList.drop (index + 1) := by
  obtain ⟨inside, rfl⟩ := Array.getElem?_eq_some_iff.mp h
  exact List.drop_eq_getElem_cons (by simpa using inside)

theorem toList_drop_none (h : p[index]? = none) : p.toList.drop index = [] :=
  List.drop_eq_nil_of_le (by simpa using Array.getElem?_eq_none_iff.mp h)

/-- What is read behind a keyword agrees with the grammar: the command and its parameter, or what
    there is to say about the step behind the keyword. -/
theorem commandWith_spec (limit : Int) {word : Step} (hword : keyword.IsWord word)
    (hfirst : p[index]? = some word) :
    match p.commandWith limit (index + 1) keyword with
    | .ok (command, _) => ∃ front, command.Spelled limit front ∧
        p.toList.drop index = front ++ p.toList.drop (p.indexAfter index keyword)
    | .error d => Misfit limit (p.toList.drop index) d := by
  have first := toList_drop hfirst
  cases hkind : keyword.parameterKind with
  | none =>
      obtain ⟨command, rfl, hcommand⟩ := commandWith_alone limit p (index + 1) hkind
      rw [hcommand]
      refine ⟨[word], .alone hkind hword, ?_⟩
      rw [first, indexAfter, Keyword.takesParameter_eq, hkind]
      rfl
  | some kind =>
      rw [commandWith_eq hkind, parameterAt]
      cases hparameter : p[index + 1]? with
      | none =>
          dsimp only
          rw [first, toList_drop_none hparameter, lastLine_eq hfirst hparameter]
          exact .cut hword hkind
      | some parameter =>
          have second := toList_drop hparameter
          dsimp only
          by_cases hright : parameter.kind = kind
          · subst hright
            rw [if_pos rfl]
            cases hmeaning : parameter.meaning limit keyword with
            | error d =>
                simp only [Except.bind, bind, hmeaning]
                rw [Step.meaning_error hkind hmeaning, first, second]
                refine .meaning hword hkind fun command hsame hnames => ?_
                rw [← hsame, Step.meaning_of_names hnames] at hmeaning
                cases hmeaning
            | ok command =>
                obtain ⟨hsame, hnames⟩ := Step.names_of_meaning hkind hmeaning
                simp only [Except.bind, bind, hmeaning, pure, Except.pure]
                refine ⟨[word, parameter], .pair (hsame ▸ hword) hnames, ?_⟩
                have inside : index + 2 ≤ p.size := (Array.getElem?_eq_some_iff.mp hparameter).1
                have behind : p.indexAfter index keyword = index + 2 := by
                  rw [indexAfter, Keyword.takesParameter_eq, hkind, Option.isSome_some, if_pos rfl]
                  omega
                rw [behind, first, second]
                rfl
          · rw [if_neg hright, first, second]
            exact .kind hword hkind hright

/-- What is read at an index is what the grammar finds there. -/
theorem readAt_spec (limit : Int) (p : Program) (index : Nat) :
    match p.readAt limit index with
    | none => p.toList.drop index = []
    | some (.error fault) => Misfit limit (p.toList.drop index) fault.diagnostic
    | some (.ok i) => ∃ front, i.command.Spelled limit front ∧
        p.toList.drop index = front ++ p.toList.drop i.next := by
  rw [readAt]
  cases hfirst : p[index]? with
  | none => exact toList_drop_none hfirst
  | some word =>
      rw [Option.map_some, instruction]
      cases hkeyword : keywordOf word with
      | error d =>
          rw [toList_drop hfirst]
          exact Keyword.misfit_of_keywordOf_error _ hkeyword
      | ok keyword =>
          have spec := commandWith_spec limit (Keyword.keywordOf_eq_ok_iff.mp hkeyword) hfirst
          cases hcommand : p.commandWith limit (index + 1) keyword with
          | error d =>
              rw [hcommand] at spec
              simp only [hcommand]
              exact spec
          | ok result =>
              rw [hcommand] at spec
              simp only [hcommand]
              exact spec

theorem splits_walkFrom (limit : Int) (p : Program) (index : Nat) :
    Splits limit (p.toList.drop index)
      ((p.walkFrom limit index).instructions.map Instruction.command)
      ((p.walkFrom limit index).fault.map ReadFault.diagnostic) := by
  have spec := readAt_spec limit p index
  rw [walkFrom_eq]
  cases hread : p.readAt limit index with
  | none =>
      rw [hread] at spec
      dsimp only at spec
      rw [spec]
      exact .done
  | some result =>
      rw [hread] at spec
      cases result with
      | error fault => exact .misfit spec
      | ok i =>
          obtain ⟨front, hspelled, hfront⟩ := spec
          have forward : index < i.next := (readAt_ok hread).2.1
          have within : i.next ≤ p.size := (readAt_ok hread).2.2.1
          rw [hfront]
          exact .command hspelled (splits_walkFrom limit p i.next)
termination_by p.size - index

/-- Steps split into commands up to a fault if and only if the walk meets these commands and this
    fault. -/
theorem splits_iff_walk {commands : List Command} {fault : Option Diagnostic} :
    Splits limit p.toList commands fault ↔
      (p.walk limit).instructions.map Instruction.command = commands ∧
        (p.walk limit).fault.map ReadFault.diagnostic = fault := by
  have walked := splits_walkFrom limit p 0
  rw [List.drop_zero] at walked
  constructor
  · exact fun h => walked.unique h
  · rintro ⟨rfl, rfl⟩
    exact walked

end Program

end TurtleGraphics
