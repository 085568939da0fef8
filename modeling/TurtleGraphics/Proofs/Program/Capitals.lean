import TurtleGraphics.Proofs.Program.Grammar
import TurtleGraphics.Proofs.Text.Capitals
import TurtleGraphics.Proofs.Token.Relettering

/-! # Programs in letters of either size

A program says the same in other letters, as long as these have the same capitals: at each index the
same command is read, or the same fault, which may quote a word in its other letters. Text in
capitals gives the program of the text before, in capitals.
-/

namespace TurtleGraphics

variable {f : Char → Char}

def ReadFault.relettered (f : Char → Char) (fault : ReadFault) : ReadFault :=
  { fault with diagnostic := fault.diagnostic.relettered f }

/-- The walk, where the words have other letters. The commands are the same. -/
def Walk.relettered (f : Char → Char) (walk : Walk) : Walk :=
  { walk with fault := walk.fault.map (ReadFault.relettered f) }

namespace Step

variable {step : Step}

theorem color_relettered (hf : Text.KeepsCapitals f) :
    (step.relettered f).color = step.color.mapError (Diagnostic.relettered f) := by
  rw [color, color, relettered, Color.ofName?_map hf]
  cases Color.ofName? step.text <;> rfl

theorem penState_relettered (hf : Text.KeepsCapitals f) :
    (step.relettered f).penState = step.penState.mapError (Diagnostic.relettered f) := by
  rw [penState, penState, relettered, penState?_map hf]
  cases penState? step.text <;> rfl

theorem boundedNumber_relettered (f : Char → Char) :
    (step.relettered f).boundedNumber = step.boundedNumber.mapError (Diagnostic.relettered f) := by
  unfold boundedNumber relettered
  dsimp only
  split <;> rfl

theorem loopCount_relettered (f : Char → Char) (limit : Int) :
    (step.relettered f).loopCount limit =
      (step.loopCount limit).mapError (Diagnostic.relettered f) := by
  unfold loopCount relettered
  dsimp only
  split <;> rfl

theorem meaning_relettered (hf : Text.KeepsCapitals f) (limit : Int) (keyword : Keyword) :
    (step.relettered f).meaning limit keyword =
      (step.meaning limit keyword).mapError (Diagnostic.relettered f) := by
  have maps {α : Type} (value : Except Diagnostic α) (make : α → Command) :
      (value.mapError (Diagnostic.relettered f)).map make =
        (value.map make).mapError (Diagnostic.relettered f) := by
    cases value <;> rfl
  cases keyword with
  | home | loop => rfl
  | paper | ink => rw [meaning, color_relettered hf, maps, meaning]
  | pen => rw [meaning, penState_relettered hf, maps, meaning]
  | forward | back | left | right => rw [meaning, boundedNumber_relettered, maps, meaning]
  | «repeat» => rw [meaning, loopCount_relettered, maps, meaning]

end Step

namespace Program

variable {limit : Int} {p : Program} {index : Nat}

theorem getElem?_relettered (f : Char → Char) (p : Program) (index : Nat) :
    (p.relettered f)[index]? = p[index]?.map (Step.relettered f) :=
  Array.getElem?_map

theorem size_relettered (f : Char → Char) (p : Program) : (p.relettered f).size = p.size :=
  Array.size_map

theorem lastLine_relettered (f : Char → Char) (p : Program) :
    (p.relettered f).lastLine = p.lastLine := by
  rw [lastLine, lastLine, Array.back?, Array.back?, size_relettered, getElem?_relettered,
    Option.map_map]
  rfl

theorem keywordOf_relettered (hf : Text.KeepsCapitals f) (step : Step) :
    keywordOf (step.relettered f) = (keywordOf step).mapError (Diagnostic.relettered f) := by
  unfold keywordOf
  rw [show (step.relettered f).text = String.ofList (step.text.toList.map f) from rfl,
    Keyword.ofName?_map hf, show (step.relettered f).kind = step.kind from rfl]
  cases step.kind with
  | number => rfl
  | identifier => cases Keyword.ofName? step.text <;> rfl

theorem parameterAt_relettered (f : Char → Char) (p : Program) (index : Nat) (expected : StepKind) :
    (p.relettered f).parameterAt index expected =
      ((p.parameterAt index expected).map (Step.relettered f)).mapError
        (Diagnostic.relettered f) := by
  rw [parameterAt, parameterAt, getElem?_relettered, lastLine_relettered]
  cases p[index]? with
  | none => rfl
  | some step =>
      dsimp only [Option.map_some]
      rw [show (step.relettered f).kind = step.kind from rfl]
      split <;> rfl

theorem commandWith_relettered (hf : Text.KeepsCapitals f) (limit : Int) (p : Program) (index : Nat)
    (keyword : Keyword) :
    (p.relettered f).commandWith limit index keyword =
      (p.commandWith limit index keyword).mapError (Diagnostic.relettered f) := by
  cases hkind : keyword.parameterKind with
  | none =>
      cases keyword with
      | home | loop => rfl
      | _ => cases hkind
  | some kind =>
      rw [commandWith_eq hkind, commandWith_eq hkind, parameterAt_relettered]
      cases p.parameterAt index kind with
      | error d => rfl
      | ok step =>
          change ((step.relettered f).meaning limit keyword >>= _) =
            Except.mapError _ (step.meaning limit keyword >>= _)
          rw [step.meaning_relettered hf]
          cases step.meaning limit keyword <;> rfl

theorem readAt_relettered (hf : Text.KeepsCapitals f) (limit : Int) (p : Program) (index : Nat) :
    (p.relettered f).readAt limit index =
      (p.readAt limit index).map (Except.mapError (ReadFault.relettered f)) := by
  rw [readAt, readAt, getElem?_relettered, Option.map_map, Option.map_map]
  refine congrArg (fun read => p[index]?.map read) (funext fun step => ?_)
  have after (keyword : Keyword) :
      (p.relettered f).indexAfter index keyword = p.indexAfter index keyword := by
    rw [indexAfter, indexAfter, size_relettered]
  simp only [Function.comp_apply, instruction, keywordOf_relettered hf,
    commandWith_relettered hf, after]
  cases keywordOf step with
  | error d => rfl
  | ok keyword =>
      dsimp only [Except.mapError]
      cases p.commandWith limit (index + 1) keyword <;> rfl

theorem walkFrom_relettered (hf : Text.KeepsCapitals f) (limit : Int) (p : Program) (index : Nat) :
    (p.relettered f).walkFrom limit index = (p.walkFrom limit index).relettered f := by
  rw [walkFrom_eq, walkFrom_eq limit p, readAt_relettered hf]
  cases hread : p.readAt limit index with
  | none => rfl
  | some read =>
      cases read with
      | error fault => rfl
      | ok i =>
          -- The walk goes on further behind, where less of the program is left.
          have forward : index < i.next := (readAt_ok hread).2.1
          have within : i.next ≤ p.size := (readAt_ok hread).2.2.1
          have behind := walkFrom_relettered hf limit p i.next
          simp only [Option.map_some, Except.mapError, behind, Walk.relettered]
termination_by p.size - index

theorem walk_relettered (hf : Text.KeepsCapitals f) (limit : Int) (p : Program) :
    (p.relettered f).walk limit = (p.walk limit).relettered f :=
  walkFrom_relettered hf limit p 0

end Program

/-! ## Text in capitals -/

/-- A capital is a character of the same class as its small letter. -/
theorem CharAlike.toUpper {symbol : CodePoint} (hsymbol : symbol.Unreserved) (c : Char) :
    CharAlike symbol symbol Char.toUpper c := by
  by_cases hlower : c.isLower
  · obtain ⟨letter, capital⟩ := Text.isAlpha_of_isLower hlower
    -- Neither letter starts remarks, as the symbol is no letter.
    have other {d : Char} (hd : d.isAlpha) : CodePoint.ofChar d ≠ symbol := fun h =>
      (hsymbol d h).1 (isAlphanum_of_isAlpha hd)
    obtain ⟨hblank, hliteral, hnewline, hquote⟩ :=
      ordinary_of_isAlphanum (isAlphanum_of_isAlpha letter)
    obtain ⟨hblank', hliteral', hnewline', hquote'⟩ :=
      ordinary_of_isAlphanum (isAlphanum_of_isAlpha capital)
    have hdigit := not_isDigit_of_isAlpha letter
    have hdigit' := not_isDigit_of_isAlpha capital
    constructor <;> simp_all
  · have same : c.toUpper = c := Char.toUpper_eq_of_not_isLower hlower
    constructor <;> simp [same]

theorem endsIdentifier_toUpper (c : Char) : endsIdentifier c.toUpper = endsIdentifier c := by
  by_cases hlower : c.isLower
  · obtain ⟨letter, capital⟩ := Text.isAlpha_of_isLower hlower
    rw [endsIdentifier_of_isAlpha letter, endsIdentifier_of_isAlpha capital]
  · rw [Char.toUpper_eq_of_not_isLower hlower]

theorem Program.build_toUpper {symbol : CodePoint} (hsymbol : symbol.Unreserved) (source : String) :
    build symbol source.toUpper =
      ((build symbol source).map (relettered Char.toUpper)).mapError
        (Diagnostic.relettered Char.toUpper) :=
  build_relettered String.toList_map (fun c _ => .toUpper hsymbol c) fun _ _ _ _ _ c _ =>
    endsIdentifier_toUpper c

end TurtleGraphics
