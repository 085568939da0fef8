import Mathlib
import TurtleGraphics.Proofs.Text.Characters
import TurtleGraphics.Script
import TurtleGraphics.Text.Lines

/-! # Reading scripts

The reader of a script knows the form of each statement and nothing of how scripts are made. A line
starts with a word, and what follows the word is its argument. All that is written can be read
again.
-/

namespace TurtleGraphics

namespace Text

def between? (front back text : List Char) : Option (List Char) :=
  (front.isPrefixOf? text).bind back.isSuffixOf?

/-- The lines of a text, each without the newline at its end. -/
def newlineLines : List Char → List (List Char)
  | [] => []
  | '\n' :: rest => [] :: newlineLines rest
  | c :: rest => consFirst c (newlineLines rest)

end Text

def Color.ofCss? (name : String) : Option Color :=
  all.find? fun color => color.css = name

namespace Statement

def colorIn? (rest : List Char) : Option Color :=
  (Text.between? " = '".toList "';".toList rest).bind fun name => Color.ofCss? (String.ofList name)

def argumentIn? (rest : List Char) : Option Int :=
  (Text.between? ['('] ");".toList rest).bind fun number => (String.ofList number).toInt?

/-- The start of a loop. All three places name the same counter. -/
def loopIn? (rest : List Char) : Option Statement := do
  let head ← Text.between? " (let v".toList ") \x7b".toList rest
  let counter := head.takeWhile Char.isDigit
  let count ← Text.between? (" = 0; v".toList ++ counter ++ " < ".toList)
    ("; ++v".toList ++ counter) (head.dropWhile Char.isDigit)
  return .openLoop (← (String.ofList counter).toNat?) (← (String.ofList count).toInt?)

def ofLine? (line : List Char) : Option Statement :=
  let rest := line.dropWhile Char.isAlpha
  match String.ofList (line.takeWhile Char.isAlpha) with
  | "home" => if rest = "();".toList then some .home else none
  | "paper" => (colorIn? rest).map .paper
  | "ink" => (colorIn? rest).map .ink
  | "pendown" =>
    if rest = " = true;".toList then some (.pen true)
    else if rest = " = false;".toList then some (.pen false) else none
  | "forward" => (argumentIn? rest).map .forward
  | "back" => (argumentIn? rest).map .back
  | "left" => (argumentIn? rest).map .left
  | "right" => (argumentIn? rest).map .right
  | "for" => loopIn? rest
  | "" => if rest = ['\x7d'] then some .closeLoop else none
  | _ => none

end Statement

/-- The script of a text with one statement on each line. -/
def Script.ofText? (text : String) : Option Script :=
  (Text.newlineLines text.toList).mapM Statement.ofLine?

namespace Text

theorem between?_append (front middle back : List Char) :
    between? front back (front ++ (middle ++ back)) = some middle := by
  have opened : front.isPrefixOf? (front ++ (middle ++ back)) = some (middle ++ back) :=
    List.isPrefixOf?_eq_some_iff_append_eq.mpr rfl
  rw [between?, opened, Option.bind_some]
  exact List.isSuffixOf?_eq_some_iff_append_eq.mpr rfl

theorem newlineLines_append {line : List Char} (h : '\n' ∉ line) (rest : List Char) :
    newlineLines (line ++ '\n' :: rest) = line :: newlineLines rest := by
  induction line with
  | nil => rfl
  | cons c line ih =>
      have other : c ≠ '\n' := fun same => h (same ▸ List.mem_cons_self)
      have behind := ih (fun inside => h (List.mem_cons_of_mem c inside))
      rw [List.cons_append, newlineLines.eq_3 _ _ (by simpa using other), behind]
      rfl

end Text

/-- The characters in which statements are written. -/
def isScriptChar (c : Char) : Bool :=
  c.isAlphanum || " ()=;'\x7b\x7d<+-".toList.contains c

theorem isScriptChar_of_isDigit (c : Char) (h : c.isDigit = true) : isScriptChar c = true := by
  simp [isScriptChar, Char.isAlphanum, h]

namespace Statement

open Text (Consists)

theorem toList_call (function : String) (argument : Int) :
    (call function argument).toList =
      function.toList ++ '(' :: ((toString argument).toList ++ ");".toList) := by
  simp [call]

theorem argumentIn?_append (n : Int) :
    argumentIn? ('(' :: ((toString n).toList ++ ");".toList)) = some n := by
  have number := Text.between?_append ['('] (toString n).toList ");".toList
  rw [List.singleton_append] at number
  rw [argumentIn?, number, Option.bind_some, String.ofList_toList]
  exact Int.toInt?_repr n

theorem toList_openLoop (counter : Nat) (count : Int) :
    (Statement.openLoop counter count).text.toList =
      let v := (toString counter).toList
      "for".toList ++ (" (let v".toList ++ ((v ++ (" = 0; v".toList ++ v ++ " < ".toList ++
        ((toString count).toList ++ ("; ++v".toList ++ v)))) ++ ") \x7b".toList)) := by
  have spelled : (Statement.openLoop counter count).text =
      "for (let " ++ counterName counter ++ " = 0; " ++ counterName counter ++ " < " ++
        toString count ++
        "; ++" ++ counterName counter ++ ") \x7b" := rfl
  rw [spelled]
  simp only [counterName, String.toList_append, List.append_assoc]
  rfl

/-- The counter ends where its digits end. Then all that is left of the head is known but the
    count. -/
theorem loopIn?_append (counter : Nat) (count : Int) :
    let v := (toString counter).toList
    loopIn? (" (let v".toList ++ ((v ++ (" = 0; v".toList ++ v ++ " < ".toList ++
      ((toString count).toList ++ ("; ++v".toList ++ v)))) ++ ") \x7b".toList)) =
        some (.openLoop counter count) := by
  intro v
  have digits : ∀ c ∈ v, c.isDigit = true := fun c => Text.isDigit_of_mem_natText
  have counterDigits (rest : List Char) :
      (v ++ (" = 0; v".toList ++ rest)).takeWhile Char.isDigit = v := by
    rw [List.takeWhile_append_of_pos digits]
    exact List.append_nil v
  have behindDigits (rest : List Char) :
      (v ++ (" = 0; v".toList ++ rest)).dropWhile Char.isDigit = " = 0; v".toList ++ rest := by
    rw [List.dropWhile_append_of_pos digits]
    rfl
  have number :=
    Text.between?_append (" = 0; v".toList ++ v ++ " < ".toList) (toString count).toList
    ("; ++v".toList ++ v)
  have hcounter : (String.ofList v).toNat? = some counter := by
    rw [String.ofList_toList]
    exact Nat.toNat?_repr counter
  have hcount : (toString count).toInt? = some count := Int.toInt?_repr count
  rw [loopIn?, Text.between?_append]
  simp only [Option.bind_eq_bind, Option.bind_some, List.append_assoc] at number ⊢
  rw [counterDigits, behindDigits, number]
  simp only [Option.bind_some, String.ofList_toList]
  rw [hcounter, hcount]
  rfl

theorem ofLine?_text (s : Statement) : ofLine? s.text.toList = some s := by
  cases s with
  | home => rfl
  | paper color => cases color <;> rfl
  | ink color => cases color <;> rfl
  | pen down => cases down <;> rfl
  | forward step =>
      change ofLine? (call "forward" step).toList = some (.forward step)
      rw [toList_call]
      exact congrArg (Option.map Statement.forward) (argumentIn?_append step)
  | back step =>
      change ofLine? (call "back" step).toList = some (.back step)
      rw [toList_call]
      exact congrArg (Option.map Statement.back) (argumentIn?_append step)
  | left degrees =>
      change ofLine? (call "left" degrees).toList = some (.left degrees)
      rw [toList_call]
      exact congrArg (Option.map Statement.left) (argumentIn?_append degrees)
  | right degrees =>
      change ofLine? (call "right" degrees).toList = some (.right degrees)
      rw [toList_call]
      exact congrArg (Option.map Statement.right) (argumentIn?_append degrees)
  | openLoop counter count =>
      rw [toList_openLoop]
      exact loopIn?_append counter count
  | closeLoop => rfl

theorem consists_css (color : Color) : Consists isScriptChar color.css := by
  cases color <;> exact .ofList (by decide)

theorem consists_call {function : String} (h : Consists isScriptChar function) (argument : Int) :
    Consists isScriptChar (call function argument) :=
  ((h.append (.ofList (by decide))).append
    (.int isScriptChar_of_isDigit (by decide) argument)).append
    (.ofList (by decide))

theorem consists_text (s : Statement) : Consists isScriptChar s.text := by
  cases s with
  | home | closeLoop => exact .ofList (by decide)
  | paper color | ink color =>
      exact .append (.append (.ofList (by decide)) (consists_css color)) (.ofList (by decide))
  | pen down => cases down <;> exact .ofList (by decide)
  | forward | back | left | right => exact consists_call (.ofList (by decide)) _
  | openLoop counter count =>
      have v : Consists isScriptChar (counterName counter) :=
        .append (.ofList (by decide)) (.nat isScriptChar_of_isDigit counter)
      have number : Consists isScriptChar (toString count) :=
        .int isScriptChar_of_isDigit (by decide) count
      have start :
          Consists isScriptChar ("for (let " ++ counterName counter ++ " = 0; " ++
            counterName counter) :=
        .append (.append (.append (.ofList (by decide)) v) (.ofList (by decide))) v
      have bound :
          Consists isScriptChar ("for (let " ++ counterName counter ++ " = 0; " ++
            counterName counter ++
          " < " ++ toString count) :=
        .append (.append start (.ofList (by decide))) number
      exact .append (.append (.append bound (.ofList (by decide))) v) (.ofList (by decide))

theorem newline_notMem_text (s : Statement) : '\n' ∉ s.text.toList :=
  s.consists_text.notMem (by decide)

end Statement

namespace Script

theorem toList_text_cons (s : Statement) (script : Script) :
    (text (s :: script)).toList = s.text.toList ++ '\n' :: (text script).toList := by
  simp [text, Statement.line]

/-- What a script is written as is read as that script. -/
theorem ofText?_text (script : Script) : ofText? script.text = some script := by
  induction script with
  | nil => rfl
  | cons s script ih =>
      rw [ofText?, toList_text_cons, Text.newlineLines_append s.newline_notMem_text, List.mapM_cons,
        Statement.ofLine?_text]
      rw [ofText?] at ih
      rw [ih]
      rfl

end Script

end TurtleGraphics
