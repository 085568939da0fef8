import TurtleGraphics.Datum.Printer
import TurtleGraphics.Journal.Level
import TurtleGraphics.Proofs.Program.Grammar
import TurtleGraphics.Proofs.Text.Capitals
import TurtleGraphics.Proofs.Text.Characters

/-! # Printed values are no names

Colors and levels are looked up by their capitals. A text may spell them, and no other value is
printed as one: numbers have no letters but a few, lists and mappings have brackets, and the words
for truth and for no value are others.
-/

namespace TurtleGraphics

namespace Text

/-- What stands in printed numbers besides digits: point, signs and exponent, and the letters of the
numbers that have no digits. -/
def numberMarks : List Char := ['.', '+', '-', 'e', 'i', 'n', 'f', 'a']

def IsNumeral (c : Char) : Prop :=
  c.isDigit = true ∨ c ∈ numberMarks

theorem mem_uppercase {c : Char} {text : String} :
    c ∈ (uppercase text).toList ↔ ∃ b ∈ text.toList, c ∈ capitalOf b := by
  simp [uppercase]

theorem capitalOf_ascii {c : Char} (h : c.toNat < 0x80) : capitalOf c = [c.toUpper] := by
  rw [capitalOf, if_pos h]

theorem capitalOf_digit {c : Char} (h : c.isDigit) : capitalOf c = [c] := by
  have digit := toNat_of_isDigit h
  have notSmall : ¬ c.isLower := by
    intro small
    have letter : 97 ≤ c.toNat ∧ c.toNat ≤ 122 := by
      simpa [Char.isLower, UInt32.le_iff_toNat_le, ← Char.toNat_val] using small
    omega
  rw [capitalOf_ascii (by omega), Char.toUpper_eq_of_not_isLower notSmall]

/-- No letter of a printed number has one of these capitals, of which each name of a color or a
    level has one. -/
def tellingCapitals : List Char := ['D', 'G', 'L', 'O', 'R', 'W']

theorem uppercase_ne_of_numerals {text name : String} (h : ∀ c ∈ text.toList, IsNumeral c)
    (hname : ∃ c ∈ name.toList, c ∈ tellingCapitals) : uppercase text ≠ name := by
  rintro rfl
  obtain ⟨c, hc, telling⟩ := hname
  obtain ⟨b, hb, hcapital⟩ := mem_uppercase.mp hc
  obtain digit | sign := h b hb
  · rw [capitalOf_digit digit, List.mem_singleton] at hcapital
    subst hcapital
    have letters : ∀ c ∈ tellingCapitals, c.isDigit = false := by simp [tellingCapitals]
    simp [letters c telling] at digit
  · have capitals : ∀ b ∈ numberMarks, b.toNat < 0x80 ∧ b.toUpper ∉ tellingCapitals := by
      simp [numberMarks, tellingCapitals]
    obtain ⟨ascii, other⟩ := capitals b sign
    rw [capitalOf_ascii ascii, List.mem_singleton] at hcapital
    exact other (hcapital ▸ telling)

theorem isNumeral_zero : IsNumeral '0' := .inl rfl

theorem isNumeral_intText (n : Int) : ∀ c ∈ (toString n).toList, IsNumeral c := by
  intro c hc
  obtain digit | rfl := digit_or_sign_of_mem_intText hc
  · exact .inl digit
  · exact .inr (by simp [numberMarks])

theorem isNumeral_toDigits (n : Nat) : ∀ c ∈ Nat.toDigits 10 n, IsNumeral c :=
  fun _ h => .inl (Nat.isDigit_of_mem_toDigits (by decide) (by decide) h)

end Text

open Text

theorem Decimal.isNumeral_shortest (significand : Nat) (exponent : Int) :
    ∀ c ∈ (shortest significand exponent).digits, IsNumeral c := by
  have scaled (n : Nat) (scale : Int) : ∀ c ∈ (ofScaled n scale).digits, IsNumeral c := by
    intro c hc
    have kept := List.dropWhile_subset _ (List.mem_reverse.mp hc)
    exact isNumeral_toDigits n c (List.mem_reverse.mp kept)
  unfold shortest
  dsimp only
  generalize hfound : List.findSome? _ _ = found
  cases found with
  | none => exact scaled 0 0
  | some d =>
      obtain ⟨count, -, hcount⟩ := List.exists_of_findSome?_eq_some hfound
      obtain ⟨n, -, rfl⟩ := Option.map_eq_some_iff.mp hcount
      exact scaled n _

namespace DecimalLayout

variable {layout : DecimalLayout}

theorem isNumeral_write {d : Decimal} (hd : ∀ c ∈ d.digits, IsNumeral c) :
    ∀ c ∈ layout.write d, IsNumeral c := by
  have zeros (n : Nat) : ∀ c ∈ List.replicate n '0', IsNumeral c := by
    intro c hc
    rw [List.eq_of_mem_replicate hc]
    exact isNumeral_zero
  have signs : IsNumeral '.' ∧ IsNumeral '+' ∧ IsNumeral '-' ∧ IsNumeral 'e' := by
    simp [IsNumeral, numberMarks]
  unfold write
  dsimp only
  split
  · split
    · simp only [List.forall_mem_append]
      exact ⟨⟨by simp [signs, isNumeral_zero], zeros _⟩, hd⟩
    · split
      · simp only [List.forall_mem_append]
        exact ⟨⟨hd, zeros _⟩, by simp [signs, isNumeral_zero]⟩
      · simp only [List.forall_mem_append, List.forall_mem_cons]
        exact ⟨fun c hc => hd c (List.mem_of_mem_take hc), signs.1, fun c hc =>
          hd c (List.mem_of_mem_drop hc)⟩
  · simp only [List.forall_mem_append, List.forall_mem_cons, padLeft]
    refine ⟨?_, signs.2.2.2, ?_, zeros _, isNumeral_toDigits _⟩
    · -- The point of a mantissa stands behind its first digit.
      cases hdigits : d.digits with
      | nil => simp
      | cons first rest =>
          rw [hdigits, List.forall_mem_cons] at hd
          cases rest with
          | nil => simpa using hd.1
          | cons second rest =>
              simp only [List.forall_mem_cons] at hd ⊢
              exact ⟨hd.1, signs.1, hd.2⟩
    · split
      · exact signs.2.2.1
      · exact signs.2.1

/-- What holds of the marks of numbers holds of all characters of a double, if it does of the names
of the doubles that have no digits. -/
theorem forall_mem_writeFloat {p : Char → Prop} (hnumeral : ∀ c, IsNumeral c → p c)
    (hinfinity : ∀ c ∈ layout.infinity.toList, p c)
    (hundefined : ∀ c ∈ layout.undefined.toList, p c) (x : Float) :
    ∀ c ∈ (layout.writeFloat x).toList, p c := by
  have sign : ∀ c ∈ if Double.isNegative x then ['-'] else [], p c := by
    intro c hc
    apply hnumeral
    revert c
    split <;> simp [IsNumeral, numberMarks]
  unfold writeFloat
  dsimp only
  split
  · exact hundefined
  · simp only [String.toList_append, String.toList_ofList, List.forall_mem_append]
    exact ⟨sign, hinfinity⟩
  · split
    · simp only [String.toList_ofList, List.forall_mem_append]
      exact ⟨sign, fun c hc => hnumeral c (by
        revert c
        simp [IsNumeral, numberMarks])⟩
    · simp only [String.toList_ofList, List.forall_mem_append]
      exact ⟨sign, fun c hc => hnumeral c (isNumeral_write (Decimal.isNumeral_shortest _ _) c hc)⟩

end DecimalLayout

/-- The names by which colors and levels are looked up. -/
def capitalNames : List String :=
  Color.all.map Color.name ++ Level.all.map Level.name

namespace Datum

theorem uppercase_quoted_ne {d : Datum} (h : ∀ text, d ≠ .text text) {name : String}
    (hname : name ∈ capitalNames) :
    Text.uppercase d.quoted ≠ name := by
  have telling : ∀ name ∈ capitalNames, ∃ c ∈ name.toList, c ∈ tellingCapitals := by
    simp [capitalNames, Color.all, Color.name, Level.all, Level.name, tellingCapitals]
  have words : ∀ name ∈ capitalNames, uppercase "None" ≠ name ∧ uppercase "True" ≠ name ∧
      uppercase "False" ≠ name := by decide +kernel
  have bracketed : ∀ name ∈ capitalNames, '[' ∉ name.toList ∧ '\x7b' ∉ name.toList := by
    decide +kernel
  have kept {c : Char} (rest : String) (hc : capitalOf c = [c]) :
      c ∈ (uppercase (String.ofList [c] ++ rest)).toList :=
    mem_uppercase.mpr ⟨c, by simp, by simp [hc]⟩
  cases d with
  | text value => exact absurd rfl (h value)
  | null => exact (words name hname).1
  | bool value =>
      cases value with
      | true => exact (words name hname).2.1
      | false => exact (words name hname).2.2
  | int value => exact uppercase_ne_of_numerals (isNumeral_intText value) (telling name hname)
  | float value =>
      have numerals := @DecimalLayout.forall_mem_writeFloat shownFloats IsNumeral (fun _ h => h)
        (by simp [shownFloats, IsNumeral, numberMarks])
          (by simp [shownFloats, IsNumeral, numberMarks]) value
      exact uppercase_ne_of_numerals numerals (telling name hname)
  | list items =>
      rintro rfl
      refine (bracketed _ hname).1 ?_
      rw [quoted, String.append_assoc]
      exact kept _ (by simp [capitalOf_ascii])
  | mapping entries =>
      rintro rfl
      refine (bracketed _ hname).2 ?_
      rw [quoted, String.append_assoc]
      exact kept _ (by simp [capitalOf_ascii])

theorem shown_eq {d : Datum} (h : ∀ text, d ≠ .text text) : d.shown = Phrase.ofString d.quoted := by
  cases d with
  | text value => exact absurd rfl (h value)
  | null | bool | int | float | list | mapping => rfl

theorem color_of_shown {d : Datum} {color : Color}
    (h : d.shown.toString?.bind Color.ofName? = some color) :
    ∃ text, d = .text text := by
  by_contra other
  rw [not_exists] at other
  rw [shown_eq other, Phrase.toString?_ofString, Option.bind_some, Color.ofName?_eq_some_iff] at h
  exact uppercase_quoted_ne other (by cases color <;> simp [capitalNames, Color.all]) h

theorem level_of_shown {d : Datum} {level : Level}
    (h : (Phrase.uppercase d.shown).toString?.bind Level.ofName? = some level) :
    ∃ text, d = .text text := by
  by_contra other
  rw [not_exists] at other
  rw [shown_eq other, Phrase.uppercase_ofString, Phrase.toString?_ofString, Option.bind_some] at h
  have named : level.name = uppercase d.quoted := by simpa using List.find?_some h
  exact uppercase_quoted_ne other (by cases level <;> simp [capitalNames, Level.all]) named.symm

end Datum

end TurtleGraphics
