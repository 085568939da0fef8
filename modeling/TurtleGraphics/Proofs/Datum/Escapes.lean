import Mathlib.Data.List.Chain
import TurtleGraphics.Datum.Printer
import TurtleGraphics.Datum.Reader
import TurtleGraphics.Proofs.Text.Phrase

/-! # Text in JSON

Text is written in ASCII and read as the same text, whatever characters it has. Only halves of
surrogate pairs that stand side by side are lost: they are read as the one character that they make
up.
-/

namespace TurtleGraphics

/-- Two code points do not make up one character. -/
def CodePoint.Apart (p q : CodePoint) : Prop :=
  Datum.ofSurrogates? p.number q.number = none

/-- No two halves that make up a character stand side by side. -/
def Phrase.Joined (text : Phrase) : Prop :=
  text.IsChain CodePoint.Apart

/-- A character of ASCII that is no control character. -/
def Text.IsVisible (c : Char) : Prop :=
  0x20 ≤ c.toNat ∧ c.toNat ≤ 0x7e

instance : DecidablePred Text.IsVisible := fun c =>
  inferInstanceAs (Decidable (0x20 ≤ c.toNat ∧ c.toNat ≤ 0x7e))

namespace Datum

open Text

variable {acc text : Phrase} {gap : Gap} {rest : List Char} {unit n : Nat} {p : CodePoint}
  {c : Char}

/-! ## Units of sixteen bits -/

theorem padLeft_toDigits {width : Nat} (hwidth : 0 < width) (n : Nat) :
    padLeft '0' (width + 1) (Nat.toDigits 16 n) =
      padLeft '0' width (Nat.toDigits 16 (n / 16)) ++ [(n % 16).digitChar] := by
  unfold padLeft
  by_cases short : n < 16
  · rw [Nat.toDigits_of_lt_base short, Nat.div_eq_of_lt short, Nat.mod_eq_of_lt short,
      Nat.toDigits_zero]
    obtain ⟨w, rfl⟩ : ∃ w, width = w + 1 := ⟨width - 1, by omega⟩
    simp [List.replicate_succ']
  · rw [Nat.toDigits_of_base_le (by decide) (by omega), List.length_append, List.length_singleton,
      Nat.add_sub_add_right, List.append_assoc]

theorem hexadecimal_four (hn : n < 0x10000) :
    (hexadecimal 4 n).toList =
      [(n / 0x1000).digitChar, (n / 0x100 % 16).digitChar, (n / 0x10 % 16).digitChar,
        (n % 16).digitChar] := by
  have first : padLeft '0' 1 (Nat.toDigits 16 (n / 16 / 16 / 16)) = [(n / 0x1000).digitChar] := by
    rw [Nat.toDigits_of_lt_base (by omega), Nat.div_div_eq_div_mul, Nat.div_div_eq_div_mul]
    rfl
  rw [hexadecimal, String.toList_ofList, padLeft_toDigits (by decide), padLeft_toDigits (by decide),
    padLeft_toDigits (by decide), first, Nat.div_div_eq_div_mul]
  rfl

theorem digitChar_spec : ∀ d : Fin 16, hexDigit? d.val.digitChar = some d.val ∧
    0x20 ≤ d.val.digitChar.toNat ∧ d.val.digitChar.toNat ≤ 0x7e := by
  decide

theorem hexDigit_digitChar (hn : n < 16) : hexDigit? n.digitChar = some n :=
  (digitChar_spec ⟨n, hn⟩).1

theorem isVisible_digitChar (hn : n < 16) : Text.IsVisible n.digitChar :=
  (digitChar_spec ⟨n, hn⟩).2

theorem unit_hexadecimal (hn : n < 0x10000) :
    unit? (n / 0x1000).digitChar (n / 0x100 % 16).digitChar (n / 0x10 % 16).digitChar
      (n % 16).digitChar = some n := by
  unfold unit?
  rw [hexDigit_digitChar (by omega), hexDigit_digitChar (by omega), hexDigit_digitChar (by omega),
    hexDigit_digitChar (by omega)]
  simp only [Option.bind_eq_bind, Option.bind_some, Option.pure_def, Option.some.injEq]
  omega

theorem readText_jsonUnit (hunit : unit < 0x10000) :
    readText .exchanged acc gap (jsonUnit unit ++ rest) =
      readText .exchanged (pushUnit .exchanged unit (gap.after acc)) {} rest := by
  rw [jsonUnit, hexadecimal_four hunit]
  simp only [List.cons_append, List.nil_append]
  rw [readText, unit_hexadecimal hunit]

theorem pushUnit_apart (hp : p.number = unit)
    (hapart : ∀ last, acc.head? = some last → last.Apart p) :
    pushUnit .exchanged unit acc = p :: acc := by
  subst hp
  have point : CodePoint.ofNat? p.number = some p := dif_pos p.number_lt
  unfold pushUnit
  split
  · rw [point]
    rfl
  · rename_i last before
    have alone : ofSurrogates? last.number p.number = none := hapart last rfl
    rw [if_pos (by rfl), alone]
    dsimp only
    rw [point]
    rfl

theorem pushUnit_pair {high : CodePoint} (hhigh : 0xd800 ≤ high.number ∧ high.number < 0xdc00)
    (hunit : 0xdc00 ≤ unit ∧ unit < 0xe000)
    (hp : p.number = 0x10000 + 0x400 * (high.number - 0xd800) + (unit - 0xdc00)) :
    pushUnit .exchanged unit (high :: acc) = p :: acc := by
  have pair : ofSurrogates? high.number unit = some p := by
    rw [ofSurrogates?, if_pos ⟨hhigh.1, hhigh.2, hunit.1, hunit.2⟩, ← hp]
    exact dif_pos p.number_lt
  unfold pushUnit
  dsimp only
  rw [if_pos (by rfl), pair]

/-! ## Code points -/

theorem apart_of_not_low {last : CodePoint} (h : p.number < 0xdc00 ∨ 0xe000 ≤ p.number) :
    last.Apart p := by
  unfold CodePoint.Apart ofSurrogates?
  rw [if_neg]
  omega

theorem after_of_breaks (h : gap.breaks = []) : gap.after acc = gap.blanks.map .ofChar ++ acc := by
  have meaning : gap.meaning = gap.blanks.reverse := by
    unfold Gap.meaning
    rw [h]
    cases gap.glued <;> rfl
  rw [Gap.after, meaning, List.reverse_reverse]

/-- What is known after some of the text: the code points in reverse, of which blanks may be kept
    apart. -/
def Holds (before : Phrase) (acc : Phrase) (gap : Gap) : Prop :=
  gap.breaks = [] ∧ gap.after acc = before

theorem holds_start : Holds acc acc {} :=
  ⟨rfl, rfl⟩

theorem readText_escape {before : Phrase} (h : Holds before acc gap) {escape : Char}
    (hescape : escaped? escape = some c) :
    readText .exchanged acc gap ('\\' :: escape :: rest) =
      readText .exchanged (.ofChar c :: before) {} rest := by
  have letter : escape ≠ 'u' ∧ escape ≠ 'x' := by
    constructor <;> (rintro rfl; cases hescape)
  have whole : escapedIn? .exchanged escape = some c := by rw [escapedIn?, hescape]
  have plain : Dialect.exchanged.breaksText escape = false := rfl
  rw [readText, plain, if_neg Bool.false_ne_true, whole, h.2]
  · exact fun _ _ _ _ _ same => absurd same letter.1
  · exact fun _ _ _ same => absurd same letter.2

theorem readText_plain {before : Phrase} (h : Holds before acc gap) (hquote : c ≠ '"')
    (hbackslash : c ≠ '\\') :
    ∃ acc' gap', Holds (.ofChar c :: before) acc' gap' ∧
      readText .exchanged acc gap (c :: rest) = readText .exchanged acc' gap' rest := by
  have plain : Dialect.exchanged.breaksText c = false := rfl
  obtain ⟨hbreaks, rfl⟩ := h
  rw [readText, plain, if_neg Bool.false_ne_true]
  · split
    · refine ⟨acc, gap.spaced c, ⟨hbreaks, ?_⟩, rfl⟩
      rw [after_of_breaks hbreaks, after_of_breaks (by exact hbreaks)]
      rfl
    · exact ⟨_, _, holds_start, rfl⟩
  · exact fun same => absurd same hquote
  · exact fun _ _ _ _ _ same => absurd same hbackslash
  · exact fun _ _ _ same => absurd same hbackslash
  · exact fun _ _ same => absurd same hbackslash

theorem readText_jsonPoint (rest : List Char) {before : Phrase} (h : Holds before acc gap)
    (hapart : ∀ last, before.head? = some last → last.Apart p) :
    ∃ acc' gap', Holds (p :: before) acc' gap' ∧
      readText .exchanged acc gap (jsonPoint p ++ rest) = readText .exchanged acc' gap' rest := by
  have single (hunit : p.number < 0x10000) :
      readText .exchanged acc gap (jsonUnit p.number ++ rest) =
        readText .exchanged (p :: before) {} rest := by
    rw [readText_jsonUnit hunit, h.2, pushUnit_apart rfl hapart]
  unfold jsonPoint
  split
  · rename_i hhalf
    have := CodePoint.number_of_char? hhalf
    exact ⟨_, _, holds_start, single (by omega)⟩
  · rename_i c hc
    obtain rfl := CodePoint.ofChar_of_char? hc
    have bound := CodePoint.toNat_lt c
    have escape {letter plain : Char} (hletter : escaped? letter = some plain) (same : c = plain) :
        ∃ acc' gap', Holds (.ofChar c :: before) acc' gap' ∧
          readText .exchanged acc gap (['\\', letter] ++ rest) =
            readText .exchanged acc' gap' rest :=
      ⟨_, _, holds_start, readText_escape h (same ▸ hletter)⟩
    unfold jsonChar
    split_ifs with quote backslash newline carriage tab backspace feed visible plane
    · exact escape rfl quote
    · exact escape rfl backslash
    · exact escape rfl newline
    · exact escape rfl carriage
    · exact escape rfl tab
    · exact escape rfl backspace
    · exact escape rfl feed
    · exact readText_plain h quote backslash
    · exact ⟨_, _, holds_start, single (by change c.toNat < _; omega)⟩
    · obtain ⟨high, hhigh⟩ : ∃ high : CodePoint, high.number =
        0xd800 + (c.toNat - 0x10000) / 0x400 :=
        ⟨⟨_, by omega⟩, rfl⟩
      refine ⟨_, _, holds_start, ?_⟩
      dsimp only
      rw [List.append_assoc, ← hhigh, readText_jsonUnit (by omega), h.2,
        pushUnit_apart rfl fun last _ => apart_of_not_low (by omega), readText_jsonUnit (by omega)]
      rw [show ({} : Gap).after (high :: before) = high :: before from rfl,
        pushUnit_pair (by omega) (by omega)]
      change c.toNat = _
      omega

/-- Text is read as it was written. -/
theorem readText_flatMap : ∀ {text before acc : Phrase} {gap : Gap}, Holds before acc gap →
    Phrase.Joined (before.reverse ++ text) →
      readText .exchanged acc gap (text.flatMap jsonPoint ++ '"' :: rest) =
        some (before.reverse ++ text, rest) := by
  intro text
  induction text with
  | nil =>
      intro before acc gap h _
      rw [List.flatMap_nil, List.nil_append, readText, h.2, List.append_nil]
  | cons p text ih =>
      intro before acc gap h hjoined
      have apart : ∀ last, before.head? = some last → last.Apart p := by
        intro last hlast
        exact (List.isChain_append.mp hjoined).2.2 last
          (by rw [List.getLast?_reverse, hlast]; rfl) p rfl
      obtain ⟨acc', gap', h', hread⟩ :=
        readText_jsonPoint (text.flatMap jsonPoint ++ '"' :: rest) h apart
      rw [List.flatMap_cons, List.append_assoc, hread, ih h' (by simpa using hjoined)]
      simp

theorem readText_jsonText (h : text.Joined) (rest : List Char) :
    readText .exchanged [] {} (text.flatMap jsonPoint ++ '"' :: rest) = some (text, rest) :=
  readText_flatMap holds_start h

/-! ## Characters -/

theorem isVisible_jsonUnit (hunit : unit < 0x10000) : ∀ c ∈ jsonUnit unit, Text.IsVisible c := by
  rw [jsonUnit, hexadecimal_four hunit]
  simp only [List.forall_mem_cons]
  refine ⟨by decide, by decide, isVisible_digitChar (by omega), isVisible_digitChar (by omega),
    isVisible_digitChar (by omega), isVisible_digitChar (by omega), by simp⟩

theorem isVisible_jsonPoint (p : CodePoint) : ∀ c ∈ jsonPoint p, Text.IsVisible c := by
  unfold jsonPoint
  split
  · rename_i hhalf
    have := CodePoint.number_of_char? hhalf
    exact isVisible_jsonUnit (by omega)
  · rename_i c hc
    have bound := CodePoint.toNat_lt c
    unfold jsonChar
    split_ifs with quote backslash newline carriage tab backspace feed visible plane
    iterate 7 simp [Text.IsVisible]
    · exact List.forall_mem_singleton.mpr visible
    · exact isVisible_jsonUnit (by omega)
    · exact List.forall_mem_append.mpr
        ⟨isVisible_jsonUnit (by omega), isVisible_jsonUnit (by omega)⟩

theorem isVisible_jsonText (text : Phrase) : ∀ c ∈ jsonText text, Text.IsVisible c := by
  unfold jsonText
  rw [List.cons_append, List.forall_mem_cons, List.forall_mem_append]
  refine ⟨by decide, fun c hc => ?_, List.forall_mem_singleton.mpr (by decide)⟩
  obtain ⟨p, -, hp⟩ := List.mem_flatMap.mp hc
  exact isVisible_jsonPoint p c hp

/-- Text without halves of pairs has none that are lost. -/
theorem joined_of_isText (h : text.IsText) : text.Joined := by
  induction text with
  | nil => exact .nil
  | cons p rest ih =>
      refine List.isChain_cons.mpr ⟨fun q hq => ?_, ih fun q hq => h q (List.mem_cons_of_mem _ hq)⟩
      have whole := h q (List.mem_cons_of_mem _ (List.mem_of_mem_head? hq))
      apply apart_of_not_low
      by_contra low
      simp only [CodePoint.isHalf, Bool.and_eq_false_imp, decide_eq_true_eq,
        decide_eq_false_iff_not] at whole
      omega

end Datum

end TurtleGraphics
