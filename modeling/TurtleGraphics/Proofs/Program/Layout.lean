import Mathlib
import TurtleGraphics.Program
import TurtleGraphics.Proofs.Settings.Sections
import TurtleGraphics.Proofs.Text.Phrase
import TurtleGraphics.Proofs.Token.Coverage

/-! # Programs as they are written

The words and numbers of a program may be laid out freely: in front of them, between them and behind
them may stand blanks, newlines, punctuation, quoted text and remarks. Reading the text gives back
the words and numbers, each with the line where it was written, whatever the settings take as the
comment symbol.
-/

namespace TurtleGraphics

/-- Characters among which no step is read. -/
inductive Filler (symbol : CodePoint) where
  | blank (c : Char) (isBlank : isBlank c)
  | newline
  | literal (c : Char) (isLiteral : isLiteral c) (ne_symbol : .ofChar c ≠ symbol)
  | string (opening : Char) (text : List Char) (closing : Char) (opens : isQuote opening)
    (unquoted : ∀ c ∈ text, ¬ isQuote c) (closes : isQuote closing)
  /-- A remark with the newline behind it. -/
  | remark (first : Char) (text : List Char) (isSymbol : .ofChar first = symbol)
      (inLine : '\n' ∉ text)

/-- What stands between two steps: a blank or newline, and then anything that is no step. -/
structure Separator (symbol : CodePoint) where
  first : Char
  ends : isBlank first ∨ first = '\n'
  fillers : List (Filler symbol)

/-- A step that can be written. -/
inductive Entry where
  | word (first : Char) (rest : List Char) (isAlpha : first.isAlpha)
    (goesOn : ∀ c ∈ rest, ¬ endsIdentifier c)
  | number (zeros value : Nat) (le_maxNumber : value ≤ maxNumber)

/-- How the text of a program may end. -/
inductive Closing (symbol : CodePoint) where
  /-- With what stands behind a step, if there is one. -/
  | plain
  /-- With a remark that no newline closes. -/
  | remark (first : Char) (text : List Char) (isSymbol : .ofChar first = symbol)
      (inLine : '\n' ∉ text)
  | entry (last : Entry)

/-- A way to write a program. The steps but the last, if that ends the text, have separators behind
    them. -/
structure Layout (symbol : CodePoint) where
  lead : List (Filler symbol)
  entries : List (Entry × Separator symbol)
  closing : Closing symbol

variable {symbol : CodePoint}

def Filler.written : Filler symbol → List Char
  | .blank c _ => [c]
  | .newline => ['\n']
  | .literal c _ _ => [c]
  | .string opening text closing _ _ _ => opening :: text ++ [closing]
  | .remark first text _ _ => first :: text ++ ['\n']

def Separator.written (separator : Separator symbol) : List Char :=
  separator.first :: separator.fillers.flatMap Filler.written

namespace Entry

def written : Entry → List Char
  | .word first rest _ _ => first :: rest
  | .number zeros value _ => List.replicate zeros '0' ++ Nat.toDigits 10 value

/-- The step that is written, on the line behind some text. -/
def step (before : List Char) : Entry → Step
  | .word first rest _ _ => ⟨.identifier, 1 + before.count '\n', String.ofList (first :: rest), 0⟩
  | .number _ value _ => ⟨.number, 1 + before.count '\n', "", value⟩

end Entry

namespace Closing

def written : Closing symbol → List Char
  | .plain => []
  | .remark first text _ _ => first :: text
  | .entry last => last.written

def step? (before : List Char) : Closing symbol → Option Step
  | .entry last => some (last.step before)
  | .plain | .remark _ _ _ _ => none

end Closing

namespace Layout

def source (layout : Layout symbol) : String :=
  String.ofList (layout.lead.flatMap Filler.written ++
    (layout.entries.flatMap fun (entry, separator) => entry.written ++ separator.written) ++
    layout.closing.written)

/-- The steps of entries and of the end, behind some text. -/
def stepsBehind (closing : Closing symbol) (before : List Char) :
    List (Entry × Separator symbol) → List Step
  | [] => (closing.step? before).toList
  | (entry, separator) :: entries =>
    entry.step before :: stepsBehind closing (before ++ entry.written ++ separator.written) entries

def program (layout : Layout symbol) : Program :=
  (stepsBehind layout.closing (layout.lead.flatMap Filler.written) layout.entries).toArray

end Layout

/-! ## What is scanned -/

theorem isAlphanum_of_isDigit {c : Char} (h : c.isDigit) : c.isAlphanum := by
  simp [Char.isAlphanum, h]

theorem not_isDigit_of_isAlpha {c : Char} (h : c.isAlpha) : ¬ c.isDigit := by
  have nine : '9'.val.toNat = 57 := rfl
  have capital : 'A'.val.toNat = 65 := rfl
  have small : 'a'.val.toNat = 97 := rfl
  simp only [Char.isAlpha, Char.isUpper, Char.isLower, Char.isDigit, Bool.or_eq_true,
    Bool.and_eq_true, decide_eq_true_eq, UInt32.le_iff_toNat_le, ge_iff_le] at h ⊢
  omega

/-- A blank or a newline ends a word, and so it ends a number. -/
theorem endsIdentifier_of_gap {c : Char} (h : isBlank c ∨ c = '\n') :
    endsIdentifier c ∧ ¬ c.isDigit := by
  refine ⟨?_, fun hdigit => ?_⟩
  · obtain hblank | rfl := h
    · simp [endsIdentifier, hblank]
    · decide
  · obtain ⟨hblank, -, hnewline, -⟩ := ordinary_of_isAlphanum (isAlphanum_of_isDigit hdigit)
    exact h.elim hblank hnewline

/-- The symbol is no character that stands for something else in every program. -/
def CodePoint.Unreserved (symbol : CodePoint) : Prop :=
  ∀ c : Char, .ofChar c = symbol → ¬ c.isAlphanum ∧ ¬ isBlank c ∧ c ≠ '\n' ∧ ¬ isQuote c

namespace Scan

theorem start_blank (hsymbol : symbol.Unreserved) {c : Char} (hc : isBlank c) (rest : List Char) :
    start symbol (c :: rest) = .fault (.unknownCharacter c) [] := by
  have notSymbol : .ofChar c ≠ symbol := fun h => (hsymbol c h).2.1 hc
  have notNewline : c ≠ '\n' := by
    rintro rfl
    exact absurd hc (by decide)
  rw [start, if_neg notNewline, if_neg notSymbol]
  obtain rfl | rfl | rfl := isBlank_iff.mp hc <;> rfl

theorem takeWhile_append_eq {p : Char → Bool} {front rest : List Char} (hfront : ∀ c ∈ front, p c)
    (hrest : ∀ c, rest.head? = some c → ¬ p c) :
    (front ++ rest).takeWhile p = front ∧ (front ++ rest).dropWhile p = rest := by
  rw [List.takeWhile_append_of_pos hfront, List.dropWhile_append_of_pos hfront]
  cases rest with
  | nil => simp
  | cons c rest => simp [hrest c rfl]

variable {text rest : List Char}

theorem start_newline (symbol : CodePoint) (rest : List Char) :
    start symbol ('\n' :: rest) = .lexeme .endOfLine := by
  simp [start]

theorem start_remark {first : Char} (hfirst : first ≠ '\n') (hsymbol : .ofChar first = symbol)
    (htext : '\n' ∉ text) (hrest : ∀ c, rest.head? = some c → c = '\n') :
    start symbol (first :: text ++ rest) = .lexeme (.comment first text) := by
  have inside (c : Char) (hc : c ∈ text) : decide (c ≠ '\n') := by
    simpa using ne_of_mem_of_not_mem hc htext
  have remark := (takeWhile_append_eq inside (by simpa using hrest)).1
  rw [List.cons_append, start, if_neg hfirst, if_pos hsymbol, remark]

theorem start_literal {c : Char} (hc : isLiteral c) (hsymbol : .ofChar c ≠ symbol) :
    start symbol (c :: rest) = .lexeme (.literal c) := by
  have hnewline : c ≠ '\n' := by
    rintro rfl
    exact absurd hc (by decide)
  simp [start, hnewline, hsymbol, hc]

theorem start_string {opening closing : Char} (hopening : isQuote opening)
    (hsymbol : .ofChar opening ≠ symbol) (htext : ∀ c ∈ text, ¬ isQuote c)
    (hclosing : isQuote closing) :
    start symbol (opening :: (text ++ closing :: rest)) =
      .lexeme (.string opening text closing) := by
  have other : opening ≠ '\n' ∧ ¬ isLiteral opening := by
    obtain rfl | rfl := isQuote_iff.mp hopening <;> decide
  have unquoted (c : Char) (hc : c ∈ text) : !isQuote c := by simpa using htext c hc
  have closed (c : Char) (hc : (closing :: rest).head? = some c) : ¬ !isQuote c := by
    obtain rfl : closing = c := by simpa using hc
    simpa using hclosing
  obtain ⟨taken, left⟩ := takeWhile_append_eq unquoted closed
  simp [start, other, hsymbol, hopening, string, taken, left]

theorem start_number {first : Char} (hfirst : first.isDigit) (hsymbol : .ofChar first ≠ symbol)
    (htext : ∀ c ∈ text, c.isDigit) (hvalue : Lexeme.valueOf (first :: text) ≤ maxNumber)
    (hrest : ∀ c, rest.head? = some c → isBlank c ∨ c = '\n') :
    start symbol (first :: text ++ rest) = .lexeme (.number first text) := by
  obtain ⟨-, hliteral, hnewline, hquote⟩ := ordinary_of_isAlphanum (isAlphanum_of_isDigit hfirst)
  obtain ⟨taken, left⟩ := takeWhile_append_eq htext fun c hc =>
    (endsIdentifier_of_gap (hrest c hc)).2
  rw [List.cons_append, start, if_neg hnewline, if_neg hsymbol, if_neg hliteral, if_neg hquote,
    if_pos hfirst, number]
  simp only [taken, left, hvalue, if_true]
  cases rest with
  | nil => rfl
  | cons next rest => simp [hrest next rfl]

theorem start_identifier {first : Char} (hfirst : first.isAlpha) (hsymbol : .ofChar first ≠ symbol)
    (htext : ∀ c ∈ text, ¬ endsIdentifier c)
    (hrest : ∀ c, rest.head? = some c → isBlank c ∨ c = '\n') :
    start symbol (first :: text ++ rest) = .lexeme (.identifier first text) := by
  obtain ⟨-, hliteral, hnewline, hquote⟩ := ordinary_of_isAlphanum (isAlphanum_of_isAlpha hfirst)
  have taken := (takeWhile_append_eq (p := (!endsIdentifier ·)) (by simpa using htext)
    fun c hc => by simpa using (endsIdentifier_of_gap (hrest c hc)).1).1
  rw [List.cons_append, start, if_neg hnewline, if_neg hsymbol, if_neg hliteral, if_neg hquote,
    if_neg (not_isDigit_of_isAlpha hfirst), if_pos hfirst, taken]

end Scan

/-! ## What is read -/

def Spot.step? (spot : Spot) : Option Step :=
  spot.token?.bind fun token => (Step.ofToken token).toOption

namespace Cursor

/-- From the cursor on there is no fault, and these are the steps. -/
structure Reads (symbol : CodePoint) (c : Cursor) (steps : List Step) : Prop where
  sound : (c.spots symbol).findSome? Spot.diagnostic? = none
  steps_eq : (c.spots symbol).filterMap Spot.step? = steps

variable {c : Cursor} {rest : List Char} {steps : List Step}

theorem spots_of_endOfFile (h : (c.spot symbol).scan = .lexeme .endOfFile) :
    c.spots symbol = [c.spot symbol] := by
  rw [spots]
  split <;> simp_all

theorem spots_of_lexeme {found : Lexeme} (h : (c.spot symbol).scan = .lexeme found)
    (hfound : found ≠ .endOfFile) :
    c.spots symbol = c.spot symbol :: (c.spot symbol).stop.spots symbol := by
  rw [spots]
  split <;> simp_all

theorem spots_of_fault {cause : LexicalFault} {read : List Char}
    (h : (c.spot symbol).scan = .fault cause read) : c.spots symbol = [c.spot symbol] := by
  rw [spots]
  split <;> simp_all

theorem spots_congr {other : Cursor} (h : c.spot symbol = other.spot symbol) :
    c.spots symbol = other.spots symbol := by
  cases hscan : (other.spot symbol).scan with
  | lexeme found =>
      by_cases hfound : found = .endOfFile
      · subst hfound
        rw [spots_of_endOfFile hscan, spots_of_endOfFile (h ▸ hscan), h]
      · rw [spots_of_lexeme hscan hfound, spots_of_lexeme (h ▸ hscan) hfound, h]
  | fault cause read =>
      rw [spots_of_fault hscan, spots_of_fault (h ▸ hscan), h]

theorem advance_advance (c : Cursor) (m n : Nat) : (c.advance m).advance n = c.advance (m + n) := by
  simp [advance, List.take_add, Nat.add_assoc]

theorem reads_end (hc : c.rest = []) : c.Reads symbol [] := by
  have scan : (c.spot symbol).scan = .lexeme .endOfFile := by
    simp [spot, skipBlanks, advance, hc, Scan.start]
  constructor <;>
    simp [spots_of_endOfFile scan, Spot.diagnostic?, Spot.outcome, Spot.step?, Spot.token?, scan]

theorem reads_blank {b : Char} (hb : isBlank b) (hc : c.rest = b :: rest)
    (h : (c.advance 1).Reads symbol steps) : c.Reads symbol steps := by
  have skips : c.skipBlanks = (c.advance 1).skipBlanks := by
    rw [skipBlanks, skipBlanks, advance_advance]
    simp [advance, hc, hb, Nat.add_comm]
  have same : c.spots symbol = (c.advance 1).spots symbol := spots_congr (by rw [spot, skips, spot])
  exact ⟨same ▸ h.sound, same ▸ h.steps_eq⟩

theorem reads_lexeme (hsymbol : symbol.Unreserved) (found : Lexeme) (hfound : found ≠ .endOfFile)
    (hc : c.rest = found.spelling ++ rest)
    (hscan : Scan.start symbol (found.spelling ++ rest) = .lexeme found)
    (h : (c.advance found.spelling.length).Reads symbol steps) :
    c.Reads symbol ((Step.ofToken (found.token c.line)).toOption.toList ++ steps) := by
  rw [← hc] at hscan
  have unblank : c.rest.takeWhile isBlank = [] := by
    cases hrest : c.rest with
    | nil => rfl
    | cons b behind =>
        refine List.takeWhile_cons_of_neg fun hb => ?_
        rw [hrest, Scan.start_blank hsymbol hb] at hscan
        cases hscan
  have here : c.skipBlanks = c := by
    rw [skipBlanks, unblank]
    simp [advance]
  have scan : c.spot symbol = ⟨c, .lexeme found⟩ := by rw [spot, here, hscan]
  have split := spots_of_lexeme (congrArg Spot.scan scan) hfound
  rw [scan] at split
  constructor
  · rw [split, List.findSome?_cons]
    exact h.sound
  · have step : Spot.step? ⟨c, .lexeme found⟩ = (Step.ofToken (found.token c.line)).toOption := by
      cases found <;> first | exact absurd rfl hfound | rfl
    rw [split, List.filterMap_cons, step]
    cases (Step.ofToken (found.token c.line)).toOption with
    | none => exact h.steps_eq
    | some step => exact congrArg (step :: ·) h.steps_eq

end Cursor

theorem Filler.reads (hsymbol : symbol.Unreserved) (filler : Filler symbol) {c : Cursor}
    {rest : List Char} {steps : List Step} (hc : c.rest = filler.written ++ rest)
    (h : (c.advance filler.written.length).Reads symbol steps) : c.Reads symbol steps := by
  cases filler with
  | blank b hb => exact Cursor.reads_blank hb hc h
  | newline =>
      exact Cursor.reads_lexeme hsymbol .endOfLine (by simp) hc (Scan.start_newline _ _) h
  | literal b hb hother =>
      exact Cursor.reads_lexeme hsymbol (.literal b) (by simp) hc (Scan.start_literal hb hother) h
  | string opening text closing hopening htext hclosing =>
      have hother : .ofChar opening ≠ symbol := fun h => (hsymbol opening h).2.2.2 hopening
      refine Cursor.reads_lexeme hsymbol (.string opening text closing) (by simp) hc ?_ h
      simpa [Lexeme.spelling] using Scan.start_string hopening hother htext hclosing
  | remark first text hfirst htext =>
      -- The remark and the newline behind it are two lexemes.
      have hnewline := (hsymbol first hfirst).2.2.1
      rw [written, List.length_append, ← Cursor.advance_advance] at h
      rw [written, List.append_assoc] at hc
      refine Cursor.reads_lexeme hsymbol (.comment first text) (by simp) hc
        (Scan.start_remark hnewline hfirst htext (by simp)) ?_
      exact Cursor.reads_lexeme hsymbol .endOfLine (by simp) (Cursor.rest_advance hc)
        (Scan.start_newline _ _) h

theorem reads_fillers (hsymbol : symbol.Unreserved) (fillers : List (Filler symbol)) {c : Cursor}
    {rest : List Char} {steps : List Step} (hc : c.rest = fillers.flatMap Filler.written ++ rest)
    (h : (c.advance (fillers.flatMap Filler.written).length).Reads symbol steps) :
    c.Reads symbol steps := by
  induction fillers generalizing c with
  | nil => simpa [Cursor.advance] using h
  | cons filler fillers ih =>
      rw [List.flatMap_cons, List.append_assoc] at hc
      rw [List.flatMap_cons, List.length_append, ← Cursor.advance_advance] at h
      exact filler.reads hsymbol hc (ih (Cursor.rest_advance hc) h)

theorem Separator.reads (hsymbol : symbol.Unreserved) (separator : Separator symbol) {c : Cursor}
    {rest : List Char} {steps : List Step} (hc : c.rest = separator.written ++ rest)
    (h : (c.advance separator.written.length).Reads symbol steps) : c.Reads symbol steps := by
  obtain ⟨first, hfirst⟩ : ∃ first : Filler symbol, first.written = [separator.first] := by
    rcases separator.ends with hblank | hnewline
    · exact ⟨.blank separator.first hblank, rfl⟩
    · exact ⟨.newline, by rw [hnewline]; rfl⟩
  have written : separator.written = (first :: separator.fillers).flatMap Filler.written := by
    rw [List.flatMap_cons, hfirst]
    rfl
  rw [written] at hc h
  exact reads_fillers hsymbol _ hc h

theorem Entry.number_digits (zeros value : Nat) :
    (∀ c ∈ List.replicate zeros '0' ++ Nat.toDigits 10 value, c.isDigit) ∧
      Lexeme.valueOf (List.replicate zeros '0' ++ Nat.toDigits 10 value) = value := by
  constructor
  · intro c hc
    rcases List.mem_append.1 hc with hzero | hdigit
    · rw [List.eq_of_mem_replicate hzero]
      decide
    · exact Nat.isDigit_of_mem_toDigits (by decide) (by decide) hdigit
  · change Nat.ofDigitChars 10 _ 0 = value
    rw [Nat.ofDigitChars_append, Nat.ofDigitChars_replicate_zero, Nat.mul_zero,
      Nat.ofDigitChars_ten_toDigits]

theorem Entry.reads (hsymbol : symbol.Unreserved) (entry : Entry) {c : Cursor} {rest : List Char}
    {before : List Char} {steps : List Step} (hc : c.rest = entry.written ++ rest)
    (hrest : ∀ b, rest.head? = some b → isBlank b ∨ b = '\n')
    (hline : c.line = 1 + before.count '\n')
    (h : (c.advance entry.written.length).Reads symbol steps) :
    c.Reads symbol (entry.step before :: steps) := by
  cases entry with
  | word first text hfirst htext =>
      have hother : .ofChar first ≠ symbol := fun h =>
        (hsymbol first h).1 (isAlphanum_of_isAlpha hfirst)
      have reads := Cursor.reads_lexeme hsymbol (.identifier first text) (by simp) hc
        (Scan.start_identifier hfirst hother htext hrest) h
      rwa [hline] at reads
  | number zeros value hvalue =>
      obtain ⟨hdigits, hwrites⟩ := number_digits zeros value
      obtain ⟨first, text, hspelled⟩ : ∃ first text,
          List.replicate zeros '0' ++ Nat.toDigits 10 value = first :: text :=
        List.exists_cons_of_ne_nil (by simp)
      rw [written, hspelled] at hc h
      rw [hspelled] at hdigits hwrites
      have hfirst := hdigits first List.mem_cons_self
      have hother : .ofChar first ≠ symbol := fun h =>
        (hsymbol first h).1 (isAlphanum_of_isDigit hfirst)
      have reads := Cursor.reads_lexeme hsymbol (.number first text) (by simp) hc
        (Scan.start_number hfirst hother (fun c hc => hdigits c (List.mem_cons_of_mem _ hc))
          (hwrites.le.trans hvalue) hrest) h
      rwa [hline, Lexeme.token, hwrites] at reads

theorem Closing.reads (hsymbol : symbol.Unreserved) (closing : Closing symbol) {c : Cursor}
    {before : List Char} (hc : c.rest = closing.written) (hline : c.line = 1 + before.count '\n') :
    c.Reads symbol (closing.step? before).toList := by
  cases closing with
  | plain => exact Cursor.reads_end hc
  | remark first text hfirst htext =>
      have whole : c.rest = (Lexeme.comment first text).spelling ++ [] := hc.trans (by simp; rfl)
      exact Cursor.reads_lexeme hsymbol (.comment first text) (by simp) whole
        (Scan.start_remark (hsymbol first hfirst).2.2.1 hfirst htext (by simp))
        (Cursor.reads_end (Cursor.rest_advance whole))
  | entry last =>
      have whole : c.rest = last.written ++ [] := hc.trans (List.append_nil _).symm
      exact last.reads hsymbol whole (by simp) hline (Cursor.reads_end (Cursor.rest_advance whole))

theorem Layout.reads_entries (hsymbol : symbol.Unreserved) (closing : Closing symbol)
    (entries : List (Entry × Separator symbol)) {c : Cursor} {before : List Char}
    (hc : c.rest = (entries.flatMap fun (entry, separator) => entry.written ++ separator.written) ++
      closing.written)
    (hline : c.line = 1 + before.count '\n') :
    c.Reads symbol (stepsBehind closing before entries) := by
  induction entries generalizing c before with
  | nil => exact closing.reads hsymbol hc hline
  | cons first entries ih =>
      obtain ⟨entry, separator⟩ := first
      rw [List.flatMap_cons, List.append_assoc, List.append_assoc] at hc
      have hbehind := Cursor.rest_advance hc
      refine entry.reads hsymbol hc ?_ hline (separator.reads hsymbol hbehind ?_)
      · rintro b ⟨⟩
        exact separator.ends
      · refine ih (Cursor.rest_advance hbehind) ?_
        rw [Cursor.line_advance hbehind, Cursor.line_advance hc, hline, List.count_append,
          List.count_append, Nat.add_assoc, Nat.add_assoc, Nat.add_assoc]

/-- Where no character is reserved, reading the text of a layout gives back its steps. -/
theorem Layout.build_source (hsymbol : symbol.Unreserved) (layout : Layout symbol) :
    Program.build symbol layout.source = .ok layout.program := by
  have hstart : (Cursor.start layout.source).rest = layout.lead.flatMap Filler.written ++
      ((layout.entries.flatMap fun (entry, separator) => entry.written ++ separator.written) ++
        layout.closing.written) := by
    rw [Cursor.start, source, String.toList_ofList, List.append_assoc]
  have reads : (Cursor.start layout.source).Reads symbol
      (stepsBehind layout.closing (layout.lead.flatMap Filler.written) layout.entries) :=
    reads_fillers hsymbol layout.lead hstart
      (reads_entries hsymbol _ _ (Cursor.rest_advance hstart) (Cursor.line_advance hstart))
  have steps : (((Cursor.start layout.source).spots symbol).filterMap Spot.token?).filterMap
      (fun token => (Step.ofToken token).toOption) =
        stepsBehind layout.closing (layout.lead.flatMap Filler.written) layout.entries := by
    rw [List.filterMap_filterMap]
    exact reads.steps_eq
  rw [Program.build, Reading.of, Reading.program, Reading.diagnostic?, reads.sound]
  exact congrArg (fun steps => Except.ok steps.toArray) steps

/-! ## Which symbols the settings take -/

namespace CodePoint

theorem Plain.unreserved {point : CodePoint} (h : point.Plain) : point.Unreserved := by
  rintro c rfl
  obtain ⟨hletter, hseparator, hquote⟩ := h c (char?_ofChar c)
  refine ⟨fun halphanum => hletter ?_, fun hblank => hseparator ?_, ?_, hquote⟩
  · have hascii : c.toNat < 0x80 := by
      simp only [Char.isAlphanum, Char.isAlpha, Char.isUpper, Char.isLower, Char.isDigit,
        Bool.or_eq_true, Bool.and_eq_true, decide_eq_true_eq, UInt32.le_iff_toNat_le, ge_iff_le]
        at halphanum
      have nine : '9'.val.toNat = 57 := rfl
      have capital : 'Z'.val.toNat = 90 := rfl
      have small : 'z'.val.toNat = 122 := rfl
      rw [Char.toNat]
      omega
    rwa [Text.isAlphanumeric, if_pos hascii]
  · obtain rfl | rfl | rfl := isBlank_iff.mp hblank <;> decide +kernel
  · rintro rfl
    exact hseparator (by decide +kernel)

end CodePoint

theorem Settings.symbol?_of_ofDatum {data : Datum} {settings : Settings}
    (h : ofDatum data = .ok settings) :
    ∃ symbol, Lexer.symbol? settings.lexer.commentSymbol = .ok symbol ∧ symbol.Unreserved := by
  obtain ⟨entries, -, read, -⟩ := readFrom_of_ofDatum h
  obtain ⟨sec, -, hlexer⟩ := read.lexer
  obtain ⟨symbol, hsymbol, plain⟩ := Section.commentSymbol_of_lexer hlexer
  rw [hsymbol]
  exact ⟨symbol, rfl, plain.unreserved⟩

/-- Under any settings, reading the text of a layout gives back its steps, each with the line where
it was written; text without a step gives the empty program. -/
theorem Program.build_layout {data : Datum} {settings : Settings}
    (h : Settings.ofDatum data = .ok settings) :
    ∃ symbol, Lexer.symbol? settings.lexer.commentSymbol = .ok symbol ∧
      (∀ layout : Layout symbol, build symbol layout.source = .ok layout.program) ∧
      ∀ (lead : List (Filler symbol)) (closing : Closing symbol), (∀ last, closing ≠ .entry last) →
        build symbol (Layout.source ⟨lead, [], closing⟩) = .ok #[] := by
  obtain ⟨symbol, hsingle, hsymbol⟩ := Settings.symbol?_of_ofDatum h
  refine ⟨symbol, hsingle, Layout.build_source hsymbol, fun lead closing hclosing => ?_⟩
  rw [Layout.build_source hsymbol]
  cases closing with
  | plain | remark => rfl
  | entry last => exact absurd rfl (hclosing last)

/-- A layout with a remark, punctuation and quoted text, where a semicolon starts remarks. -/
theorem Program.build_layout_semicolon :
    Settings.ofDatum (.mapping [("lexer", .mapping [("comment_symbol", .text ";")])]) =
        .ok { lexer := { commentSymbol := ";" } } ∧
      build (.ofChar ';') "; turn\n# repeat\t'\n4'\n04 home" =
        .ok #[⟨.identifier, 2, "repeat", 0⟩, ⟨.number, 4, "", 4⟩, ⟨.identifier, 4, "home", 0⟩] := by
  have settings :
      Settings.ofDatum (.mapping [("lexer", .mapping [("comment_symbol", .text ";")])]) =
    .ok { lexer := { commentSymbol := ";" } } := by cbv
  refine ⟨settings, ?_⟩
  obtain ⟨symbol, hsymbol, reads, -⟩ := build_layout settings
  obtain rfl : symbol = .ofChar ';' := (Except.ok.inj hsymbol).symm
  exact reads {
    lead := [.remark ';' " turn".toList rfl (by decide), .literal '#' (by decide) (by decide),
      .blank ' ' (by decide)]
    entries := [
      (.word 'r' "epeat".toList (by decide) (List.all_iff_forall_prop.mp (by decide)),
        ⟨'\t', by decide, [.string '\'' "\n4".toList '\'' (by decide)
          (List.all_iff_forall_prop.mp (by decide)) (by decide), .newline]⟩),
      (.number 1 4 (by decide), ⟨' ', by decide, []⟩)]
    closing :=
      .entry (.word 'h' "ome".toList (by decide) (List.all_iff_forall_prop.mp (by decide))) }

end TurtleGraphics
