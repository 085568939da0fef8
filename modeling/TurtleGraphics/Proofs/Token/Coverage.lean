import Mathlib.Data.Bool.AllAny
import Mathlib.Data.List.TakeWhile
import Mathlib.Logic.Function.Iterate
import TurtleGraphics.Token.Lexer

/-! # What tokens cover

A token is spelled by a stretch of the source text, and how far the stretch goes is seen from what
stands behind it. Reading one token after the other passes blanks and such stretches and nothing
else, and the line of a place is known from the newlines before it, also where a token cannot be
read.
-/

namespace TurtleGraphics

/-- The token is spelled by some characters, with others behind them. -/
inductive Token.Spelled (symbol : CodePoint) : Token → List Char → List Char → Prop where
  | endOfFile {line : Int} : Spelled symbol ⟨.endOfFile, line, "", 0⟩ [] []
  | endOfLine {line : Int} {rest : List Char} :
      Spelled symbol ⟨.endOfLine, line, "\n", 0⟩ ['\n'] rest
  /-- A remark goes from its symbol up to the next newline. -/
  | comment {line : Int} {first : Char} {remark rest : List Char} :
    .ofChar first = symbol → '\n' ∉ first :: remark → (∀ c, rest.head? = some c → c = '\n') →
      Spelled symbol ⟨.comment, line, String.ofList (first :: remark), 0⟩ (first :: remark) rest
  | literal {line : Int} {c : Char} {rest : List Char} :
    isLiteral c → Spelled symbol ⟨.literal, line, String.ofList [c], 0⟩ [c] rest
  /-- Text goes from a quote up to the next one. -/
  | string {line : Int} {opening closing : Char} {text rest : List Char} :
    isQuote opening → isQuote closing → (∀ c ∈ text, ¬ isQuote c) →
      Spelled symbol ⟨.string, line, String.ofList text, 0⟩ (opening :: text ++ [closing]) rest
  /-- A number goes up to a blank, a newline or the end, so that no digit is left out. -/
  | number {line : Int} {digits rest : List Char} :
    digits ≠ [] → (∀ c ∈ digits, c.isDigit) → (∀ c, rest.head? = some c → isBlank c ∨ c = '\n') →
      Nat.ofDigitChars 10 digits 0 ≤ maxNumber →
      Spelled symbol ⟨.number, line, "", Nat.ofDigitChars 10 digits 0⟩ digits rest
  /-- A word starts with a letter and goes up to the next character that ends it. -/
  | identifier {line : Int} {first : Char} {word rest : List Char} :
    first.isAlpha → (∀ c ∈ first :: word, ¬ endsIdentifier c) →
      (∀ c, rest.head? = some c → endsIdentifier c) →
      Spelled symbol ⟨.identifier, line, String.ofList (first :: word), 0⟩ (first :: word) rest

/-- No token is read, because of some characters that were read and others behind them. -/
inductive LexicalFault.Shows (symbol : CodePoint) :
    LexicalFault → List Char → List Char → Prop where
  /-- The character starts no token, and it is not passed. -/
  | unknownCharacter {c : Char} {rest : List Char} :
    c ≠ '\n' → .ofChar c ≠ symbol → ¬ isLiteral c → ¬ isQuote c → ¬ c.isDigit → ¬ c.isAlpha →
      Shows symbol (.unknownCharacter c) [] (c :: rest)
  /-- No quote closes the text. -/
  | unterminatedString {opening : Char} {text : List Char} :
    isQuote opening → (∀ c ∈ text, ¬ isQuote c) →
    Shows symbol .unterminatedString (opening :: text) []
  /-- The digits come to more than the bound. -/
  | numberTooLarge {digits rest : List Char} :
    digits ≠ [] → (∀ c ∈ digits, c.isDigit) → (∀ c, rest.head? = some c → isBlank c ∨ c = '\n') →
      maxNumber < Nat.ofDigitChars 10 digits 0 → Shows symbol .numberTooLarge digits rest
  /-- The digits are followed by something else than a blank, a newline or the end. -/
  | characterAfterNumber {digits rest : List Char} {c : Char} :
    digits ≠ [] → (∀ c ∈ digits, c.isDigit) → ¬ c.isDigit → ¬ isBlank c → c ≠ '\n' →
      Shows symbol (.characterAfterNumber c) digits (c :: rest)

/-- What a scan of some text should find. -/
def Scan.Right (symbol : CodePoint) (text : List Char) : Scan → Prop
  | .lexeme found => ∃ rest, text = found.spelling ++ rest ∧
      ∀ line, (found.token line).Spelled symbol found.spelling rest
  | .fault cause read => ∃ rest, text = read ++ rest ∧ cause.Shows symbol read rest

theorem takeWhile_spec (p : Char → Bool) (text : List Char) :
    text = text.takeWhile p ++ text.dropWhile p ∧ (∀ c ∈ text.takeWhile p, p c) ∧
      ∀ c, (text.dropWhile p).head? = some c → ¬ p c := by
  refine ⟨List.takeWhile_append_dropWhile.symm, fun c h => List.mem_takeWhile_imp h, fun c h => ?_⟩
  have first := List.head?_dropWhile_not p text
  rw [h] at first
  simpa using first

theorem isBlank_iff {c : Char} : isBlank c ↔ c = ' ' ∨ c = '\t' ∨ c = '\r' := by
  simp [isBlank, or_assoc]

theorem isQuote_iff {c : Char} : isQuote c ↔ c = '"' ∨ c = '\'' := by
  simp [isQuote]

theorem isAlphanum_of_isAlpha {c : Char} (h : c.isAlpha) : c.isAlphanum := by
  simp [Char.isAlphanum, h]

theorem ordinary_of_isAlphanum {c : Char} (h : c.isAlphanum) :
    ¬ isBlank c ∧ ¬ isLiteral c ∧ c ≠ '\n' ∧ ¬ isQuote c := by
  refine ⟨fun hblank => ?_, fun hliteral => ?_, ?_, fun hquote => ?_⟩
  · obtain rfl | rfl | rfl := isBlank_iff.mp hblank <;> exact absurd h (by decide)
  · have punctuation : ∀ c ∈ literals, ¬ c.isAlphanum := List.all_iff_forall_prop.mp (by decide)
    exact punctuation c (List.contains_iff_mem.mp hliteral) h
  · rintro rfl
    exact absurd h (by decide)
  · obtain rfl | rfl := isQuote_iff.mp hquote <;> exact absurd h (by decide)

theorem endsIdentifier_of_isAlpha {c : Char} (h : c.isAlpha) : endsIdentifier c = false := by
  simp [endsIdentifier, ordinary_of_isAlphanum (isAlphanum_of_isAlpha h)]

namespace Scan

variable {symbol : CodePoint}

theorem string_right {opening : Char} (hopening : isQuote opening) (rest : List Char) :
    (string opening rest).Right symbol (opening :: rest) := by
  obtain ⟨hsplit, htext, hclosing⟩ := takeWhile_spec (!isQuote ·) rest
  have unquoted : ∀ c ∈ rest.takeWhile (!isQuote ·), ¬ isQuote c := by simpa using htext
  unfold string
  split
  · rename_i closing behind hbehind
    refine ⟨behind, ?_, fun line => .string hopening ?_ unquoted⟩
    · rw [hbehind] at hsplit
      simp [Lexeme.spelling, ← hsplit]
    · simpa [hbehind] using hclosing
  · rename_i hnone
    rw [hnone, List.append_nil] at hsplit
    refine ⟨[], (List.append_nil _).symm, .unterminatedString hopening ?_⟩
    rw [hsplit]
    exact unquoted

theorem number_right {first : Char} (hfirst : first.isDigit) (rest : List Char) :
    (number first rest).Right symbol (first :: rest) := by
  obtain ⟨hsplit, hdigits, hbehind⟩ := takeWhile_spec Char.isDigit rest
  have digits : ∀ c ∈ first :: rest.takeWhile Char.isDigit, c.isDigit := by
    simpa [hfirst] using hdigits
  have whole : first :: rest = first :: rest.takeWhile Char.isDigit ++
      rest.dropWhile Char.isDigit :=
    congrArg (first :: ·) hsplit
  -- Where the digits end as they may, only their value is left to decide.
  have ended (h : ∀ c, (rest.dropWhile Char.isDigit).head? = some c → isBlank c ∨ c = '\n') :
      Right symbol (first :: rest)
        (if Lexeme.valueOf (first :: rest.takeWhile Char.isDigit) ≤ maxNumber then
          .lexeme (.number first (rest.takeWhile Char.isDigit))
        else .fault .numberTooLarge (first :: rest.takeWhile Char.isDigit)) := by
    split
    · rename_i hsmall
      exact ⟨_, whole, fun line => .number (List.cons_ne_nil _ _) digits h hsmall⟩
    · rename_i hlarge
      exact ⟨_, whole, .numberTooLarge (List.cons_ne_nil _ _) digits h (Nat.lt_of_not_le hlarge)⟩
  unfold number
  dsimp only
  split
  · rename_i hnone
    exact ended (by simp [hnone])
  · rename_i next behind hnext
    split
    · rename_i hends
      exact ended (by simpa [hnext] using hends)
    · rename_i hother
      rw [hnext] at whole hbehind
      simp only [Bool.or_eq_true, decide_eq_true_eq, not_or] at hother
      exact ⟨_, whole, .characterAfterNumber (List.cons_ne_nil _ _) digits
        (hbehind next rfl) hother.1
        hother.2⟩

/-- A scan finds what it should. -/
theorem start_right (symbol : CodePoint) (text : List Char) :
    (start symbol text).Right symbol text := by
  cases text with
  | nil => exact ⟨[], rfl, fun line => .endOfFile⟩
  | cons c rest =>
      rw [start]
      split
      · rename_i hnewline
        exact ⟨rest, by rw [hnewline]; rfl, fun line => .endOfLine⟩
      rename_i hnewline
      split
      · rename_i hsymbol
        obtain ⟨hsplit, hremark, hbehind⟩ := takeWhile_spec (· ≠ '\n') rest
        refine ⟨rest.dropWhile (· ≠ '\n'), congrArg (c :: ·) hsplit, fun line =>
          .comment hsymbol ?_ ?_⟩
        · simpa [eq_comm, hnewline] using fun h => hremark '\n' h
        · simpa using hbehind
      rename_i hsymbol
      split
      · exact ⟨rest, rfl, fun line => .literal ‹_›⟩
      rename_i hliteral
      split
      · exact string_right ‹_› rest
      rename_i hquote
      split
      · exact number_right ‹_› rest
      rename_i hdigit
      split
      · rename_i halpha
        obtain ⟨hsplit, hword, hbehind⟩ := takeWhile_spec (!endsIdentifier ·) rest
        refine ⟨rest.dropWhile (!endsIdentifier ·), congrArg (c :: ·) hsplit,
          fun line => .identifier halpha ?_ ?_⟩
        · simpa [endsIdentifier_of_isAlpha halpha] using hword
        · simpa using hbehind
      · rename_i halpha
        exact ⟨c :: rest, rfl, .unknownCharacter hnewline hsymbol hliteral hquote hdigit halpha⟩

end Scan

namespace Token

theorem Spelled.ne_nil {symbol : CodePoint} {token : Token} {span rest : List Char}
    (h : token.Spelled symbol span rest) (hkind : token.kind ≠ .endOfFile) : span ≠ [] := by
  cases h with
  | endOfFile => exact absurd rfl hkind
  | number hdigits => exact hdigits
  | endOfLine | comment | literal | string | identifier => simp

end Token

/-- The cursor stands in a text, where the text from it on is unread and the newlines before it
count the lines. -/
structure Cursor.At (text : List Char) (c : Cursor) : Prop where
  position_le : c.position ≤ text.length
  rest_eq : c.rest = text.drop c.position
  line_eq : c.line = 1 + (text.take c.position).count '\n'

namespace Cursor

variable {text front rest : List Char} {c : Cursor}

theorem rest_advance (hc : c.rest = front ++ rest) : (c.advance front.length).rest = rest := by
  rw [advance, hc, List.drop_left]

theorem line_advance (hc : c.rest = front ++ rest) :
    (c.advance front.length).line = c.line + front.count '\n' := by
  rw [advance, hc, List.take_left]

theorem at_start (source : String) : (start source).At source.toList :=
  ⟨Nat.zero_le _, rfl, rfl⟩

theorem At.take_advance (h : c.At text) (hc : c.rest = front ++ rest) :
    text.take (c.advance front.length).position = text.take c.position ++ front := by
  have taken : (text.drop c.position).take front.length = front := by
    rw [← h.rest_eq, hc, List.take_left]
  rw [advance, List.take_add, taken]

theorem At.advance (h : c.At text) (hc : c.rest = front ++ rest) :
    (c.advance front.length).At text := by
  have within : (text.drop c.position).length = front.length + rest.length := by
    rw [← h.rest_eq, hc, List.length_append]
  refine ⟨?_, ?_, ?_⟩
  · have := h.position_le
    simp only [Cursor.advance]
    rw [List.length_drop] at within
    omega
  · simp only [Cursor.advance, h.rest_eq, List.drop_drop]
  · rw [h.take_advance hc, List.count_append, ← Nat.add_assoc, ← h.line_eq, line_advance hc]

theorem At.drop_advance (h : c.At text) (hc : c.rest = front ++ rest) :
    text.drop (c.advance front.length).position = rest := by
  rw [← (h.advance hc).rest_eq, rest_advance hc]

theorem At.skipBlanks (h : c.At text) :
    c.skipBlanks.At text ∧ ∃ gap, (∀ b ∈ gap, isBlank b) ∧
      text.take c.skipBlanks.position = text.take c.position ++ gap := by
  obtain ⟨hsplit, hblank, -⟩ := takeWhile_spec isBlank c.rest
  exact ⟨h.advance hsplit, _, hblank, h.take_advance hsplit⟩

end Cursor

/-- A call that went from one place of the text to another gave out what stands between them. -/
inductive Lexer.Gives (symbol : CodePoint) (text : List Char) (before behind : Nat) :
    Except LexerFault Token → Prop where
  /-- Blanks and then the spelling of a token. -/
  | token {token : Token} {gap span : List Char} :
    text.take behind = text.take before ++ gap ++ span → (∀ c ∈ gap, isBlank c) →
    token.Spelled symbol span (text.drop behind) →
    token.line = 1 + (text.take before ++ gap).count '\n' →
    (token.kind ≠ .endOfFile → span ≠ []) →
      Gives symbol text before behind (.ok token)
  /-- Blanks and then the characters that were read until a fault showed. -/
  | fault {cause : LexicalFault} {line : Int} {gap read : List Char} :
    text.take behind = text.take before ++ gap ++ read → (∀ c ∈ gap, isBlank c) →
    cause.Shows symbol read (text.drop behind) →
    line = 1 + (text.take before ++ gap).count '\n' →
      Gives symbol text before behind (.error (.diagnostic ⟨.lexical cause, some line⟩))
  /-- Nothing, as the end of the text was given out. -/
  | pastEnd : behind = before → Gives symbol text before behind (.error .pastEnd)

namespace Lexer

section Gives

variable {symbol : CodePoint} {text : List Char} {before behind : Nat}
  {outcome : Except LexerFault Token}

theorem Gives.le (h : Gives symbol text before behind outcome) (hbefore : before ≤ text.length)
    (hbehind : behind ≤ text.length) : before ≤ behind := by
  cases h with
  | token hsplit | fault hsplit =>
      have lengths := congrArg List.length hsplit
      simp only [List.length_append, List.length_take, Nat.min_eq_left, hbefore, hbehind] at lengths
      omega
  | pastEnd hsame => exact hsame.ge

theorem Gives.lt {token : Token} (h : Gives symbol text before behind (.ok token))
    (hkind : token.kind ≠ .endOfFile) (hbefore : before ≤ text.length)
    (hbehind : behind ≤ text.length) : before < behind := by
  cases h with
  | token hsplit _ _ _ hspan =>
      have taken := List.length_pos_iff.2 (hspan hkind)
      have lengths := congrArg List.length hsplit
      simp only [List.length_append, List.length_take, Nat.min_eq_left, hbefore, hbehind] at lengths
      omega

end Gives

/-- The lexer after some calls of `next`. -/
def after (l : Lexer) (calls : Nat) : Lexer :=
  (fun l => l.next.2)^[calls] l

theorem after_succ (l : Lexer) (calls : Nat) : l.after (calls + 1) = (l.after calls).next.2 :=
  Function.iterate_succ_apply' _ _ _

/-- What one call gives out is what it passes. -/
theorem next_gives {text : List Char} {l : Lexer} (h : l.cursor.At text) :
    l.next.2.cursor.At text ∧
      Gives l.symbol text l.cursor.position l.next.2.cursor.position l.next.1 := by
  cases hfinished : l.finished with
  | true =>
      have hnext : l.next = (.error .pastEnd, l) := by simp [next, spot?, hfinished]
      rw [hnext]
      exact ⟨h, .pastEnd rfl⟩
  | false =>
      obtain ⟨here, gap, hgap, passed⟩ := h.skipBlanks
      have line : (l.cursor.skipBlanks.line : Int) =
          1 + (text.take l.cursor.position ++ gap).count '\n' := by
        rw [here.line_eq, passed, Int.natCast_add, Int.natCast_one]
      have right := Scan.start_right l.symbol l.cursor.skipBlanks.rest
      simp only [next, spot?, hfinished, Bool.false_eq_true, if_false, Cursor.spot, Spot.stop,
        Spot.outcome]
      generalize Scan.start l.symbol l.cursor.skipBlanks.rest = scan at right ⊢
      cases scan with
      | lexeme found =>
          obtain ⟨rest, hrest, hspelled⟩ := right
          have spelled := hspelled l.cursor.skipBlanks.line
          rw [← here.drop_advance hrest] at spelled
          refine ⟨here.advance hrest, .token ?_ hgap spelled ?_ spelled.ne_nil⟩
          · exact (here.take_advance hrest).trans (by rw [passed])
          · rw [← line]
            cases found <;> rfl
      | fault cause read =>
          obtain ⟨rest, hrest, hshows⟩ := right
          rw [← here.drop_advance hrest] at hshows
          refine ⟨here.advance hrest, .fault ?_ hgap hshows line⟩
          exact (here.take_advance hrest).trans (by rw [passed])

theorem finished_of_pastEnd {l : Lexer} (h : l.next.1 = .error .pastEnd) : l.finished = true := by
  cases hfinished : l.finished with
  | true => rfl
  | false =>
      simp only [next, spot?, hfinished, Bool.false_eq_true, if_false] at h
      cases houtcome : (l.cursor.spot l.symbol).outcome <;> simp [houtcome, Except.mapError] at h

theorem ended_of_finished {l : Lexer} (hstart : l.finished = false) {calls : Nat}
    (h : (l.after calls).finished = true) :
    ∃ earlier < calls, ∃ token, (l.after earlier).next.1 = .ok token ∧ token.kind = .endOfFile := by
  induction calls with
  | zero => exact absurd h (by simp [after, hstart])
  | succ calls ih =>
      rw [after_succ] at h
      cases hfinished : (l.after calls).finished with
      | true =>
          obtain ⟨earlier, hlt, found⟩ := ih hfinished
          exact ⟨earlier, hlt.trans (Nat.lt_succ_self _), found⟩
      | false =>
          refine ⟨calls, Nat.lt_succ_self _, ?_⟩
          simp only [next, spot?, hfinished, Bool.false_eq_true, if_false, beq_iff_eq] at h ⊢
          simp [Spot.outcome, h, Lexeme.token, Except.mapError]

theorem at_after {text : List Char} {l : Lexer} (h : l.cursor.At text) (calls : Nat) :
    (l.after calls).cursor.At text := by
  induction calls with
  | zero => exact h
  | succ calls ih =>
      rw [after_succ]
      exact (next_gives ih).1

theorem symbol_after (l : Lexer) (calls : Nat) : (l.after calls).symbol = l.symbol := by
  induction calls with
  | zero => rfl
  | succ calls ih =>
      rw [after_succ, next]
      split <;> exact ih

/-- Whatever the text and however often the lexer is called: its place never goes back, stays in the
text and has the line of the newlines before it; each call gives out what stands between the places
before and after it; and the end of the text or a fault comes before there are more calls than
characters and one. -/
theorem after_covers (symbol : CodePoint) (source : String) :
    let text := source.toList
    let cursor (calls : Nat) := ((start symbol source).after calls).cursor
    let outcome (calls : Nat) := ((start symbol source).after calls).next.1
    let ended (calls : Nat) := ∃ token, outcome calls = .ok token ∧ token.kind = .endOfFile
    (cursor 0).position = 0 ∧
    (∀ k, (cursor k).position ≤ (cursor (k + 1)).position ∧ (cursor k).position ≤ text.length ∧
      (cursor k).line = 1 + (text.take (cursor k).position).count '\n') ∧
    (∀ k, Gives symbol text (cursor k).position (cursor (k + 1)).position (outcome k)) ∧
    (∀ k, outcome k = .error .pastEnd → ∃ earlier < k, ended earlier) ∧
    ∃ k ≤ text.length, ended k ∨ ∃ d, outcome k = .error (.diagnostic d) := by
  intro text cursor outcome ended
  have inside (k : Nat) : (cursor k).At text := at_after (Cursor.at_start source) k
  have gives (k : Nat) :
      Gives symbol text (cursor k).position (cursor (k + 1)).position (outcome k) := by
    have step := (next_gives (inside k)).2
    rwa [symbol_after, ← after_succ] at step
  have late (k : Nat) (h : outcome k = .error .pastEnd) : ∃ earlier < k, ended earlier :=
    ended_of_finished rfl (finished_of_pastEnd h)
  refine ⟨rfl, fun k => ⟨(gives k).le (inside k).position_le (inside (k + 1)).position_le,
    (inside k).position_le, (inside k).line_eq⟩, gives, late, ?_⟩
  by_contra hnone
  have goesOn (k : Nat) (hk : k ≤ text.length) : ¬ ended k := fun h => hnone ⟨k, hk, .inl h⟩
  -- Each of these calls then gives out a token with characters, and the text has too few of them.
  have climbs (k : Nat) (hk : k ≤ text.length + 1) : k ≤ (cursor k).position := by
    induction k with
    | zero => exact Nat.zero_le _
    | succ k ih =>
        have reached := ih (Nat.le_of_succ_le hk)
        cases houtcome : outcome k with
        | ok token =>
            have moved := (houtcome ▸ gives k).lt
              (fun hkind => goesOn k (Nat.le_of_succ_le_succ hk) ⟨token, houtcome, hkind⟩)
              (inside k).position_le (inside (k + 1)).position_le
            exact Nat.lt_of_le_of_lt reached moved
        | error fault =>
            cases fault with
            | diagnostic d =>
                exact absurd ⟨k, Nat.le_of_succ_le_succ hk, .inr ⟨d, houtcome⟩⟩ hnone
            | pastEnd =>
                obtain ⟨earlier, hlt, hended⟩ := late k houtcome
                exact absurd hended (goesOn earlier (hlt.le.trans (Nat.le_of_succ_le_succ hk)))
  exact absurd (climbs _ le_rfl) (Nat.not_le.2 (Nat.lt_succ_of_le (inside _).position_le))

end Lexer

end TurtleGraphics
