import TurtleGraphics.Proofs.Token.Seam

/-! # Texts that are read side by side

Of a text only the words, the numbers, the faults and the lines of these are told on. So two texts
say the same if lexemes stand at the same places of both, whatever the lexemes without a step are
spelled with. In particular this is so where each character of a text is replaced by one of its own
class.
-/

namespace TurtleGraphics

variable {symbol other : CodePoint} {f : Char → Char}

/-! ## Steps and faults in other characters -/

def Step.relettered (f : Char → Char) (step : Step) : Step :=
  { step with text := String.ofList (step.text.toList.map f) }

def Program.relettered (f : Char → Char) (p : Program) : Program :=
  p.map (Step.relettered f)

def LexicalFault.relettered (f : Char → Char) : LexicalFault → LexicalFault
  | .unknownCharacter c => .unknownCharacter (f c)
  | .characterAfterNumber c => .characterAfterNumber (f c)
  | .numberTooLarge => .numberTooLarge
  | .unterminatedString => .unterminatedString

def GrammarFault.relettered (f : Char → Char) : GrammarFault → GrammarFault
  | .unknownKeyword text => .unknownKeyword (String.ofList (text.toList.map f))
  | .unknownColor text => .unknownColor (String.ofList (text.toList.map f))
  | .unknownPenState text => .unknownPenState (String.ofList (text.toList.map f))
  | fault => fault

def Cause.relettered (f : Char → Char) : Cause → Cause
  | .lexical fault => .lexical (fault.relettered f)
  | .grammatical fault => .grammatical (fault.relettered f)
  | cause => cause

/-- The diagnostic of the same fault, where the text has other characters. -/
def Diagnostic.relettered (f : Char → Char) (d : Diagnostic) : Diagnostic :=
  { d with cause := d.cause.relettered f }

@[simp]
theorem Diagnostic.kind_relettered (d : Diagnostic) : (d.relettered f).kind = d.kind := by
  obtain ⟨cause, line⟩ := d
  cases cause <;> rfl

@[simp]
theorem Diagnostic.line_relettered (d : Diagnostic) : (d.relettered f).line = d.line := rfl

theorem Step.relettered_id (step : Step) : step.relettered id = step := by
  simp [relettered]

theorem LexicalFault.relettered_id (fault : LexicalFault) : fault.relettered id = fault := by
  cases fault <;> rfl

theorem GrammarFault.relettered_id (fault : GrammarFault) : fault.relettered id = fault := by
  cases fault <;> simp [relettered]

theorem Diagnostic.relettered_id (d : Diagnostic) : d.relettered id = d := by
  obtain ⟨cause, line⟩ := d
  cases cause with
  | lexical fault => rw [relettered, Cause.relettered, fault.relettered_id]
  | grammatical fault => rw [relettered, Cause.relettered, fault.relettered_id]
  | stack | emit => rfl

/-! ## Steps from a place on -/

def Lexeme.step? (line : Int) (found : Lexeme) : Option Step :=
  (Step.ofToken (found.token line)).toOption

namespace Cursor

variable {c d : Cursor}

/-- All steps from a place on, unless there is a fault. -/
def steps (symbol : CodePoint) (c : Cursor) : Except Diagnostic (List Step) :=
  (c.tokens symbol).map (List.filterMap fun token => (Step.ofToken token).toOption)

theorem steps_of_endOfFile (h : (c.spot symbol).scan = .lexeme .endOfFile) :
    c.steps symbol = .ok [] := by
  rw [steps, tokens_of_endOfFile h]
  rfl

theorem steps_of_lexeme {found : Lexeme} (h : (c.spot symbol).scan = .lexeme found)
    (hfound : found ≠ .endOfFile) :
    c.steps symbol = ((c.spot symbol).stop.steps symbol).map
      ((found.step? c.line).toList ++ ·) := by
  rw [steps, tokens_of_lexeme h hfound, steps]
  cases (c.spot symbol).stop.tokens symbol with
  | error d => rfl
  | ok tokens =>
      refine congrArg Except.ok ?_
      rw [List.filterMap_cons, Lexeme.step?]
      cases (Step.ofToken (found.token c.line)).toOption <;> rfl

theorem steps_of_fault {cause : LexicalFault} {read : List Char}
    (h : (c.spot symbol).scan = .fault cause read) :
    c.steps symbol = .error ⟨.lexical cause, some (c.line : Int)⟩ := by
  rw [steps, tokens_of_fault h]
  rfl

theorem exists_spot_of_mem_steps {steps : List Step} (h : c.steps symbol = .ok steps) {step : Step}
    (hmem : step ∈ steps) : ∃ spot ∈ c.spots symbol, spot.step? = some step := by
  unfold Cursor.steps tokens at h
  split at h
  · cases h
  · cases h
    rw [List.filterMap_filterMap] at hmem
    exact List.mem_filterMap.mp hmem

theorem stop_eq {found : Lexeme} {behind : List Char} (h : (c.spot symbol).scan = .lexeme found)
    (hrest : c.rest.dropWhile isBlank = found.spelling ++ behind) :
    (c.spot symbol).stop.rest = behind ∧
      (c.spot symbol).stop.line = c.line + found.spelling.count '\n' := by
  rw [rest_stop, line_stop, h, hrest, Scan.read, List.drop_left, List.take_left]
  exact ⟨rfl, rfl⟩

/-- At two places the same is found but for the characters: the end, lexemes with equal steps and
lines and with the relation behind them, or equal faults. -/
inductive Agrees (symbol other : CodePoint) (f : Char → Char) (R : Cursor → Cursor → Prop)
    (c d : Cursor) :
    Prop where
  | endOfFile : (c.spot symbol).scan = .lexeme .endOfFile →
      (d.spot other).scan = .lexeme .endOfFile →
      Agrees symbol other f R c d
  | lexeme {found found' : Lexeme} :
      (c.spot symbol).scan = .lexeme found → (d.spot other).scan = .lexeme found' →
      found ≠ .endOfFile → found' ≠ .endOfFile →
      (∀ line, found'.step? line = (found.step? line).map (Step.relettered f)) →
      R (c.spot symbol).stop (d.spot other).stop → Agrees symbol other f R c d
  | fault {cause : LexicalFault} {read read' : List Char} :
      (c.spot symbol).scan = .fault cause read →
      (d.spot other).scan = .fault (cause.relettered f) read' → Agrees symbol other f R c d

/-- If places that are related have the same line and agree, then from there on the steps are the
same but for the characters, or the first fault is. -/
theorem steps_of_agrees {R : Cursor → Cursor → Prop} (hline : ∀ c d, R c d → d.line = c.line)
    (hagrees : ∀ c d, R c d → c.Agrees symbol other f R d) (h : R c d) :
    d.steps other = ((c.steps symbol).map (List.map (Step.relettered f))).mapError
      (Diagnostic.relettered f) := by
  -- The induction is on the scans of the first text. The other one is read along, from one related
  -- place to the next.
  induction c using Cursor.spots.induct symbol generalizing d with
  | case1 c hscan =>
      cases hagrees c d h with
      | endOfFile _ hscan' =>
          rw [steps_of_endOfFile hscan, steps_of_endOfFile hscan']
          rfl
      | lexeme hscan' _ hfound => exact absurd (Scan.lexeme.inj (hscan'.symm.trans hscan)) hfound
      | fault hscan' => cases hscan.symm.trans hscan'
  | case2 c found hscan hfound ih =>
      cases hagrees c d h with
      | endOfFile hscan' => exact absurd (Scan.lexeme.inj (hscan.symm.trans hscan')) hfound
      | lexeme hscan' hscan'' _ hfound' hstep hstop =>
          cases hscan.symm.trans hscan'
          rw [steps_of_lexeme hscan hfound, steps_of_lexeme hscan'' hfound', ih hstop, hstep,
            hline c d h]
          cases (c.spot symbol).stop.steps symbol with
          | error d => rfl
          | ok steps =>
              refine congrArg Except.ok ?_
              rw [List.map_append]
              cases found.step? c.line <;> rfl
      | fault hscan' => cases hscan.symm.trans hscan'
  | case3 c cause read hscan =>
      cases hagrees c d h with
      | endOfFile hscan' | lexeme hscan' => cases hscan.symm.trans hscan'
      | fault hscan' hscan'' =>
          cases hscan.symm.trans hscan'
          rw [steps_of_fault hscan, steps_of_fault hscan'', hline c d h]
          rfl

end Cursor

theorem Program.build_eq_steps (symbol : CodePoint) (source : String) :
    build symbol source = ((Cursor.start source).steps symbol).map List.toArray := by
  rw [build_eq, tokenize_eq, Cursor.steps]
  cases (Cursor.start source).tokens symbol <;> rfl

/-! ## Characters of the same class -/

/-- The character is read like the one in its place, where `other` starts remarks instead of
    `symbol`. -/
structure CharAlike (symbol other : CodePoint) (f : Char → Char) (c : Char) : Prop where
  blank : isBlank (f c) = isBlank c
  newline : f c = '\n' ↔ c = '\n'
  remark : .ofChar (f c) = other ↔ .ofChar c = symbol
  /-- What starts a remark is no punctuation, whatever the character. -/
  literal : .ofChar c ≠ symbol → isLiteral (f c) = isLiteral c
  quote : isQuote (f c) = isQuote c
  digit : (f c).isDigit = c.isDigit
  value : c.isDigit → f c = c
  letter : (f c).isAlpha = c.isAlpha

theorem while_map {p q : Char → Bool} {text : List Char}
    (h : ∀ c, c ∈ text.takeWhile p ∨ (text.dropWhile p).head? = some c → q (f c) = p c) :
    (text.map f).takeWhile q = (text.takeWhile p).map f ∧
    (text.map f).dropWhile q = (text.dropWhile p).map f := by
  induction text with
  | nil => simp
  | cons c text ih =>
      by_cases hc : p c
      · rw [List.takeWhile_cons_of_pos hc, List.dropWhile_cons_of_pos hc] at h ⊢
        have hq : q (f c) := (h c (by simp)).trans hc
        obtain ⟨taken, left⟩ := ih fun c hmem => h c (hmem.imp_left (List.mem_cons_of_mem _))
        rw [List.map_cons, List.takeWhile_cons_of_pos hq, List.dropWhile_cons_of_pos hq,
          taken, left]
        exact ⟨rfl, rfl⟩
      · rw [List.takeWhile_cons_of_neg hc, List.dropWhile_cons_of_neg hc] at h ⊢
        have hq : ¬ q (f c) := fun hq => hc ((h c (by simp)).symm.trans hq)
        rw [List.map_cons, List.takeWhile_cons_of_neg hq, List.dropWhile_cons_of_neg hq]
        exact ⟨rfl, rfl⟩

theorem while_map_of_forall {p q : Char → Bool} {text : List Char} (h : ∀ c ∈ text, q (f c) = p c) :
    (text.map f).takeWhile q = (text.takeWhile p).map f ∧
    (text.map f).dropWhile q = (text.dropWhile p).map f :=
  while_map fun c hmem => h c (hmem.elim (fun hmem => (List.takeWhile_sublist p).subset hmem)
    fun hmem => (List.dropWhile_sublist p).subset (List.mem_of_head? hmem))

/-! ## Texts of characters of the same class -/

/-- The lexeme in other characters. The digits of a number stay. -/
def Lexeme.relettered (f : Char → Char) : Lexeme → Lexeme
  | .endOfFile => .endOfFile
  | .endOfLine => .endOfLine
  | .comment symbol rest => .comment (f symbol) (rest.map f)
  | .literal c => .literal (f c)
  | .string opening text closing => .string (f opening) (text.map f) (f closing)
  | .number first rest => .number first rest
  | .identifier first rest => .identifier (f first) (rest.map f)

def Scan.relettered (f : Char → Char) : Scan → Scan
  | .lexeme found => .lexeme (found.relettered f)
  | .fault cause read => .fault (cause.relettered f) (read.map f)

namespace Lexeme

theorem length_spelling_relettered (found : Lexeme) :
    (found.relettered f).spelling.length = found.spelling.length := by
  cases found <;> simp [relettered, spelling]

theorem step?_relettered (line : Int) (found : Lexeme) :
    (found.relettered f).step? line = (found.step? line).map (Step.relettered f) := by
  cases found with
  | endOfFile | endOfLine | comment | literal | string | number => rfl
  | identifier first rest =>
      simp [relettered, step?, token, Step.ofToken, Except.toOption, Step.relettered]

theorem relettered_eq_endOfFile {found : Lexeme} (h : found.relettered f = .endOfFile) :
    found = .endOfFile := by
  cases found <;> first | rfl | cases h

end Lexeme

namespace Scan

variable {text : List Char}

theorem string_relettered (opening : Char) (hchars : ∀ c ∈ text, CharAlike symbol other f c) :
    string (f opening) (text.map f) = (string opening text).relettered f := by
  obtain ⟨taken, left⟩ := @while_map_of_forall f (!isQuote ·) (!isQuote ·) text
    fun c hc => by rw [(hchars c hc).quote]
  rw [string, string, taken, left]
  cases text.dropWhile (!isQuote ·) <;> rfl

theorem number_relettered {first : Char} (hfirst : first.isDigit)
    (hchars : ∀ c ∈ first :: text, CharAlike symbol other f c) :
    number (f first) (text.map f) = (number first text).relettered f := by
  obtain ⟨hhead, htext⟩ := List.forall_mem_cons.mp hchars
  obtain ⟨taken, left⟩ := @while_map_of_forall f Char.isDigit Char.isDigit text fun c hc =>
    (htext c hc).digit
  -- Digits are not only read alike, they stay as they are, so the number is the same.
  have digits : (text.takeWhile Char.isDigit).map f = text.takeWhile Char.isDigit := by
    refine (List.map_congr_left fun c hc => ?_).trans (List.map_id _)
    exact (htext c ((List.takeWhile_sublist _).subset hc)).value (List.mem_takeWhile_imp hc)
  rw [number, number, taken, left, digits, hhead.value hfirst]
  have inRange (p : Prop) [Decidable p] :
      relettered f (if p then .lexeme (.number first (text.takeWhile Char.isDigit))
        else .fault .numberTooLarge (first :: text.takeWhile Char.isDigit)) =
      if p then .lexeme (.number first (text.takeWhile Char.isDigit))
        else .fault .numberTooLarge (first :: text.takeWhile Char.isDigit) := by
    split
    · rfl
    · rw [relettered, List.map_cons, digits, hhead.value hfirst]
      rfl
  cases hbehind : text.dropWhile Char.isDigit with
  | nil => exact (inRange _).symm
  | cons next behind =>
      have hnext := htext next ((List.dropWhile_sublist _).subset (hbehind ▸ List.mem_cons_self))
      have ends : (isBlank (f next) || f next = '\n') = (isBlank next || next = '\n') := by
        simp [hnext.blank, hnext.newline]
      rw [List.map_cons]
      dsimp only
      rw [ends]
      split
      · exact (inRange _).symm
      · rw [relettered, List.map_cons, digits, hhead.value hfirst]
        rfl

/-- In text of characters of the same class the same is found. Only what ends a word is asked for
where a word stands, since the symbol of remarks may be punctuation or not. -/
theorem start_relettered (hchars : ∀ c ∈ text, CharAlike symbol other f c)
    (hword : ∀ first word behind, start symbol text = .lexeme (.identifier first word) →
      text = first :: word ++ behind → ∀ c, c ∈ word ∨ behind.head? = some c →
        endsIdentifier (f c) = endsIdentifier c) :
    start other (text.map f) = (start symbol text).relettered f := by
  cases text with
  | nil => rfl
  | cons c rest =>
      obtain ⟨hc, hrest⟩ := List.forall_mem_cons.mp hchars
      rw [start] at hword
      rw [List.map_cons, start, start]
      by_cases hnewline : c = '\n'
      · rw [if_pos hnewline, if_pos (hc.newline.mpr hnewline)]
        rfl
      rw [if_neg hnewline] at hword ⊢
      rw [if_neg (mt hc.newline.mp hnewline)]
      -- The symbol is asked for first, so it does not matter whether it is punctuation as well.
      by_cases hsymbol : .ofChar c = symbol
      · have taken := (@while_map_of_forall f (· ≠ '\n') (· ≠ '\n') rest
          fun c hc => by simp [(hrest c hc).newline]).1
        rw [if_pos hsymbol, if_pos (hc.remark.mpr hsymbol), taken]
        rfl
      rw [if_neg hsymbol] at hword ⊢
      rw [if_neg (mt hc.remark.mp hsymbol), hc.literal hsymbol]
      by_cases hliteral : isLiteral c
      · rw [if_pos hliteral, if_pos hliteral]
        rfl
      rw [if_neg hliteral] at hword ⊢
      rw [if_neg hliteral, hc.quote]
      by_cases hquote : isQuote c
      · rw [if_pos hquote, if_pos hquote]
        exact string_relettered c hrest
      rw [if_neg hquote] at hword ⊢
      rw [if_neg hquote, hc.digit]
      by_cases hdigit : c.isDigit
      · rw [if_pos hdigit, if_pos hdigit]
        exact number_relettered hdigit hchars
      rw [if_neg hdigit] at hword ⊢
      rw [if_neg hdigit, hc.letter]
      by_cases halpha : c.isAlpha
      · rw [if_pos halpha] at hword ⊢
        have ends := hword c _ (rest.dropWhile (!endsIdentifier ·)) rfl
          (congrArg (c :: ·) List.takeWhile_append_dropWhile.symm)
        have taken := (@while_map f (!endsIdentifier ·) (!endsIdentifier ·) rest
          fun c hc => by rw [ends c hc]).1
        rw [if_pos halpha, taken]
        rfl
      · rw [if_neg halpha, if_neg halpha]
        rfl

end Scan

/-- Where the spot has a word, the same characters of it and behind it end words. -/
def Spot.KeepsWord (f : Char → Char) (spot : Spot) : Prop :=
  ∀ first word, spot.scan = .lexeme (.identifier first word) →
    ∀ c, c ∈ word ∨ spot.stop.rest.head? = some c → endsIdentifier (f c) = endsIdentifier c

namespace Cursor

/-- The place stands before the same text in other characters. -/
structure Relettered (symbol other : CodePoint) (f : Char → Char) (c d : Cursor) : Prop where
  line : d.line = c.line
  rest : d.rest = c.rest.map f
  chars : ∀ x ∈ c.rest, CharAlike symbol other f x
  words : ∀ spot ∈ c.spots symbol, spot.KeepsWord f

variable {c d : Cursor}

namespace Relettered

theorem unblanked (h : c.Relettered symbol other f d) :
    d.rest.dropWhile isBlank = (c.rest.dropWhile isBlank).map f := by
  rw [h.rest]
  exact (while_map_of_forall fun x hx => (h.chars x hx).blank).2

theorem scan_eq (h : c.Relettered symbol other f d) :
    (d.spot other).scan = (c.spot symbol).scan.relettered f := by
  rw [scan_spot, scan_spot, h.unblanked]
  refine Scan.start_relettered (fun x hx => h.chars x ((List.dropWhile_sublist _).subset hx)) ?_
  intro first word behind hfound hsplit x hx
  rw [← scan_spot] at hfound
  have here : c.spot symbol ∈ c.spots symbol := by
    rw [spots_of_lexeme hfound (by simp)]
    exact List.mem_cons_self
  refine h.words _ here first word hfound x ?_
  rwa [(stop_eq hfound hsplit).1]

theorem stop (h : c.Relettered symbol other f d) {found : Lexeme}
    (hfound : (c.spot symbol).scan = .lexeme found) (hend : found ≠ .endOfFile) :
    (c.spot symbol).stop.Relettered symbol other f (d.spot other).stop := by
  have behind : ∀ x ∈ (c.spot symbol).stop.rest, x ∈ c.rest := by
    rw [rest_stop]
    exact fun x hx => (List.dropWhile_sublist _).subset (List.mem_of_mem_drop hx)
  have length : (d.spot other).scan.read.length = (c.spot symbol).scan.read.length := by
    rw [h.scan_eq, hfound]
    exact found.length_spelling_relettered
  refine ⟨?_, ?_, fun x hx => h.chars x (behind x hx), fun spot hspot => h.words spot ?_⟩
  · have lines (text : List Char) (htext : ∀ x ∈ text, CharAlike symbol other f x) :
        (text.map f).count '\n' = text.count '\n' := by
      rw [List.count, List.countP_map]
      exact List.countP_congr fun x hx => by simp [(htext x hx).newline]
    rw [line_stop, line_stop, h.line, h.unblanked, length, ← List.map_take, lines]
    exact fun x hx => h.chars x ((List.dropWhile_sublist _).subset (List.mem_of_mem_take hx))
  · rw [rest_stop, rest_stop, h.unblanked, length, List.map_drop]
  · rw [spots_of_lexeme hfound hend]
    exact List.mem_cons_of_mem _ hspot

theorem agrees (h : c.Relettered symbol other f d) :
    c.Agrees symbol other f (Relettered symbol other f) d := by
  have scan := h.scan_eq
  cases hfound : (c.spot symbol).scan with
  | fault cause read =>
      rw [hfound] at scan
      exact .fault hfound scan
  | lexeme found =>
      rw [hfound] at scan
      by_cases hend : found = .endOfFile
      · subst hend
        exact .endOfFile hfound scan
      · exact .lexeme hfound scan hend (mt Lexeme.relettered_eq_endOfFile hend)
          (fun line => found.step?_relettered line) (h.stop hfound hend)

theorem steps_eq (h : c.Relettered symbol other f d) :
    d.steps other =
      ((c.steps symbol).map (List.map (Step.relettered f))).mapError (Diagnostic.relettered f) :=
  steps_of_agrees (fun _ _ h => h.line) (fun _ _ h => h.agrees) h

end Relettered

end Cursor

/-- A text in other characters of the same classes gives the same program in these characters. -/
theorem Program.build_relettered {s t : String} (htext : t.toList = s.toList.map f)
    (hchars : ∀ c ∈ s.toList, CharAlike symbol other f c)
    (hwords : ∀ spot ∈ (Reading.of symbol s).spots, spot.KeepsWord f) :
    build other t = ((build symbol s).map (relettered f)).mapError (Diagnostic.relettered f) := by
  have start : (Cursor.start s).Relettered symbol other f (Cursor.start t) :=
    ⟨rfl, htext, hchars, hwords⟩
  rw [build_eq_steps, build_eq_steps, start.steps_eq]
  cases (Cursor.start s).steps symbol with
  | error d => rfl
  | ok steps => exact congrArg Except.ok (List.map_toArray ..).symm

/-! ## Words that stay -/

namespace Cursor

variable {c : Cursor}

theorem exists_spot_eq {spot : Spot} (h : spot ∈ c.spots symbol) :
    ∃ d : Cursor, spot = d.spot symbol := by
  induction c using Cursor.spots.induct symbol with
  | case1 c hscan =>
      rw [spots_of_endOfFile hscan] at h
      exact ⟨c, List.mem_singleton.mp h⟩
  | case2 c found hscan hfound ih =>
      rw [spots_of_lexeme hscan hfound] at h
      exact (List.mem_cons.mp h).elim (fun h => ⟨c, h⟩) ih
  | case3 c cause read hscan =>
      rw [spots_of_fault hscan] at h
      exact ⟨c, List.mem_singleton.mp h⟩

theorem spelled_of_mem_spots {spot : Spot} (h : spot ∈ c.spots symbol) {found : Lexeme}
    (hfound : spot.scan = .lexeme found) :
    ∃ rest, ∀ line, (found.token line).Spelled symbol found.spelling rest := by
  obtain ⟨d, rfl⟩ := exists_spot_eq h
  have right := Scan.start_right symbol (d.rest.dropWhile isBlank)
  rw [← scan_spot, hfound] at right
  obtain ⟨rest, -, spelled⟩ := right
  exact ⟨rest, spelled⟩

theorem word_of_mem_spots {spot : Spot} (h : spot ∈ c.spots symbol) {first : Char}
    {word : List Char} (hword : spot.scan = .lexeme (.identifier first word)) :
    first.isAlpha ∧ ∀ c ∈ first :: word, ¬ endsIdentifier c := by
  obtain ⟨rest, spelled⟩ := spelled_of_mem_spots h hword
  have spelled := spelled 0
  generalize htoken : (Lexeme.identifier first word).token 0 = token at spelled
  have kind : token.kind = .identifier := htoken ▸ rfl
  cases spelled with
  | identifier hfirst hgoes => exact ⟨hfirst, hgoes⟩
  | endOfLine | comment | literal | string | number => cases kind

end Cursor

theorem Spot.step_relettered {spot : Spot} {step : Step} (h : spot.step? = some step)
    (hword : ∀ first word, spot.scan = .lexeme (.identifier first word) →
      ∀ c ∈ first :: word, f c = c) :
    step.relettered f = step := by
  obtain ⟨start, scan⟩ := spot
  cases scan with
  | fault cause read => cases h
  | lexeme found =>
      cases found with
      | endOfFile | endOfLine | comment | literal | string => cases h
      | number first rest =>
          cases h
          rfl
      | identifier first rest =>
          have same : (first :: rest).map f = first :: rest :=
            (List.map_congr_left (hword first rest rfl)).trans (List.map_id _)
          have found : step = ⟨.identifier, start.line, String.ofList (first :: rest), 0⟩ :=
            (Option.some.inj h).symm
          rw [found, Step.relettered, String.toList_ofList, same]

namespace Program

theorem relettered_eq {source : String} {program : Program}
    (h : build symbol source = .ok program)
    (hwords : ∀ spot ∈ (Reading.of symbol source).spots, ∀ first word,
      spot.scan = .lexeme (.identifier first word) → ∀ c ∈ first :: word, f c = c) :
    program.relettered f = program := by
  rw [build_eq_steps] at h
  cases hsteps : (Cursor.start source).steps symbol with
  | error d =>
      rw [hsteps] at h
      cases h
  | ok steps =>
      rw [hsteps] at h
      cases h
      refine (List.map_toArray ..).trans (congrArg List.toArray ?_)
      refine (List.map_congr_left fun step hstep => ?_).trans (List.map_id _)
      obtain ⟨spot, hspot, hstep⟩ := Cursor.exists_spot_of_mem_steps hsteps hstep
      exact spot.step_relettered hstep (hwords spot hspot)

end Program

end TurtleGraphics
