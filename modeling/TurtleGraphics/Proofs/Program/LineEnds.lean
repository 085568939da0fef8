import TurtleGraphics.Proofs.Interpreter.History
import TurtleGraphics.Proofs.Token.Relettering

/-! # Carriage returns before newlines

Some systems end a line with a carriage return and a newline. The carriage return is a blank, so it
ends a number or a word just as the newline does, it is passed where the next lexeme is looked for,
and inside of remarks and quoted text it is not told on. A text with such line ends is the same
program, or has the same fault.
-/

namespace TurtleGraphics

/-- The characters with a carriage return before each newline. -/
def withReturns (text : List Char) : List Char :=
  text.flatMap fun c => if c = '\n' then ['\r', '\n'] else [c]

def Text.withReturns (text : String) : String :=
  String.ofList (TurtleGraphics.withReturns text.toList)

variable {symbol : CodePoint} {text : List Char}

theorem withReturns_newline (rest : List Char) :
    withReturns ('\n' :: rest) = '\r' :: '\n' :: withReturns rest := rfl

theorem withReturns_cons {c : Char} (hc : c ≠ '\n') (rest : List Char) :
    withReturns (c :: rest) = c :: withReturns rest := by
  simp [withReturns, hc]

theorem count_newline_withReturns (text : List Char) :
    (withReturns text).count '\n' = text.count '\n' := by
  induction text with
  | nil => rfl
  | cons c rest ih =>
      by_cases hc : c = '\n'
      · subst hc
        rw [withReturns_newline, List.count_cons_of_ne (by decide), List.count_cons_self,
          List.count_cons_self, ih]
      · rw [withReturns_cons hc, List.count_cons_of_ne hc, List.count_cons_of_ne hc, ih]

theorem dropWhile_isBlank_withReturns (text : List Char) :
    (withReturns text).dropWhile isBlank =
      match text.dropWhile isBlank with
      | [] => []
      | first :: rest => first :: withReturns rest := by
  induction text with
  | nil => rfl
  | cons c rest ih =>
      by_cases hnewline : c = '\n'
      · subst hnewline
        rfl
      · rw [withReturns_cons hnewline]
        by_cases hblank : isBlank c
        · rw [List.dropWhile_cons_of_pos hblank, List.dropWhile_cons_of_pos hblank, ih]
        · rw [List.dropWhile_cons_of_neg hblank, List.dropWhile_cons_of_neg hblank]

theorem while_withReturns_of_stops {p : Char → Bool} (hnewline : ¬ p '\n') (hreturn : ¬ p '\r')
    (text : List Char) :
    (withReturns text).takeWhile p = text.takeWhile p ∧
      (withReturns text).dropWhile p = withReturns (text.dropWhile p) := by
  induction text with
  | nil => exact ⟨rfl, rfl⟩
  | cons c rest ih =>
      by_cases hc : c = '\n'
      · subst hc
        simp [withReturns_newline, hnewline, hreturn]
      · by_cases hp : p c
        · simpa [withReturns_cons hc, hp] using ih
        · simp [withReturns_cons hc, hp]

theorem while_withReturns_of_goes {p : Char → Bool} (hnewline : p '\n') (hreturn : p '\r')
    (text : List Char) :
    (withReturns text).takeWhile p = withReturns (text.takeWhile p) ∧
      (withReturns text).dropWhile p = withReturns (text.dropWhile p) := by
  induction text with
  | nil => exact ⟨rfl, rfl⟩
  | cons c rest ih =>
      by_cases hc : c = '\n'
      · subst hc
        simpa [withReturns_newline, hnewline, hreturn] using ih
      · by_cases hp : p c
        · simpa [withReturns_cons hc, hp] using ih
        · rw [withReturns_cons hc, List.takeWhile_cons_of_neg hp, List.takeWhile_cons_of_neg hp,
            List.dropWhile_cons_of_neg hp, List.dropWhile_cons_of_neg hp, withReturns_cons hc]
          exact ⟨rfl, rfl⟩

/-- A remark takes the carriage return before its newline with it, and up to blanks the same is
    left. -/
theorem dropWhile_remark_withReturns (text : List Char) :
    ((withReturns text).dropWhile (· ≠ '\n')).dropWhile isBlank =
      (withReturns (text.dropWhile (· ≠ '\n'))).dropWhile isBlank := by
  induction text with
  | nil => rfl
  | cons c rest ih =>
      by_cases hc : c = '\n'
      · subst hc
        rfl
      · simpa [withReturns_cons hc, hc] using ih

namespace Scan

/-- In a text and in the one with carriage returns the same is found: lexemes of the same step and
as many lines, behind which the texts are again the same but for carriage returns, or the same
fault. -/
inductive Keeps (text text' : List Char) : Scan → Scan → Prop where
  | lexeme {found found' : Lexeme} (behind behind' : List Char) :
      found ≠ .endOfFile → found' ≠ .endOfFile →
      text = found.spelling ++ behind → text' = found'.spelling ++ behind' →
      found'.spelling.count '\n' = found.spelling.count '\n' →
      (∀ line, found'.step? line = found.step? line) →
      behind'.dropWhile isBlank = (withReturns behind).dropWhile isBlank →
      Keeps text text' (.lexeme found) (.lexeme found')
  | fault {cause : LexicalFault} {read read' : List Char} :
      Keeps text text' (.fault cause read) (.fault cause read')

theorem Keeps.same {found : Lexeme} {text text' : List Char} (behind : List Char)
    (hfound : found ≠ .endOfFile) (htext : text = found.spelling ++ behind)
    (htext' : text' = found.spelling ++ withReturns behind) :
    Keeps text text' (.lexeme found) (.lexeme found) :=
  .lexeme behind (withReturns behind) hfound hfound htext htext' rfl (fun _ => rfl) rfl

theorem string_keeps (opening : Char) (rest : List Char) :
    Keeps (opening :: rest) (opening :: withReturns rest) (string opening rest)
      (string opening (withReturns rest)) := by
  obtain ⟨taken, left⟩ := while_withReturns_of_goes (p := (!isQuote ·)) (by decide) (by decide) rest
  obtain ⟨hsplit, -, hclosing⟩ := takeWhile_spec (!isQuote ·) rest
  have hsplit' := (takeWhile_spec (!isQuote ·) (withReturns rest)).1
  rw [string, string, taken, left]
  rw [taken, left] at hsplit'
  cases hbehind : rest.dropWhile (!isQuote ·) with
  | nil => exact .fault
  | cons closing behind =>
      have hquote : closing ≠ '\n' := by
        rintro rfl
        exact hclosing '\n' (by rw [hbehind]; rfl) (by decide)
      rw [hbehind] at hsplit hsplit'
      rw [withReturns_cons hquote] at hsplit' ⊢
      refine .lexeme behind (withReturns behind) (by simp) (by simp) ?_ ?_ ?_ (fun _ => rfl) rfl
      · simp [Lexeme.spelling, ← hsplit]
      · simp [Lexeme.spelling, ← hsplit']
      · simp [Lexeme.spelling, List.count_cons, count_newline_withReturns]

theorem number_keeps (first : Char) (rest : List Char) :
    Keeps (first :: rest) (first :: withReturns rest) (number first rest)
      (number first (withReturns rest)) := by
  obtain ⟨taken, left⟩ :=
    while_withReturns_of_stops (p := Char.isDigit) (by decide) (by decide) rest
  obtain ⟨hsplit, -, -⟩ := takeWhile_spec Char.isDigit rest
  have hsplit' := (takeWhile_spec Char.isDigit (withReturns rest)).1
  rw [taken, left] at hsplit'
  have inRange : Keeps (first :: rest) (first :: withReturns rest)
      (if Lexeme.valueOf (first :: rest.takeWhile Char.isDigit) ≤ maxNumber then
        .lexeme (.number first (rest.takeWhile Char.isDigit))
      else .fault .numberTooLarge (first :: rest.takeWhile Char.isDigit))
      (if Lexeme.valueOf (first :: rest.takeWhile Char.isDigit) ≤ maxNumber then
        .lexeme (.number first (rest.takeWhile Char.isDigit))
      else .fault .numberTooLarge (first :: rest.takeWhile Char.isDigit)) := by
    split
    · exact .same _ (by simp) (congrArg (first :: ·) hsplit) (congrArg (first :: ·) hsplit')
    · exact .fault
  rw [number, number, taken, left]
  cases rest.dropWhile Char.isDigit with
  | nil => exact inRange
  | cons next behind =>
      by_cases hnext : next = '\n'
      · subst hnext
        exact inRange
      · rw [withReturns_cons hnext]
        dsimp only
        split
        · exact inRange
        · exact .fault

theorem start_keeps (symbol : CodePoint) (first : Char) (rest : List Char) :
    Keeps (first :: rest) (first :: withReturns rest) (start symbol (first :: rest))
      (start symbol (first :: withReturns rest)) := by
  rw [start, start]
  split_ifs with hnewline hsymbol hliteral hquote hdigit halpha
  · subst hnewline
    exact .same rest (by simp) rfl rfl
  · -- The last carriage return belongs to the remark.
    obtain ⟨hsplit, hremark, -⟩ := takeWhile_spec (· ≠ '\n') rest
    obtain ⟨hsplit', hremark', -⟩ := takeWhile_spec (· ≠ '\n') (withReturns rest)
    refine .lexeme _ _ (by simp) (by simp) (congrArg (first :: ·) hsplit)
      (congrArg (first :: ·) hsplit') ?_ (fun _ => rfl)
      (dropWhile_remark_withReturns rest)
    have single (text : List Char) (htext : ∀ c ∈ text, (c ≠ '\n' : Bool)) : text.count '\n' = 0 :=
      List.count_eq_zero.mpr fun hmem => by simpa using htext _ hmem
    rw [Lexeme.spelling, Lexeme.spelling, List.count_cons, List.count_cons, single _ hremark,
      single _ hremark']
  · exact .same rest (by simp) rfl rfl
  · exact string_keeps first rest
  · exact number_keeps first rest
  · obtain ⟨taken, left⟩ :=
      while_withReturns_of_stops (p := (!endsIdentifier ·)) (by decide) (by decide) rest
    rw [taken]
    refine .same (rest.dropWhile (!endsIdentifier ·)) (by simp) ?_ ?_
    · exact congrArg (first :: ·) (takeWhile_spec _ rest).1
    · rw [← left, Lexeme.spelling, ← taken]
      exact congrArg (first :: ·) (takeWhile_spec _ (withReturns rest)).1
  · exact .fault

end Scan

namespace Cursor

/-- The place stands before the same text with carriage returns, up to blanks. -/
structure Returned (c d : Cursor) : Prop where
  line : d.line = c.line
  rest : d.rest.dropWhile isBlank = (withReturns c.rest).dropWhile isBlank

variable {c d : Cursor}

theorem Returned.agrees (h : c.Returned d) (symbol : CodePoint) :
    c.Agrees symbol symbol id Returned d := by
  have text := h.rest
  rw [dropWhile_isBlank_withReturns] at text
  have scan := scan_spot symbol c
  have scan' := scan_spot symbol d
  cases hrest : c.rest.dropWhile isBlank with
  | nil =>
      rw [hrest] at text scan
      rw [text] at scan'
      exact .endOfFile scan scan'
  | cons first rest =>
      rw [hrest] at text scan
      rw [text] at scan'
      have keeps := Scan.start_keeps symbol first rest
      rw [← scan, ← scan'] at keeps
      generalize hfound : (c.spot symbol).scan = found at keeps
      generalize hfound' : (d.spot symbol).scan = found' at keeps
      cases keeps with
      | fault => exact .fault hfound (by rw [hfound', LexicalFault.relettered_id])
      | lexeme behind behind' hend hend' hsplit hsplit' hcount hstep hbehind =>
          obtain ⟨stop, line⟩ := stop_eq hfound (hrest.trans hsplit)
          obtain ⟨stop', line'⟩ := stop_eq hfound' (text.trans hsplit')
          refine .lexeme hfound hfound' hend hend' (fun line => ?_) ⟨?_, ?_⟩
          · rw [hstep, funext Step.relettered_id, Option.map_id']
          · rw [line', line, h.line, hcount]
          · rw [stop', stop, hbehind]

end Cursor

/-- Carriage returns before newlines change neither the program of a text nor its fault. -/
theorem Program.build_withReturns (symbol : CodePoint) (source : String) :
    build symbol (Text.withReturns source) = build symbol source := by
  have start : (Cursor.start source).Returned (Cursor.start (Text.withReturns source)) := by
    refine ⟨rfl, ?_⟩
    simp [Cursor.start, Text.withReturns]
  have steps := Cursor.steps_of_agrees (fun _ _ h => h.line)
    (fun _ _ h => Cursor.Returned.agrees h symbol) start
  rw [build_eq_steps, build_eq_steps, steps]
  cases (Cursor.start source).steps symbol with
  | ok steps =>
      exact congrArg (Except.ok ∘ List.toArray) (by rw [funext Step.relettered_id, List.map_id'])
  | error d => exact congrArg Except.error d.relettered_id

theorem LexerSettings.read_withReturns (settings : LexerSettings) (source : String) :
    (settings.read (Text.withReturns source)).program = (settings.read source).program := by
  have told (symbol : CodePoint) (text : String) :
      (Reading.of symbol text).program = Program.build symbol text := rfl
  unfold read
  cases Lexer.symbol? settings.commentSymbol with
  | error fault => rfl
  | ok symbol =>
      dsimp only
      rw [told, told, Program.build_withReturns]
      cases Program.build symbol source <;> rfl

/-- Where each newline has a carriage return before it, a text has the same program or the same
fault, whatever starts its remarks. So it is compiled and run alike, by every engine and under all
settings. -/
theorem engines_pass_carriage_returns (source : String) :
    (∀ symbol, Program.build symbol (Text.withReturns source) = Program.build symbol source) ∧
    (∀ settings, compileSource settings (Text.withReturns source) = compileSource settings source) ∧
    (∀ (compiler : Compiler) (sink : Sink),
      let returned := compiler.compileTo (Text.withReturns source) sink
      let plain := compiler.compileTo source sink
      returned.fault = plain.fault ∧ returned.compiler = plain.compiler ∧
      returned.sink = plain.sink) ∧
    ∀ interpreter : Interpreter,
      let returned := interpreter.run (Text.withReturns source)
      let plain := interpreter.run source
      returned.fault = plain.fault ∧ returned.interpreter = plain.interpreter := by
  have compiled (compiler : Compiler) (sink : Sink) :=
    compiler.compileTo_of_read (compiler.settings.lexer.read_withReturns source) sink
  refine ⟨fun symbol => Program.build_withReturns symbol source, fun settings =>
    ?_, compiled, fun interpreter => ?_⟩
  · obtain ⟨hfault, -, hsink⟩ := compiled (.start settings none) {}
    simp only [compileSource, hfault, hsink]
  · exact interpreter.run_of_read (interpreter.settings.lexer.read_withReturns source)

end TurtleGraphics
