import TurtleGraphics.Proofs.Compiler.Output
import TurtleGraphics.Proofs.Execution.Dispatch
import TurtleGraphics.Interpreter
import TurtleGraphics.Proofs.Program.Layout
import TurtleGraphics.Proofs.Settings.Raising
import TurtleGraphics.Proofs.Token.Seam

/-! # Settings that are read can be used

Data of any shape is refused, or cannot be printed, or gives settings for which every reader,
compiler and interpreter can be made. Whatever the data names as the comment symbol, remarks begin
with it on every lexer run.
-/

namespace TurtleGraphics

namespace Lexer

variable {l : Lexer}

/-- Only the end of the text finishes a lexer. -/
theorem rest_next (h : l.finished = true → l.cursor.rest = [])
    (hfinished : l.next.2.finished = true) :
    l.next.2.cursor.rest = [] := by
  cases hopen : l.finished with
  | true =>
      have stays : l.next.2 = l := by simp [next, spot?, hopen]
      rw [stays]
      exact h hopen
  | false =>
      simp only [next, spot?, hopen, Bool.false_eq_true, if_false, beq_iff_eq] at hfinished ⊢
      have right := Scan.start_right l.symbol l.cursor.skipBlanks.rest
      simp only [Cursor.spot] at hfinished
      rw [hfinished] at right
      obtain ⟨rest, hrest, spelled⟩ := right
      cases spelled 0
      simp [Spot.stop, Cursor.spot, Cursor.advance, hrest, Lexeme.spelling]

theorem rest_after (symbol : CodePoint) (source : String) (calls : Nat)
    (hfinished : ((start symbol source).after calls).finished = true) :
    ((start symbol source).after calls).cursor.rest = [] := by
  induction calls with
  | zero => cases hfinished
  | succ calls ih =>
      rw [after_succ] at hfinished ⊢
      exact rest_next ih hfinished

/-- Behind blanks the symbol begins a remark, on the line where the blanks are. -/
theorem next_remark (hsymbol : l.symbol.Unreserved) (hopen : l.finished = false)
    {blanks rest : List Char}
    {first : Char} (hblanks : ∀ c ∈ blanks, isBlank c) (hfirst : .ofChar first = l.symbol)
    (hrest : l.cursor.rest = blanks ++ first :: rest) :
    l.next.1 =
      .ok ⟨.comment, l.cursor.line, String.ofList (first :: rest.takeWhile (· ≠ '\n')), 0⟩ := by
  obtain ⟨-, hblank, hnewline, -⟩ := hsymbol first hfirst
  have skipped : l.cursor.skipBlanks.rest = first :: rest := by
    rw [Cursor.rest_skipBlanks, hrest]
    exact (Scan.takeWhile_append_eq hblanks (by simpa using hblank)).2
  have scanned : Scan.start l.symbol (first :: rest) =
      .lexeme (.comment first (rest.takeWhile (· ≠ '\n'))) := by
    rw [Scan.start, if_neg hnewline, if_pos hfirst]
  have here : l.spot? =
      some ⟨l.cursor.skipBlanks, .lexeme (.comment first (rest.takeWhile (· ≠ '\n')))⟩ := by
    rw [spot?, hopen, Cursor.spot, skipped, scanned]
    rfl
  rw [← Cursor.line_skipBlanks, next, here]
  rfl

end Lexer

theorem LexerSettings.read_ne_symbol {settings : LexerSettings} {symbol : CodePoint}
    (h : Lexer.symbol? settings.commentSymbol = .ok symbol) (source : String)
    (fault : SymbolFault) :
    (settings.read source).program ≠ .error (.symbol fault) := by
  unfold read
  rw [h]
  dsimp only
  cases (Reading.of symbol source).program <;> simp

namespace Compilation

variable {fault : SourceFault}

theorem refusal_ne_source (i : Instruction) (cause : SinkFault) :
    refusal i cause ≠ .source fault := by
  unfold refusal
  split <;> nofun

theorem writeAll_ne_source (instructions : List Instruction) (c : Compilation) :
    (writeAll instructions c).2 ≠ some (.source fault) := by
  induction instructions generalizing c with
  | nil => nofun
  | cons i rest ih =>
      unfold writeAll
      dsimp only
      split
      · exact fun h => refusal_ne_source i _ (Option.some.inj h)
      · exact ih _

theorem ofWalk_ne_source (walk : Walk) (start : Compilation) :
    (ofWalk walk start).2 ≠ some (.source fault) := by
  have written := @writeAll_ne_source fault walk.instructions start
  unfold ofWalk
  split
  · rename_i hwrite
    rwa [hwrite] at written
  · split <;> nofun

end Compilation

theorem Compiler.read_of_compileTo {compiler : Compiler} {source : String} {sink : Sink}
    {fault : SourceFault} (h : (compiler.compileTo source sink).fault = some (.source fault)) :
    (compiler.settings.lexer.read source).program = .error fault := by
  unfold compileTo at h
  split at h
  · rename_i hread
    rw [hread]
    cases h
    rfl
  · rename_i p notices hread
    exfalso
    have compiled :=
      @Compilation.ofWalk_ne_source fault (p.walk compiler.settings.engine.maxRepeat) (.start sink)
    rw [Compiler.compileProgram_eq] at h
    generalize Compilation.ofWalk (p.walk compiler.settings.engine.maxRepeat) (.start sink) =
      walked at h compiled
    obtain ⟨c, _ | cause⟩ := walked
    · cases h
    · exact compiled h

namespace Settings

/-- What holds of settings that are read. -/
structure Sound (settings : Settings) (entries : Entries) : Prop extends Checked settings where
  /-- One character, and none of those that programs or other scripts use otherwise. -/
  commentSymbol : ∃ point, settings.lexer.commentSymbol = [point] ∧ point.Plain
  level : ∃ level ∈ Level.all, settings.logging.level = level.name
  /-- Each color is listed, or has its standard. -/
  palette : ∃ sec, Section.of entries "palette" = .ok sec ∧ ∀ color,
    Section.Lists sec.entries color (settings.palette color) ∨
      (∀ entry ∈ sec.entries, Section.colorOf entry ≠ some color) ∧
        settings.palette color = Palette.standard color

variable {settings : Settings} {entries : Entries}

theorem ReadFrom.sound (h : settings.ReadFrom entries) (hchecked : settings.Checked) :
    settings.Sound entries := by
  obtain ⟨_, -, hlexer⟩ := h.lexer
  obtain ⟨_, -, hlogging⟩ := h.logging
  obtain ⟨sec, hsec, hpalette⟩ := h.palette
  exact ⟨hchecked, Section.commentSymbol_of_lexer hlexer, Section.level_of_logging hlogging,
    sec, hsec, Section.paletteWith_ok hpalette⟩

/-- Whatever the data, its reading raises a fault with a message, or raises that something of the
    data cannot be printed, or gives sound settings. With these, source text can always be read up
    to its own faults, stacks and interpreters can be made as far as there is memory, and whenever a
    lexer comes to the comment symbol, behind blanks or not, the next token is a remark. -/
theorem parse_sound (nesting : Nat) (data : Datum) :
    (∃ fault, parse nesting data = .error (.fault fault) ∧ ofDatum data = .error fault ∧
      fault.printFault? nesting = none) ∨
    (∃ unprinted, parse nesting data = .error (.printing unprinted) ∧
      data.printFault? nesting ≠ none) ∨
    ∃ settings entries symbol, parse nesting data = .ok settings ∧ Holds entries data ∧
      settings.Sound entries ∧ Lexer.symbol? settings.lexer.commentSymbol = .ok symbol ∧
      (∀ source fault, (settings.lexer.read source).program ≠ .error (.symbol fault)) ∧
      (∀ trace source sink fault, ((Compiler.start settings trace).compileTo source sink).fault ≠
        some (.source (.symbol fault))) ∧
      (∀ memory : Memory, 8 * settings.engine.stackCapacity ≤ memory.bytes →
        LoopStack.ofCapacity settings.engine.stackCapacity memory =
          .ok ⟨settings.engine.stackCapacity.toNat, [], []⟩ ∧
        ∀ trace surface, ∃ interpreter,
          Interpreter.start settings trace surface memory = .ok interpreter) ∧
      ∀ source calls blanks first rest,
        let lexer := (Lexer.start symbol source).after calls
        (∀ c ∈ blanks, isBlank c) → .ofChar first = symbol →
          lexer.cursor.rest = blanks ++ first :: rest →
          lexer.next.1 =
            .ok ⟨.comment, lexer.cursor.line,
              String.ofList (first :: rest.takeWhile (· ≠ '\n')), 0⟩ := by
  have raises := raises_parse nesting data
  generalize hparse : parse nesting data = parsed at raises
  generalize hread : ofDatum data = read at raises
  cases raises with
  | fault printed => exact .inl ⟨_, rfl, rfl, printed⟩
  | printing unprinted => exact .inr (.inl ⟨_, rfl, unprinted⟩)
  | ok settings =>
      obtain ⟨entries, holds, read, checked⟩ := readFrom_of_ofDatum hread
      have sound := read.sound checked
      obtain ⟨symbol, hsymbol, plain⟩ := sound.commentSymbol
      have single : Lexer.symbol? settings.lexer.commentSymbol = .ok symbol := by
        rw [hsymbol]
        rfl
      have readable := LexerSettings.read_ne_symbol single
      refine .inr
        (.inr ⟨settings, entries, symbol, rfl, holds, sound, single, readable, ?_, ?_, ?_⟩)
      · exact fun trace source sink fault h => readable source fault (Compiler.read_of_compileTo h)
      · intro memory hmemory
        have stack := LoopStack.ofCapacity_ok checked.stackCapacity.1 hmemory
        refine ⟨stack, fun trace surface => ?_⟩
        unfold Interpreter.start
        rw [stack]
        exact ⟨_, rfl⟩
      · intro source calls blanks first rest lexer hblanks hfirst hrest
        have same : lexer.symbol = symbol := Lexer.symbol_after _ calls
        have opened : lexer.finished = false := by
          by_contra finished
          have none := Lexer.rest_after symbol source calls (by simpa using finished)
          rw [hrest] at none
          simp at none
        subst hfirst
        exact Lexer.next_remark (same ▸ plain.unreserved) opened hblanks same.symm hrest

/-- Red is listed twice, in letters of different size. -/
def twice : Datum :=
  .mapping [
    ("palette",
      .mapping [("red", .list [.int 1, .int 2, .int 3]), ("RED", .list [.int 4, .int 5, .int 6])]),
    ("lexer", .mapping [("comment_symbol", .text ";")]),
    ("engine", .mapping [("stack_capacity", .int 2)])]

/-- The second entry counts, the stack has two slots, and a semicolon behind a blank begins a
    remark. -/
theorem parse_sound_twice :
    ∃ settings, parse 3 twice = .ok settings ∧ settings.palette .red = ⟨4, 5, 6⟩ ∧
      LoopStack.ofCapacity settings.engine.stackCapacity .standard = .ok ⟨2, [], []⟩ ∧
      (Lexer.start (.ofChar ';') " ; 5").next.1 = .ok ⟨.comment, 1, "; 5", 0⟩ := by
  have given : ofDatum twice = .ok {
      palette := (Palette.standard.set .red ⟨1, 2, 3⟩).set .red ⟨4, 5, 6⟩
      lexer := { commentSymbol := ";" }
      engine := { stackCapacity := 2 } } := by cbv
  have whole : twice.printFault? 3 = none := by decide +kernel
  obtain ⟨fault, -, hfault, -⟩ | ⟨unprinted, -, hunprinted⟩ |
    ⟨settings, entries, symbol, hread, -, -, hsymbol, -, -, fits, remarks⟩ := parse_sound 3 twice
  · rw [given] at hfault
    cases hfault
  · exact absurd whole hunprinted
  · have raises := raises_parse 3 twice
    rw [given, hread] at raises
    cases raises
    obtain rfl : symbol = .ofChar ';' := (Except.ok.inj hsymbol).symm
    obtain ⟨stack, -⟩ := fits .standard (by decide)
    have remark := remarks " ; 5" 0 [' '] ';' [' ', '5'] (by simp [isBlank]) rfl rfl
    exact ⟨_, hread, rfl, stack, remark⟩

theorem parse_width (nesting : Nat) {width : Int} (hwidth : width ≤ 0) :
    parse nesting (.mapping [("canvas", .mapping [("width_px", .int width)])]) =
      .error (SettingsFault.raised nesting (.canvasNotPositive width 480)) := by
  have refused : check { canvas := { width } } = .error (.canvasNotPositive width 480) :=
    if_pos (.inl hwidth)
  exact congrArg (Except.mapError (SettingsFault.raised nesting)) refused

/-- The message about a width of so many digits would have to show it. -/
theorem parse_unprintable :
    parse 900 (.mapping [("canvas", .mapping [("width_px", .int (-10 ^ 4300))])]) =
      .error (.printing .tooManyDigits) := by
  have digits : PrintFault.ofInt? (-10 ^ 4300) = some .tooManyDigits := by decide +kernel
  rw [parse_width 900 (by decide +kernel), SettingsFault.raised, SettingsFault.printFault?,
    SettingsFault.shown, List.findSome?_cons, Datum.printFault?, digits]
  rfl

end Settings

end TurtleGraphics
