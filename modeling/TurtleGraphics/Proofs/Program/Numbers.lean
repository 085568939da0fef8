import TurtleGraphics.Printing.Engine
import TurtleGraphics.Proofs.Program.Grammar
import TurtleGraphics.Proofs.Token.Relettering
import TurtleGraphics.Proofs.Token.Seam

/-! # The numbers of a program

Text has no number beyond the bound, and no line beyond its length. A diagnostic shows a number of
the program, a line, and at one place the limit of the settings. So where the program can be
printed, nothing but that limit keeps a diagnostic from being printed.
-/

namespace TurtleGraphics

variable {settings : Settings} {p : Program} {limit : Int} {index : Nat} {i : Instruction}
  {step : Step}

/-! ## Numbers that were read -/

theorem Token.Spelled.number_le {symbol : CodePoint} {token : Token} {span rest : List Char}
    (h : token.Spelled symbol span rest) : token.number.natAbs ≤ maxNumber := by
  cases h with
  | number _ _ _ small => exact small
  | endOfFile | endOfLine | comment | literal | string | identifier => exact Nat.zero_le _

theorem Spot.number_of_step? {spot : Spot} (h : spot.step? = some step) :
    ∃ found line, spot.scan = .lexeme found ∧ step.number = (found.token line).number := by
  obtain ⟨start, scan⟩ := spot
  cases scan with
  | fault cause read => cases h
  | lexeme found =>
      cases found with
      | number | identifier =>
          cases h
          exact ⟨_, start.line, rfl, rfl⟩
      | endOfFile | endOfLine | comment | literal | string => cases h

theorem Program.number_of_build {symbol : CodePoint} {source : String}
    (h : build symbol source = .ok p)
    (hstep : step ∈ p.toList) : step.number.natAbs ≤ maxNumber := by
  rw [build_eq_steps] at h
  cases hsteps : (Cursor.start source).steps symbol with
  | error d =>
      rw [hsteps] at h
      cases h
  | ok steps =>
      rw [hsteps] at h
      cases h
      obtain ⟨spot, hspot, hfound⟩ := Cursor.exists_spot_of_mem_steps hsteps hstep
      obtain ⟨found, line, hscan, hnumber⟩ := Spot.number_of_step? hfound
      obtain ⟨rest, spelled⟩ := Cursor.spelled_of_mem_spots hspot hscan
      rw [hnumber]
      exact (spelled line).number_le

theorem LexerSettings.exists_build_of_read {lexer : LexerSettings} {source : String}
    (h : (lexer.read source).program = .ok p) : ∃ symbol, Program.build symbol source = .ok p := by
  unfold read at h
  split at h
  · cases h
  · rename_i symbol _
    refine ⟨symbol, ?_⟩
    dsimp only at h
    rw [Program.build]
    split at h
    · cases h
    · rename_i q hread
      cases h
      exact hread

theorem LexerSettings.number_of_read {lexer : LexerSettings} {source : String}
    (h : (lexer.read source).program = .ok p) (hstep : step ∈ p.toList) :
    step.number.natAbs ≤ maxNumber := by
  obtain ⟨symbol, hbuild⟩ := exists_build_of_read h
  exact Program.number_of_build hbuild hstep

/-! ## Lines that were read -/

namespace Cursor

variable {symbol : CodePoint} {c : Cursor}

theorem line_le_lastLine (c : Cursor) : c.line ≤ c.lastLine :=
  Nat.le_add_right _ _

theorem line_le_of_tokens {tokens : List Token} (h : c.tokens symbol = .ok tokens) :
    ∀ token ∈ tokens, token.line.natAbs ≤ c.lastLine := by
  induction c using Cursor.spots.induct symbol generalizing tokens with
  | case1 c hscan =>
      rw [tokens_of_endOfFile hscan] at h
      cases h
      exact List.forall_mem_nil _
  | case2 c found hscan hfound ih =>
      rw [tokens_of_lexeme hscan hfound] at h
      cases hstop : (c.spot symbol).stop.tokens symbol with
      | error d =>
          rw [hstop] at h
          cases h
      | ok behind =>
          rw [hstop] at h
          cases h
          intro token hmem
          rcases List.mem_cons.mp hmem with rfl | hmem
          · have here : (found.token c.line).line = c.line := by cases found <;> rfl
            rw [here, Int.natAbs_natCast]
            exact c.line_le_lastLine
          · rw [← lastLine_stop symbol c]
            exact ih hstop token hmem
  | case3 c cause read hscan =>
      rw [tokens_of_fault hscan] at h
      cases h

theorem line_le_of_fault {d : Diagnostic} (h : c.tokens symbol = .error d) :
    ∃ (fault : LexicalFault) (line : Int), d = ⟨.lexical fault, some line⟩ ∧
    line.natAbs ≤ c.lastLine := by
  induction c using Cursor.spots.induct symbol with
  | case1 c hscan =>
      rw [tokens_of_endOfFile hscan] at h
      cases h
  | case2 c found hscan hfound ih =>
      rw [tokens_of_lexeme hscan hfound] at h
      rw [← lastLine_stop symbol c]
      cases hstop : (c.spot symbol).stop.tokens symbol with
      | error d' =>
          rw [hstop] at h
          cases h
          exact ih hstop
      | ok behind =>
          rw [hstop] at h
          cases h
  | case3 c cause read hscan =>
      rw [tokens_of_fault hscan] at h
      cases h
      exact ⟨cause, c.line, rfl, c.line_le_lastLine⟩

theorem lastLine_start_le (source : String) : (start source).lastLine ≤ source.length + 1 := by
  have few : source.toList.count '\n' ≤ source.toList.length := List.count_le_length
  rw [String.length_toList] at few
  simp only [lastLine, start]
  omega

end Cursor

namespace Program

theorem line_le_of_build {symbol : CodePoint} {source : String} (h : build symbol source = .ok p)
    (hstep : step ∈ p.toList) : step.line.natAbs ≤ source.length + 1 := by
  obtain ⟨tokens, htokens, rfl⟩ := tokenize_of_build h
  simp only [ofTokens, List.mem_filterMap] at hstep
  obtain ⟨token, hmem, htoken⟩ := hstep
  have line : step.line = token.line := by
    obtain ⟨kind, line, text, number⟩ := token
    cases kind <;> cases htoken <;> rfl
  rw [line]
  exact (Cursor.line_le_of_tokens htokens token hmem).trans (Cursor.lastLine_start_le source)

theorem line_le_of_build_error {symbol : CodePoint} {source : String} {d : Diagnostic}
    (h : build symbol source = .error d) :
    ∃ (fault : LexicalFault) (line : Int), d = ⟨.lexical fault, some line⟩ ∧
      line.natAbs ≤ source.length + 1 := by
  obtain ⟨fault, line, hd, hline⟩ := Cursor.line_le_of_fault (tokenize_of_build_error h)
  exact ⟨fault, line, hd, hline.trans (Cursor.lastLine_start_le source)⟩

theorem line_of_readAt (h : p.readAt limit index = some (.ok i)) :
    ∃ step ∈ p.toList, i.line = step.line := by
  obtain ⟨word, hword, hread⟩ := Option.map_eq_some_iff.mp h
  refine ⟨word, Array.mem_toList_iff.mpr (Array.mem_of_getElem? hword), ?_⟩
  unfold instruction at hread
  split at hread
  · cases hread
  · split at hread <;> cases hread
    rfl

end Program

/-! ## How long a program is -/

theorem Cursor.length_tokens_le {symbol : CodePoint} {c : Cursor} {tokens : List Token}
    (h : c.tokens symbol = .ok tokens) : tokens.length ≤ c.rest.length := by
  induction c using Cursor.spots.induct symbol generalizing tokens with
  | case1 c hscan =>
      rw [tokens_of_endOfFile hscan] at h
      cases h
      exact Nat.zero_le _
  | case2 c found hscan hfound ih =>
      rw [tokens_of_lexeme hscan hfound] at h
      cases hstop : (c.spot symbol).stop.tokens symbol with
      | error d =>
          rw [hstop] at h
          cases h
      | ok behind =>
          rw [hstop] at h
          cases h
          have shorter : (c.spot symbol).stop.rest.length < c.skipBlanks.rest.length := by
            simp only [Spot.stop, hscan, Scan.read]
            exact length_advance_lt (rest_ne_nil_of_spot hscan hfound)
              (Lexeme.spelling_length_pos hfound)
          exact Nat.lt_of_le_of_lt (ih hstop) (shorter.trans_le c.length_skipBlanks_le)
  | case3 c cause read hscan =>
      rw [tokens_of_fault hscan] at h
      cases h

theorem Program.size_le_of_build {symbol : CodePoint} {source : String}
    (h : build symbol source = .ok p) :
    p.size ≤ source.length := by
  obtain ⟨tokens, htokens, rfl⟩ := tokenize_of_build h
  have few : tokens.length ≤ source.toList.length := Cursor.length_tokens_le htokens
  rw [String.length_toList] at few
  exact (List.length_filterMap_le _ _).trans few

/-! ## What can be printed -/

namespace PrintFault

variable {value : Int} {numbers : List Int} {fault : PrintFault}

theorem ofInt?_eq_none : ofInt? value = none ↔ value.natAbs < 10 ^ mostDigits := by
  change (if value.natAbs < 10 ^ mostDigits then none else some tooManyDigits) = none ↔ _
  split <;> simp_all

theorem ofInt?_of_le {bound : Nat} (h : value.natAbs ≤ bound) (hbound : bound < 10 ^ mostDigits) :
    ofInt? value = none :=
  ofInt?_eq_none.mpr (h.trans_lt hbound)

theorem findSome?_ofInt? (h : numbers.findSome? ofInt? = some fault) : fault = .tooManyDigits := by
  obtain ⟨value, -, hvalue⟩ := List.exists_of_findSome?_eq_some h
  unfold ofInt? at hvalue
  split at hvalue
  · cases hvalue
  · exact (Option.some.inj hvalue).symm

theorem maxNumber_lt : maxNumber < 10 ^ mostDigits := by
  decide +kernel

end PrintFault

/-- The numbers and the lines of the program can be printed. -/
def Program.IsPrintable (p : Program) : Prop :=
  ∀ step ∈ p.toList, PrintFault.ofInt? step.number = none ∧ PrintFault.ofInt? step.line = none

/-- Text that is not extremely long gives programs that can be printed. -/
theorem Program.isPrintable_of_build {symbol : CodePoint} {source : String}
    (h : build symbol source = .ok p)
    (hlength : source.length + 1 < 10 ^ mostDigits) : p.IsPrintable := fun _ hstep =>
  ⟨PrintFault.ofInt?_of_le (number_of_build h hstep) PrintFault.maxNumber_lt,
    PrintFault.ofInt?_of_le (line_le_of_build h hstep) hlength⟩

theorem LexerSettings.isPrintable_of_read {lexer : LexerSettings} {source : String}
    (h : (lexer.read source).program = .ok p) (hlength : source.length + 1 < 10 ^ mostDigits) :
    p.IsPrintable := by
  obtain ⟨symbol, hbuild⟩ := exists_build_of_read h
  exact Program.isPrintable_of_build hbuild hlength

/-- Of steps that can be printed, what does not fit can be told, unless the limit would have to be
    shown. -/
theorem Misfit.printFault? {steps : List Step} {d : Diagnostic} (h : Misfit limit steps d)
    (hsteps : ∀ step ∈ steps, PrintFault.ofInt? step.number = none ∧
      PrintFault.ofInt? step.line = none) :
    d.printFault? = none ∨
      ∃ count line, d = ⟨.grammatical (.countOutOfRange count limit), some line⟩ ∧
        d.printFault? = PrintFault.ofInt? limit := by
  have shown (step : Step) (fault : GrammarFault) (hmem : step ∈ steps)
      (hnumbers : fault.numbers = []) :
      (step.faulty fault).printFault? = none := by
    simp only [Diagnostic.printFault?, Diagnostic.numbers, Step.faulty, hnumbers,
      Option.toList_some,
      List.nil_append, List.findSome?_cons, (hsteps step hmem).2, List.findSome?_nil]
  cases h with
  | number hkind => exact .inl (shown _ _ (by simp) rfl)
  | unknown hkind hnone => exact .inl (shown _ _ (by simp) rfl)
  | cut hword hkind => exact .inl (shown _ _ (by simp) rfl)
  | kind hword hkind hother => exact .inl (shown _ _ (by simp) rfl)
  | @meaning keyword word parameter rest hword hkind hnone =>
      obtain ⟨number, line⟩ := hsteps parameter (by simp)
      cases keyword with
      | home | loop | paper | ink | pen => exact .inl (shown _ _ (by simp) rfl)
      | forward | back | left | right =>
          refine .inl ?_
          simp only [Diagnostic.printFault?, Diagnostic.numbers, Step.faulty, Keyword.complaint,
            GrammarFault.numbers, Option.toList_some, List.cons_append, List.nil_append,
            List.findSome?_cons, number, line, List.findSome?_nil]
      | «repeat» =>
          refine .inr ⟨parameter.number, parameter.line, rfl, ?_⟩
          simp only [Diagnostic.printFault?, Diagnostic.numbers, Step.faulty, Keyword.complaint,
            GrammarFault.numbers, Option.toList_some, List.cons_append, List.nil_append,
            List.findSome?_cons, number, line, List.findSome?_nil]
          cases PrintFault.ofInt? limit <;> rfl

/-- A diagnostic of a program that can be printed can be printed too, unless it shows the limit. -/
def Program.Tells (p : Program) (limit : Int) (d : Diagnostic) : Prop :=
  p.IsPrintable → d.printFault? ≠ none → PrintFault.ofInt? limit ≠ none

theorem Program.tells_of_readAt {fault : ReadFault}
    (h : p.readAt limit index = some (.error fault)) :
    p.Tells limit fault.diagnostic := by
  intro printable hprint
  have misfit := readAt_spec limit p index
  rw [h] at misfit
  obtain hnone | ⟨count, line, -, hlimit⟩ :=
    misfit.printFault? fun step hmem => printable step (List.mem_of_mem_drop hmem)
  · exact absurd hnone hprint
  · rwa [hlimit] at hprint

theorem Program.IsPrintable.stack (h : p.IsPrintable) (hread : p.readAt limit index = some (.ok i))
    (fault : StackFault) : Diagnostic.printFault? ⟨.stack fault, some i.line⟩ = none := by
  obtain ⟨step, hmem, hline⟩ := line_of_readAt hread
  rw [hline]
  simp only [Diagnostic.printFault?, Diagnostic.numbers, Option.toList_some, List.nil_append,
    List.findSome?_cons, (h step hmem).2, List.findSome?_nil]

end TurtleGraphics
