import TurtleGraphics.Proofs.Program.Layout

/-! # Reading across a newline

A newline ends every token that goes on to the end of its text, and nothing but the line is carried
on behind it. So texts that are joined by a newline are read one after the other, the second one as
many lines further down as the first one has.
-/

namespace TurtleGraphics

variable {symbol : CodePoint} {c other : Cursor} {rest tail : List Char} {k : Nat}

/-- The diagnostic if there are `k` more lines above its text. -/
def Diagnostic.movedDown (k : Nat) (d : Diagnostic) : Diagnostic :=
  { d with line := d.line.map (· + (k : Int)) }

/-- The token if there are `k` more lines above its text. -/
def Token.movedDown (k : Nat) (token : Token) : Token :=
  { token with line := token.line + k }

/-- The step if there are `k` more lines above its text. -/
def Step.movedDown (k : Nat) (step : Step) : Step :=
  { step with line := step.line + k }

/-! ## Tokens from a place on -/

namespace Cursor

/-- All tokens from a place on but the end of the text, unless there is a fault. -/
def tokens (symbol : CodePoint) (c : Cursor) : Except Diagnostic (List Token) :=
  match (c.spots symbol).findSome? Spot.diagnostic? with
  | some d => .error d
  | none => .ok ((c.spots symbol).filterMap Spot.token?)

theorem rest_skipBlanks (c : Cursor) : c.skipBlanks.rest = c.rest.dropWhile isBlank :=
  rest_advance List.takeWhile_append_dropWhile.symm

theorem line_skipBlanks (c : Cursor) : c.skipBlanks.line = c.line := by
  have blanks : (c.rest.takeWhile isBlank).count '\n' = 0 := by
    rw [List.count_eq_zero]
    intro hmem
    exact absurd (List.mem_takeWhile_imp hmem) (by decide)
  rw [skipBlanks, line_advance List.takeWhile_append_dropWhile.symm, blanks, Nat.add_zero]

theorem scan_spot (symbol : CodePoint) (c : Cursor) :
    (c.spot symbol).scan = Scan.start symbol (c.rest.dropWhile isBlank) := by
  rw [spot, rest_skipBlanks]

theorem rest_stop (symbol : CodePoint) (c : Cursor) :
    (c.spot symbol).stop.rest =
      (c.rest.dropWhile isBlank).drop (c.spot symbol).scan.read.length := by
  rw [← rest_skipBlanks]
  rfl

theorem line_stop (symbol : CodePoint) (c : Cursor) :
    (c.spot symbol).stop.line =
      c.line + ((c.rest.dropWhile isBlank).take (c.spot symbol).scan.read.length).count '\n' := by
  rw [← rest_skipBlanks, ← line_skipBlanks c]
  rfl

theorem tokens_of_endOfFile (h : (c.spot symbol).scan = .lexeme .endOfFile) :
    c.tokens symbol = .ok [] := by
  rw [tokens, spots_of_endOfFile h]
  simp [Spot.diagnostic?, Spot.outcome, Spot.token?, h]

theorem tokens_of_lexeme {found : Lexeme} (h : (c.spot symbol).scan = .lexeme found)
    (hfound : found ≠ .endOfFile) :
    c.tokens symbol = ((c.spot symbol).stop.tokens symbol).map (found.token c.line :: ·) := by
  have htoken : (c.spot symbol).token? = some (found.token c.line) := by
    rw [← line_skipBlanks, Spot.token?, h]
    cases found <;> first | exact absurd rfl hfound | rfl
  have hsound : (c.spot symbol).diagnostic? = none := by
    rw [Spot.diagnostic?, Spot.outcome, h]
  rw [tokens, tokens, spots_of_lexeme h hfound, List.findSome?_cons, hsound,
    List.filterMap_cons, htoken]
  cases List.findSome? Spot.diagnostic? ((c.spot symbol).stop.spots symbol) <;> rfl

theorem tokens_of_fault {cause : LexicalFault} {read : List Char}
    (h : (c.spot symbol).scan = .fault cause read) :
    c.tokens symbol = .error ⟨.lexical cause, some (c.line : Int)⟩ := by
  rw [tokens, spots_of_fault h, ← line_skipBlanks]
  simp [Spot.diagnostic?, Spot.outcome, h]
  rfl

theorem lexical_of_tokens {d : Diagnostic} (h : c.tokens symbol = .error d) :
    ∃ (fault : LexicalFault) (line : Int), d = ⟨.lexical fault, some line⟩ := by
  induction c using Cursor.spots.induct symbol with
  | case1 c hscan =>
      rw [tokens_of_endOfFile hscan] at h
      cases h
  | case2 c found hscan hfound ih =>
      rw [tokens_of_lexeme hscan hfound] at h
      cases hstop : (c.spot symbol).stop.tokens symbol with
      | error d' =>
          rw [hstop] at h
          cases h
          exact ih hstop
      | ok behind =>
          rw [hstop] at h
          cases h
  | case3 c cause read hscan =>
      rw [tokens_of_fault hscan] at h
      cases h
      exact ⟨cause, c.line, rfl⟩

theorem tokens_movedDown (hrest : other.rest = c.rest) (hline : other.line = c.line + k) :
    other.tokens symbol =
      ((c.tokens symbol).map (List.map (Token.movedDown k))).mapError (Diagnostic.movedDown k) := by
  induction c using Cursor.spots.induct symbol generalizing other with
  | case1 c hscan =>
      rw [tokens_of_endOfFile hscan,
        tokens_of_endOfFile (by rw [scan_spot, hrest, ← scan_spot, hscan])]
      rfl
  | case2 c found hscan hfound ih =>
      have same : (other.spot symbol).scan = .lexeme found := by
        rw [scan_spot, hrest, ← scan_spot, hscan]
      have behind := @ih (other.spot symbol).stop
        (by rw [rest_stop, rest_stop, same, hscan, hrest])
        (by rw [line_stop, line_stop, same, hscan, hrest, hline]; omega)
      have moved : found.token other.line = (found.token c.line).movedDown k := by
        rw [hline]
        cases found <;> rfl
      rw [tokens_of_lexeme hscan hfound, tokens_of_lexeme same hfound, behind, moved]
      cases (c.spot symbol).stop.tokens symbol <;> rfl
  | case3 c cause read hscan =>
      rw [tokens_of_fault hscan, tokens_of_fault (by rw [scan_spot, hrest, ← scan_spot, hscan]),
        hline]
      rfl

end Cursor

/-! ## The seam -/

theorem while_append_newline {p : Char → Bool} (hp : ¬ p '\n') (rest tail : List Char) :
    (rest ++ '\n' :: tail).takeWhile p = rest.takeWhile p ∧
      (rest ++ '\n' :: tail).dropWhile p = rest.dropWhile p ++ '\n' :: tail := by
  induction rest with
  | nil => simp [hp]
  | cons c rest ih =>
      by_cases hc : p c
      · simpa [hc] using ih
      · simp [hc]

namespace Scan

variable {text : List Char} {found : Lexeme}

theorem string_append {opening : Char} (h : string opening rest = .lexeme found)
    (more : List Char) :
    string opening (rest ++ more) = .lexeme found := by
  unfold string at h ⊢
  rw [List.dropWhile_append, List.takeWhile_append]
  cases hclosing : rest.dropWhile (!isQuote ·) with
  | nil =>
      rw [hclosing] at h
      cases h
  | cons closing behind =>
      have inside : (rest.takeWhile (!isQuote ·)).length ≠ rest.length := by
        have whole :=
          congrArg List.length (List.takeWhile_append_dropWhile (p := (!isQuote ·)) (l := rest))
        rw [hclosing, List.length_append, List.length_cons] at whole
        omega
      rw [hclosing] at h
      rw [if_neg inside]
      exact h

theorem number_append_newline (first : Char) (rest tail : List Char) :
    number first (rest ++ '\n' :: tail) = number first rest := by
  obtain ⟨taken, left⟩ := while_append_newline (p := Char.isDigit) (by decide) rest tail
  rw [number, number, taken, left]
  cases rest.dropWhile Char.isDigit <;> rfl

theorem start_append_newline (h : start symbol text = .lexeme found) (hfound : found ≠ .endOfFile)
    (tail : List Char) : start symbol (text ++ '\n' :: tail) = .lexeme found := by
  cases text with
  | nil =>
      cases h
      exact absurd rfl hfound
  | cons c rest =>
      rw [List.cons_append]
      rw [start] at h ⊢
      rw [(while_append_newline (p := (· ≠ '\n')) (by decide) rest tail).1,
        (while_append_newline (p := (!endsIdentifier ·)) (by decide) rest tail).1,
        number_append_newline]
      -- Only text between quotes could go on behind the newline, and it was closed before.
      split_ifs at h ⊢ with hnewline hsymbol hliteral hquote
      · exact h
      · exact h
      · exact h
      · exact string_append h _
      all_goals exact h

theorem eq_nil_of_endOfFile (h : start symbol text = .lexeme .endOfFile) : text = [] := by
  have right := start_right symbol text
  rw [h] at right
  obtain ⟨rest, rfl, hspelled⟩ := right
  cases hspelled 0
  rfl

end Scan

namespace Cursor

/-- The line at the end of the text that is read from here on. -/
def lastLine (c : Cursor) : Nat :=
  c.line + c.rest.count '\n'

theorem lastLine_advance (c : Cursor) (n : Nat) : (c.advance n).lastLine = c.lastLine := by
  have split := congrArg (List.count '\n') (List.take_append_drop n c.rest)
  rw [List.count_append] at split
  simp only [lastLine, advance]
  omega

theorem lastLine_stop (symbol : CodePoint) (c : Cursor) :
    (c.spot symbol).stop.lastLine = c.lastLine := by
  rw [Spot.stop, lastLine_advance]
  exact lastLine_advance c _

/-- What is found before the newline is found alike in the joined text, and leaves alike what is
    left. -/
theorem stop_append_newline {found : Lexeme} (hscan : (c.spot symbol).scan = .lexeme found)
    (hfound : found ≠ .endOfFile) (hrest : other.rest = c.rest ++ '\n' :: tail)
    (hline : other.line = c.line) :
    (other.spot symbol).scan = .lexeme found ∧
      (other.spot symbol).stop.rest = (c.spot symbol).stop.rest ++ '\n' :: tail ∧
      (other.spot symbol).stop.line = (c.spot symbol).stop.line := by
  have unblank := (while_append_newline (p := isBlank) (by decide) c.rest tail).2
  have same : (other.spot symbol).scan = .lexeme found := by
    rw [scan_spot, hrest, unblank]
    rw [scan_spot] at hscan
    exact Scan.start_append_newline hscan hfound tail
  have inside : found.spelling.length ≤ (c.rest.dropWhile isBlank).length := by
    have right := Scan.start_right symbol (c.rest.dropWhile isBlank)
    rw [← scan_spot, hscan] at right
    obtain ⟨behind, hsplit, -⟩ := right
    rw [hsplit, List.length_append]
    exact Nat.le_add_right _ _
  refine ⟨same, ?_, ?_⟩
  · rw [rest_stop, rest_stop, same, hscan, hrest, unblank]
    exact List.drop_append_of_le_length inside
  · rw [line_stop, line_stop, same, hscan, hrest, unblank, hline, Scan.read,
      List.take_append_of_le_length inside]

theorem tokens_newline {below : Cursor} (hscan : (c.spot symbol).scan = .lexeme .endOfFile)
    (hrest : other.rest = c.rest ++ '\n' :: tail) (hline : other.line = c.line)
    (hbelow : tail = below.rest) (hdown : c.lastLine + 1 = below.line + k) :
    other.tokens symbol =
      (((below.tokens symbol).map (List.map (Token.movedDown k))).mapError
        (Diagnostic.movedDown k)).map
        (⟨.endOfLine, c.lastLine, "\n", 0⟩ :: ·) := by
  have unblank := (while_append_newline (p := isBlank) (by decide) c.rest tail).2
  have blank : c.rest.dropWhile isBlank = [] := Scan.eq_nil_of_endOfFile (by rwa [← scan_spot])
  have last : c.lastLine = c.line := by
    rw [← lastLine_stop symbol, lastLine, rest_stop, line_stop, blank]
    simp
  have newline : (other.spot symbol).scan = .lexeme .endOfLine := by
    rw [scan_spot, hrest, unblank, blank, List.nil_append, Scan.start_newline]
  have under : (other.spot symbol).stop.rest = below.rest := by
    rw [rest_stop, newline, hrest, unblank, blank]
    exact hbelow
  have down : (other.spot symbol).stop.line = below.line + k := by
    rw [line_stop, newline, hrest, unblank, blank, hline, ← hdown, last]
    rfl
  have moved := @tokens_movedDown symbol below _ k under down
  rw [tokens_of_lexeme newline (by simp), moved, hline, last]
  rfl

/-- Behind text without a fault, a newline and more text are read as if they stood alone. -/
theorem tokens_append_newline {below : Cursor} {tokens : List Token}
    (h : c.tokens symbol = .ok tokens)
    (hrest : other.rest = c.rest ++ '\n' :: tail) (hline : other.line = c.line)
    (hbelow : tail = below.rest) (hdown : c.lastLine + 1 = below.line + k) :
    other.tokens symbol =
      (((below.tokens symbol).map (List.map (Token.movedDown k))).mapError
        (Diagnostic.movedDown k)).map
        (tokens ++ ⟨.endOfLine, c.lastLine, "\n", 0⟩ :: ·) := by
  induction c using Cursor.spots.induct symbol generalizing other tokens with
  | case1 c hscan =>
      obtain rfl : [] = tokens := Except.ok.inj ((tokens_of_endOfFile hscan).symm.trans h)
      exact tokens_newline hscan hrest hline hbelow hdown
  | case2 c found hscan hfound ih =>
      obtain ⟨same, hrest', hline'⟩ := stop_append_newline hscan hfound hrest hline
      rw [tokens_of_lexeme hscan hfound] at h
      cases hstop : (c.spot symbol).stop.tokens symbol with
      | error d =>
          rw [hstop] at h
          cases h
      | ok behind =>
          rw [hstop] at h
          obtain rfl := Except.ok.inj h
          rw [tokens_of_lexeme same hfound,
            ih hstop hrest' hline' (by rw [lastLine_stop, hdown]), hline, lastLine_stop]
          cases below.tokens symbol <;> rfl
  | case3 c cause read hscan =>
      rw [tokens_of_fault hscan] at h
      cases h

end Cursor

/-! ## Texts and programs -/

theorem tokenize_eq (symbol : CodePoint) (source : String) :
    tokenize symbol source = (Cursor.start source).tokens symbol := rfl

theorem Program.build_eq (symbol : CodePoint) (source : String) :
    build symbol source = (tokenize symbol source).map ofTokens := by
  simp only [build, Reading.program, Reading.diagnostic?, Reading.of, tokenize]
  cases List.findSome? Spot.diagnostic? ((Cursor.start source).spots symbol) <;> rfl

theorem Program.tokenize_of_build {source : String} {p : Program}
    (h : build symbol source = .ok p) :
    ∃ tokens, tokenize symbol source = .ok tokens ∧ ofTokens tokens = p := by
  rw [build_eq] at h
  cases htokens : tokenize symbol source with
  | ok tokens =>
      rw [htokens] at h
      exact ⟨tokens, rfl, Except.ok.inj h⟩
  | error fault =>
      rw [htokens] at h
      cases h

theorem Program.tokenize_of_build_error {source : String} {d : Diagnostic}
    (h : build symbol source = .error d) :
    tokenize symbol source = .error d := by
  rw [build_eq] at h
  cases htokens : tokenize symbol source with
  | ok tokens =>
      rw [htokens] at h
      cases h
  | error fault =>
      rw [htokens] at h
      exact congrArg Except.error (Except.error.inj h)

theorem Program.lexical_of_build {source : String} {d : Diagnostic}
    (h : build symbol source = .error d) :
    ∃ (fault : LexicalFault) (line : Int), d = ⟨.lexical fault, some line⟩ :=
  Cursor.lexical_of_tokens (tokenize_of_build_error h)

theorem Program.ofTokens_append (tokens more : List Token) :
    ofTokens (tokens ++ more) = ofTokens tokens ++ ofTokens more := by
  simp [ofTokens]

theorem Program.ofTokens_movedDown (k : Nat) (tokens : List Token) :
    ofTokens (tokens.map (Token.movedDown k)) = (ofTokens tokens).map (Step.movedDown k) := by
  have step (token : Token) : (Step.ofToken (token.movedDown k)).toOption =
      (Step.ofToken token).toOption.map (Step.movedDown k) := by
    obtain ⟨kind, line, text, number⟩ := token
    cases kind <;> rfl
  simp [ofTokens, List.filterMap_map, step, List.map_filterMap]

/-- Texts that are joined by a newline are read one after the other. Behind the tokens of the first
text stands the newline, on the last line of that text; what is told of the second text, be it
tokens or a fault, is told as many lines further down. The steps of the programs follow each other
alike. -/
theorem tokenize_append_newline (symbol : CodePoint) {first : String} {tokens : List Token}
    (h : tokenize symbol first = .ok tokens) (second : String) :
    let joined := first ++ "\n" ++ second
    let k := 1 + first.toList.count '\n'
    (∀ more, tokenize symbol second = .ok more →
      tokenize symbol joined =
          .ok (tokens ++ ⟨.endOfLine, k, "\n", 0⟩ :: more.map (Token.movedDown k))) ∧
    (∀ d, tokenize symbol second = .error d →
      ∃ fault line, d = ⟨.lexical fault, some line⟩ ∧
        tokenize symbol joined = .error ⟨.lexical fault, some (line + k)⟩) ∧
    ∃ p, Program.build symbol first = .ok p ∧
      (∀ q, Program.build symbol second = .ok q →
        Program.build symbol joined = .ok (p ++ q.map (Step.movedDown k))) ∧
      ∀ d, Program.build symbol second = .error d →
        Program.build symbol joined = .error (d.movedDown k) := by
  intro joined k
  have seam : (Cursor.start joined).rest = (Cursor.start first).rest ++ '\n' ::
      (Cursor.start second).rest := by
    simp [Cursor.start, joined]
  have below : (Cursor.start first).lastLine + 1 = (Cursor.start second).line + k := by
    simp only [Cursor.lastLine, Cursor.start, k]
    omega
  have whole : tokenize symbol joined = _ := Cursor.tokens_append_newline h seam rfl rfl below
  have last : (Cursor.start first).lastLine = k := rfl
  rw [← tokenize_eq, last] at whole
  refine ⟨fun more hmore => ?_, fun d hd => ?_, Program.ofTokens tokens, ?_, fun q hq =>
    ?_, fun d hd => ?_⟩
  · rw [whole, hmore]
    rfl
  · obtain ⟨fault, line, rfl⟩ := Cursor.lexical_of_tokens hd
    rw [whole, hd]
    exact ⟨fault, line, rfl, rfl⟩
  · rw [Program.build_eq, h]
    rfl
  · obtain ⟨more, hmore, rfl⟩ := Program.tokenize_of_build hq
    have newline : Program.ofTokens (⟨.endOfLine, k, "\n", 0⟩ :: more.map (Token.movedDown k)) =
        Program.ofTokens (more.map (Token.movedDown k)) := rfl
    rw [Program.build_eq, whole, hmore, ← Program.ofTokens_movedDown, ← newline,
      ← Program.ofTokens_append]
    rfl
  · rw [Program.build_eq, whole, Program.tokenize_of_build_error hd]
    rfl

/-- A number that ends its text, and a fault in the second line of what is read behind it. -/
theorem tokenize_append_newline_unclosed :
    tokenize (.ofChar '#') "left 90" = .ok [⟨.identifier, 1, "left", 0⟩, ⟨.number, 1, "", 90⟩] ∧
      tokenize (.ofChar '#') "left 90\nloop\n\"up" =
        .error ⟨.lexical .unterminatedString, some 3⟩ := by
  have first : tokenize (.ofChar '#') "left 90" =
      .ok [⟨.identifier, 1, "left", 0⟩, ⟨.number, 1, "", 90⟩] := by decide +kernel
  have second : tokenize (.ofChar '#') "loop\n\"up" =
      .error ⟨.lexical .unterminatedString, some 2⟩ := by
    decide +kernel
  obtain ⟨-, faults, -⟩ := tokenize_append_newline (.ofChar '#') first "loop\n\"up"
  obtain ⟨fault, line, hsame, joined⟩ := faults _ second
  cases hsame
  exact ⟨first, joined⟩

end TurtleGraphics
