import TurtleGraphics.Proofs.Program.Layout
import TurtleGraphics.Proofs.Settings.Overriding
import TurtleGraphics.Proofs.Token.Relettering

/-! # Programs with another symbol of remarks

Settings may let remarks begin with any character that is not reserved. Where this is exchanged for
another one, in the settings and all over a text, remarks begin at the same places. But only
punctuation ends a word. A symbol that is none goes on in a word, as any other character does, so a
text of words with the symbol inside or directly behind them is not always the same program as
before.
-/

namespace TurtleGraphics

namespace CodePoint

def isLiteral (p : CodePoint) : Bool :=
  p.char?.any TurtleGraphics.isLiteral

theorem isLiteral_ofChar (c : Char) : (ofChar c).isLiteral = TurtleGraphics.isLiteral c := by
  rw [isLiteral, char?_ofChar, Option.any_some]

/-- There are settings with which remarks begin with the code point. -/
def StartsRemarks (p : CodePoint) : Prop :=
  ∃ data settings, Settings.ofDatum data = .ok settings ∧ settings.lexer.commentSymbol = [p]

theorem startsRemarks_iff {p : CodePoint} : p.StartsRemarks ↔ p.Plain := by
  constructor
  · rintro ⟨data, settings, hread, hsymbol⟩
    obtain ⟨point, hpoint, plain⟩ := (Settings.valid_iff.mpr ⟨data, hread⟩).commentSymbol
    obtain rfl : point = p := by simpa [hsymbol] using hpoint.symm
    exact plain
  · intro plain
    have valid : Settings.Valid { lexer := { commentSymbol := [p] } } :=
      { Settings.valid_standard with commentSymbol := ⟨p, rfl, plain⟩ }
    obtain ⟨data, hread⟩ := Settings.valid_iff.mp valid
    exact ⟨data, _, hread, rfl⟩

theorem StartsRemarks.unreserved {p : CodePoint} (h : p.StartsRemarks) : p.Unreserved :=
  (startsRemarks_iff.mp h).unreserved

theorem Unreserved.endsIdentifier {c : Char} (h : (ofChar c).Unreserved) :
    endsIdentifier c = TurtleGraphics.isLiteral c := by
  obtain ⟨-, hblank, hnewline, -⟩ := h c rfl
  simp [TurtleGraphics.endsIdentifier, hblank, hnewline]

/-- The text with one code point in the place of another. -/
def exchange (p q : CodePoint) (c : Char) : Char :=
  if ofChar c = p then q.char?.getD c else c

end CodePoint

/-! ## Symbols that are exchanged -/

/-- With two symbols of remarks, a text and the one that has the second in the place of the first.
The second is not in the text before. -/
structure SymbolExchanged (p q : CodePoint) (s t : String) : Prop where
  first : p.StartsRemarks
  second : q.StartsRemarks
  distinct : p ≠ q
  fresh : q ∉ Phrase.ofString s
  text : Phrase.ofString t = (Phrase.ofString s).map fun point => if point = p then q else point

/-- Two texts have faults of their characters on the same line. -/
def Program.FaultAlike (p q : CodePoint) (s t : String) : Prop :=
  ∃ fault fault' line, build p s = .error ⟨.lexical fault, some line⟩ ∧
    build q t = .error ⟨.lexical fault', some line⟩

/-- Two texts are the same program, or have faults on the same line. -/
def Program.BuildAlike (p q : CodePoint) (s t : String) : Prop :=
  (∃ program, build p s = .ok program ∧ build q t = .ok program) ∨ FaultAlike p q s t

/-- A word with the code point inside, or directly behind it. -/
def Spot.Touches (p : CodePoint) (spot : Spot) : Prop :=
  ∃ first word, spot.scan = .lexeme (.identifier first word) ∧
    ∃ c, .ofChar c = p ∧ (c ∈ word ∨ spot.stop.rest.head? = some c)

variable {p q : CodePoint} {s t : String}

namespace SymbolExchanged

theorem ofChar_exchange (h : SymbolExchanged p q s t) {c : Char} (hc : c ∈ s.toList) :
    CodePoint.ofChar (p.exchange q c) = if .ofChar c = p then q else .ofChar c := by
  by_cases hp : CodePoint.ofChar c = p
  · have there : q ∈ Phrase.ofString t := by
      rw [h.text]
      exact List.mem_map.mpr ⟨.ofChar c, List.mem_map_of_mem hc, if_pos hp⟩
    obtain ⟨d, -, hd⟩ := List.mem_map.mp there
    rw [CodePoint.exchange, if_pos hp, if_pos hp, CodePoint.ofChar_eq_iff.mp hd,
      Option.getD_some, hd]
  · rw [CodePoint.exchange, if_neg hp, if_neg hp]

theorem toList_eq (h : SymbolExchanged p q s t) : t.toList = s.toList.map (p.exchange q) := by
  have exchanged : (s.toList.map (p.exchange q)).map .ofChar = t.toList.map CodePoint.ofChar := by
    rw [← Phrase.ofString, h.text, Phrase.ofString, List.map_map, List.map_map]
    exact List.map_congr_left fun c hc => h.ofChar_exchange hc
  exact (List.map_injective_iff.mpr CodePoint.ofChar_injective exchanged).symm

/-- The first symbol becomes the second, which is as little reserved, and all else stays. -/
theorem charAlike (h : SymbolExchanged p q s t) {c : Char} (hc : c ∈ s.toList) :
    CharAlike p q (p.exchange q) c := by
  have exchanged := h.ofChar_exchange hc
  by_cases hp : CodePoint.ofChar c = p
  · -- What settings take as a symbol is in none of the classes but that of punctuation, be it
    -- before or behind.
    rw [if_pos hp] at exchanged
    obtain ⟨halphanum, hblank, hnewline, hquote⟩ := h.first.unreserved c hp
    obtain ⟨halphanum', hblank', hnewline', hquote'⟩ := h.second.unreserved _ exchanged
    simp only [Char.isAlphanum, Bool.or_eq_true, not_or, Bool.not_eq_true] at *
    constructor <;> simp_all
  · rw [if_neg hp] at exchanged
    have hq : CodePoint.ofChar c ≠ q := fun hq => h.fresh (hq ▸ List.mem_map_of_mem hc)
    have same : p.exchange q c = c := if_neg hp
    constructor <;> simp [same, hp, hq]

theorem endsIdentifier_exchange (h : SymbolExchanged p q s t) (hsame : p.isLiteral = q.isLiteral)
    (c : Char) :
    endsIdentifier (p.exchange q c) = endsIdentifier c := by
  by_cases hp : CodePoint.ofChar c = p
  · rw [CodePoint.exchange, if_pos hp]
    cases hq : q.char? with
    | none => rfl
    | some d =>
        have first := h.first.unreserved
        have second := h.second.unreserved
        obtain rfl := hp
        obtain rfl := CodePoint.ofChar_of_char? hq
        rw [CodePoint.isLiteral_ofChar, CodePoint.isLiteral_ofChar] at hsame
        rw [Option.getD_some, second.endsIdentifier, first.endsIdentifier, hsame]
  · rw [CodePoint.exchange, if_neg hp]

/-- If words are kept, the texts are the same program in exchanged characters, or have faults on the
    same line. -/
theorem build_eq (h : SymbolExchanged p q s t)
    (hwords : ∀ spot ∈ (Reading.of p s).spots, spot.KeepsWord (p.exchange q)) :
    (∃ program : Program, Program.build p s = .ok program ∧
      Program.build q t = .ok (program.relettered (p.exchange q))) ∨
        Program.FaultAlike p q s t := by
  have exchanged := Program.build_relettered h.toList_eq (fun c hc => h.charAlike hc) hwords
  cases hbuild : Program.build p s with
  | ok program =>
      rw [hbuild] at exchanged
      exact .inl ⟨program, rfl, exchanged⟩
  | error d =>
      rw [hbuild] at exchanged
      obtain ⟨fault, line, rfl⟩ := Program.lexical_of_build hbuild
      exact .inr ⟨fault, fault.relettered (p.exchange q), line, hbuild, exchanged⟩

/-- If no word holds the first symbol, it is also the same program. -/
theorem buildAlike (h : SymbolExchanged p q s t)
    (hwords : ∀ spot ∈ (Reading.of p s).spots, spot.KeepsWord (p.exchange q))
    (hfree : ∀ spot ∈ (Reading.of p s).spots, ∀ first word, spot.scan =
      .lexeme (.identifier first word) →
      ∀ c ∈ first :: word, .ofChar c ≠ p) : Program.BuildAlike p q s t := by
  obtain ⟨program, hbuild, hbuild'⟩ | faults := h.build_eq hwords
  · refine .inl ⟨program, hbuild, ?_⟩
    rw [hbuild', Program.relettered_eq hbuild]
    exact fun spot hspot first word hword c hc => if_neg (hfree spot hspot first word hword c hc)
  · exact .inr faults

end SymbolExchanged

/-- Remarks begin at the same places with any symbol that settings take. Where one is exchanged for
another, the text is the same program or has a fault on the same line, if both symbols are
punctuation, which ends words, or no word touches the symbol. If neither is punctuation, the words
that hold the symbol have it exchanged as well. -/
theorem Program.build_of_symbolExchanged (h : SymbolExchanged p q s t) :
    (p.isLiteral ∧ q.isLiteral → BuildAlike p q s t) ∧
    (¬ p.isLiteral ∧ ¬ q.isLiteral →
      (∃ program : Program, build p s = .ok program ∧
        build q t = .ok (program.relettered (p.exchange q))) ∨
        FaultAlike p q s t) ∧
    ((∀ spot ∈ (Reading.of p s).spots, ¬ spot.Touches p) → BuildAlike p q s t) := by
  have kept (hsame : p.isLiteral = q.isLiteral) (spot : Spot) : spot.KeepsWord (p.exchange q) :=
    fun _ _ _ c _ => h.endsIdentifier_exchange hsame c
  have letter {spot : Spot} (hspot : spot ∈ (Reading.of p s).spots) {first : Char}
      {word : List Char}
      (hword : spot.scan = .lexeme (.identifier first word)) : CodePoint.ofChar first ≠ p :=
        fun hp =>
    (h.first.unreserved first hp).1 (isAlphanum_of_isAlpha (Cursor.word_of_mem_spots hspot hword).1)
  refine ⟨fun ⟨hp, hq⟩ => ?_, fun ⟨hp, hq⟩ => ?_, fun untouched => ?_⟩
  · refine h.buildAlike (fun spot _ => kept (hp.trans hq.symm) spot) fun spot hspot first word hword
      c hc heq => ?_
    -- Punctuation is not inside of words.
    obtain rfl := heq
    rw [CodePoint.isLiteral_ofChar] at hp
    exact (Cursor.word_of_mem_spots hspot hword).2 c hc (by simp [endsIdentifier, hp])
  · exact h.build_eq fun spot _ =>
      kept (by rw [Bool.eq_false_iff.mpr hp, Bool.eq_false_iff.mpr hq]) spot
  · refine h.buildAlike (fun spot hspot first word hword c hc => ?_) fun spot hspot first word hword
      c hc heq => ?_
    · have other : CodePoint.ofChar c ≠ p :=
        fun heq => untouched spot hspot ⟨first, word, hword, c, heq, hc⟩
      rw [CodePoint.exchange, if_neg other]
    · obtain rfl | hc := List.mem_cons.mp hc
      · exact letter hspot hword heq
      · exact untouched spot hspot ⟨first, word, hword, c, heq, .inl hc⟩

/-- A tilde is no punctuation, so the word goes on where it ended before, and no remark begins. -/
theorem Program.word_goes_on_over_symbol :
    SymbolExchanged (.ofChar '#') (.ofChar '~') "HOME#x" "HOME~x" ∧
      ¬ BuildAlike (.ofChar '#') (.ofChar '~') "HOME#x" "HOME~x" := by
  have before : build (.ofChar '#') "HOME#x" = .ok #[⟨.identifier, 1, "HOME", 0⟩] := by
    decide +kernel
  have behind : build (.ofChar '~') "HOME~x" = .ok #[⟨.identifier, 1, "HOME~x", 0⟩] := by
    decide +kernel
  constructor
  · constructor
    · exact CodePoint.startsRemarks_iff.mpr (CodePoint.plain_iff.mpr (by decide +kernel))
    · exact CodePoint.startsRemarks_iff.mpr (CodePoint.plain_iff.mpr (by decide +kernel))
    · decide
    · decide
    · decide
  · rintro (⟨program, hbefore, hbehind⟩ | ⟨fault, fault', line, hbefore, -⟩)
    · rw [before] at hbefore
      rw [behind] at hbehind
      cases hbefore
      exact absurd hbehind (by decide)
    · rw [before] at hbefore
      cases hbefore

/-- A semicolon is punctuation as well, so the word ends there and a remark begins. -/
theorem Program.build_of_symbolExchanged_semicolon :
    SymbolExchanged (.ofChar '#') (.ofChar ';') "HOME#x
PEN" "HOME;x
PEN" ∧
      build (.ofChar ';') "HOME;x
PEN" = .ok #[⟨.identifier, 1, "HOME", 0⟩, ⟨.identifier, 2, "PEN", 0⟩] := by
  have before : build (.ofChar '#') "HOME#x
PEN" =
    .ok #[⟨.identifier, 1, "HOME", 0⟩, ⟨.identifier, 2, "PEN", 0⟩] := by decide +kernel
  have exchanged : SymbolExchanged (.ofChar '#') (.ofChar ';') "HOME#x
PEN" "HOME;x
PEN" := by
    constructor
    · exact CodePoint.startsRemarks_iff.mpr (CodePoint.plain_iff.mpr (by decide +kernel))
    · exact CodePoint.startsRemarks_iff.mpr (CodePoint.plain_iff.mpr (by decide +kernel))
    · decide
    · decide
    · decide
  refine ⟨exchanged, ?_⟩
  obtain ⟨program, hbefore, hbehind⟩ | ⟨fault, fault', line, hfault, -⟩ :=
    (build_of_symbolExchanged exchanged).1 (by decide)
  · rw [before] at hbefore
    cases hbefore
    exact hbehind
  · rw [before] at hfault
    cases hfault

end TurtleGraphics
