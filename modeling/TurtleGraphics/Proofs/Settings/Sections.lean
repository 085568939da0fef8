import TurtleGraphics.Proofs.Program.Boundary
import TurtleGraphics.Settings.Reader

/-! # What settings are read from

Each section of the data gives one part of the settings, and nothing else does. What the readers of
the sections and the check of the whole let pass is said here once.
-/

namespace TurtleGraphics

namespace Settings

/-- The entries that settings may be read from: no data stands for no entry. -/
inductive Holds (entries : Entries) : Datum → Prop where
  | mapping : Holds entries (.mapping entries)
  | null : entries = [] → Holds entries .null

/-- The settings have each of their parts from its section. -/
structure ReadFrom (settings : Settings) (entries : Entries) : Prop where
  canvas : ∃ sec, Section.of entries "canvas" = .ok sec ∧ sec.canvas = .ok settings.canvas
  turtle : ∃ sec, Section.of entries "turtle" = .ok sec ∧ sec.turtle = .ok settings.turtle
  lexer : ∃ sec, Section.of entries "lexer" = .ok sec ∧ sec.lexer = .ok settings.lexer
  engine : ∃ sec, Section.of entries "engine" = .ok sec ∧ sec.engine = .ok settings.engine
  palette : ∃ sec, Section.of entries "palette" = .ok sec ∧ sec.palette = .ok settings.palette
  logging : ∃ sec, Section.of entries "logging" = .ok sec ∧ sec.logging = .ok settings.logging

/-- What the sections say together. -/
structure Checked (settings : Settings) : Prop where
  width : 0 < settings.canvas.width
  height : 0 < settings.canvas.height
  homeX : 0 ≤ settings.turtle.homeX ∧ settings.turtle.homeX < settings.canvas.width
  homeY : 0 ≤ settings.turtle.homeY ∧ settings.turtle.homeY < settings.canvas.height
  glyphSize : 0 < settings.turtle.glyphSize
  stackCapacity : 0 < settings.engine.stackCapacity ∧ settings.engine.stackCapacity % 2 = 0
  maxRepeat : 1 ≤ settings.engine.maxRepeat

variable {settings checked : Settings} {entries : Entries} {data : Datum}

theorem check_ok (h : settings.check = .ok checked) : checked = settings ∧ settings.Checked := by
  unfold check at h
  dsimp only at h
  split at h
  · cases h
  · rename_i canvas
    split at h
    · cases h
    · rename_i home
      split at h
      · cases h
      · rename_i glyph
        split at h
        · cases h
        · rename_i capacity
          split at h
          · cases h
          · rename_i runs
            cases h
            constructor
            · rfl
            · constructor <;> omega

theorem readFrom_of_ofEntries (h : ofEntries entries = .ok settings) :
    settings.ReadFrom entries ∧ settings.Checked := by
  obtain ⟨_, hcanvas, h⟩ := exists_of_bind_ok h
  obtain ⟨canvas, hcanvas', h⟩ := exists_of_bind_ok h
  obtain ⟨_, hturtle, h⟩ := exists_of_bind_ok h
  obtain ⟨turtle, hturtle', h⟩ := exists_of_bind_ok h
  obtain ⟨_, hlexer, h⟩ := exists_of_bind_ok h
  obtain ⟨lexer, hlexer', h⟩ := exists_of_bind_ok h
  obtain ⟨_, hengine, h⟩ := exists_of_bind_ok h
  obtain ⟨engine, hengine', h⟩ := exists_of_bind_ok h
  obtain ⟨_, hpalette, h⟩ := exists_of_bind_ok h
  obtain ⟨palette, hpalette', h⟩ := exists_of_bind_ok h
  obtain ⟨_, hlogging, h⟩ := exists_of_bind_ok h
  obtain ⟨logging, hlogging', h⟩ := exists_of_bind_ok h
  obtain ⟨rfl, sound⟩ := check_ok h
  refine ⟨⟨?_, ?_, ?_, ?_, ?_, ?_⟩, sound⟩
  · exact ⟨_, hcanvas, hcanvas'⟩
  · exact ⟨_, hturtle, hturtle'⟩
  · exact ⟨_, hlexer, hlexer'⟩
  · exact ⟨_, hengine, hengine'⟩
  · exact ⟨_, hpalette, hpalette'⟩
  · exact ⟨_, hlogging, hlogging'⟩

theorem readFrom_of_ofDatum (h : ofDatum data = .ok settings) :
    ∃ entries, Holds entries data ∧ settings.ReadFrom entries ∧ settings.Checked := by
  cases data with
  | null => exact ⟨[], .null rfl, readFrom_of_ofEntries h⟩
  | mapping entries => exact ⟨entries, .mapping, readFrom_of_ofEntries h⟩
  | bool | int | float | text | list => cases h

end Settings

/-- The code point is no letter, no numeral, no separator and no quote of any script. -/
def CodePoint.Plain (point : CodePoint) : Prop :=
  ∀ c, point.char? = some c → ¬ Text.isAlphanumeric c ∧ ¬ Text.isSeparator c ∧ ¬ isQuote c

theorem CodePoint.plain_iff {point : CodePoint} :
    point.Plain ↔ ¬ point.char?.any fun c =>
      Text.isAlphanumeric c || Text.isSeparator c || isQuote c := by
  unfold Plain
  cases point.char? with
  | none => simp
  | some c => simp [and_assoc]

namespace Section

variable {sec : Section}

theorem commentSymbol_ok {symbol : Phrase}
    (h : sec.commentSymbol (Phrase.ofString "#") = .ok symbol) :
    ∃ point, symbol = [point] ∧ point.Plain := by
  unfold commentSymbol at h
  split at h
  · cases h
    exact ⟨.ofChar '#', rfl, CodePoint.plain_iff.mpr (by decide +kernel)⟩
  · split at h
    · dsimp only at h
      split at h
      · cases h
      · cases h
        exact ⟨_, rfl, CodePoint.plain_iff.mpr ‹_›⟩
    · cases h
  · cases h

theorem commentSymbol_of_lexer {lexer : LexerSettings} (h : sec.lexer = .ok lexer) :
    ∃ point, lexer.commentSymbol = [point] ∧ point.Plain := by
  obtain ⟨symbol, hsymbol, h⟩ := exists_of_bind_ok h
  obtain ⟨debug, -, h⟩ := exists_of_bind_ok h
  cases h
  exact commentSymbol_ok hsymbol

/-- Whatever names the level, in whatever letters, what is kept is the name of a level. -/
theorem level_of_logging {logging : LogSettings} (h : sec.logging = .ok logging) :
    ∃ level ∈ Level.all, logging.level = level.name := by
  obtain ⟨name, hname, h⟩ := exists_of_bind_ok h
  obtain ⟨json, -, h⟩ := exists_of_bind_ok h
  obtain ⟨color, -, h⟩ := exists_of_bind_ok h
  cases h
  unfold level at hname
  dsimp only at hname
  split at hname
  · rename_i found
    cases hname
    obtain ⟨text, -, htext⟩ := Option.bind_eq_some_iff.mp found
    obtain ⟨level, hlevel, rfl⟩ := Option.map_eq_some_iff.mp htext
    have named : level.name = text := by simpa using List.find?_some hlevel
    exact ⟨level, List.mem_of_find?_eq_some hlevel, named.symm⟩
  · cases hname

/-! ## The palette -/

/-- The color that an entry of the palette is for. -/
def colorOf (entry : Phrase × Datum) : Option Color :=
  entry.1.toString?.bind Color.ofName?

theorem colorOf_of_named {name : Phrase} {text : String} {color : Color}
    (h : (name.toString?.bind fun text => (Color.ofName? text).map (text, ·)) = some (text, color))
    (value : Datum) :
    colorOf (name, value) = some color := by
  obtain ⟨_, htext, hname⟩ := Option.bind_eq_some_iff.mp h
  obtain ⟨found, hfound, same⟩ := Option.map_eq_some_iff.mp hname
  cases same
  exact Option.bind_eq_some_iff.mpr ⟨_, htext, hfound⟩

theorem amount?_eq_some {value : Datum} {amount : UInt8} (h : amount? value = some amount) :
    value = .int amount.toNat := by
  unfold amount? at h
  split at h
  · rename_i n
    split at h
    · rename_i range
      cases h
      simp
      omega
    · cases h
  · cases h

theorem rgb?_eq_some {value : Datum} {rgb : Rgb} (h : rgb? value = some rgb) :
    value = .list [.int rgb.red.toNat, .int rgb.green.toNat, .int rgb.blue.toNat] := by
  unfold rgb? at h
  split at h
  · rename_i red green blue
    simp only [Option.bind_eq_bind, Option.bind_eq_some_iff, Option.pure_def, Option.some.injEq]
      at h
    obtain ⟨r, hr, g, hg, b, hb, rfl⟩ := h
    rw [amount?_eq_some hr, amount?_eq_some hg, amount?_eq_some hb]
  · cases h

/-- The pixel of the color is listed in the entries, in the last one that is for this color. -/
def Lists (entries : Entries) (color : Color) (rgb : Rgb) : Prop :=
  ∃ front last rest, entries = front ++ last :: rest ∧ colorOf last = some color ∧
    last.2 = .list [.int rgb.red.toNat, .int rgb.green.toNat, .int rgb.blue.toNat] ∧
    ∀ entry ∈ rest, colorOf entry ≠ some color

theorem Lists.cons {entries : Entries} {color : Color} {rgb : Rgb} (h : Lists entries color rgb)
    (entry : Phrase × Datum) : Lists (entry :: entries) color rgb := by
  obtain ⟨front, last, rest, rfl, hlast⟩ := h
  exact ⟨entry :: front, last, rest, rfl, hlast⟩

/-- The last entry for a color counts, and a color without an entry stays as it is. -/
theorem paletteWith_ok {entries : Entries} {palette after : Palette}
    (h : paletteWith entries palette = .ok after) (color : Color) :
    Lists entries color (after color) ∨
      (∀ entry ∈ entries, colorOf entry ≠ some color) ∧ after color = palette color := by
  induction entries generalizing palette with
  | nil =>
      cases h
      exact .inr ⟨by simp, rfl⟩
  | cons entry entries ih =>
      obtain ⟨name, value⟩ := entry
      unfold paletteWith at h
      split at h
      · cases h
      · rename_i text named hnamed
        split at h
        · cases h
        · rename_i rgb hrgb
          have hcolor : colorOf (name, value) = some named := colorOf_of_named hnamed value
          rcases ih h with listed | ⟨unlisted, kept⟩
          · exact .inl (listed.cons _)
          · rw [kept, Palette.set]
            by_cases same : color = named
            · rw [if_pos same]
              subst same
              exact .inl ⟨[], (name, value), entries, rfl, hcolor, rgb?_eq_some hrgb, unlisted⟩
            · rw [if_neg same]
              refine .inr ⟨?_, rfl⟩
              simp only [List.forall_mem_cons, hcolor]
              exact ⟨fun h => same (Option.some.inj h).symm, unlisted⟩

end Section

end TurtleGraphics
