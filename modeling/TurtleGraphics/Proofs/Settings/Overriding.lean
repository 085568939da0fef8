import TurtleGraphics.Proofs.Settings.Fields

/-! # Settings that are written down

Data that writes settings, or a part of them, gives these settings back: all that it holds, and the
standard in every other place. What has no meaning for settings changes nothing, and the colors of
the palette stay in their order.
-/

namespace TurtleGraphics

variable {k : FieldKind}

def Entries.inside (data : Entries) (name : String) : Entries :=
  match data.value? name with
  | some (.mapping entries) => entries
  | _ => []

/-- The datum of a field, if the data has one. -/
def Entries.given? (data : Entries) (field : Field k) : Option Datum :=
  Section.given? ⟨field.sectionName, data.inside field.sectionName⟩ field

/-- Whether the palette of the data has an entry for the color. -/
def Entries.lists (data : Entries) (color : Color) : Bool :=
  (data.inside "palette").any fun entry => Section.colorOf entry = some color

/-- Three amounts of light as they are listed. -/
def Rgb.datum (rgb : Rgb) : Datum :=
  .list [.int rgb.red.toNat, .int rgb.green.toNat, .int rgb.blue.toNat]

namespace Settings

def sectionNames : List String :=
  ["canvas", "turtle", "lexer", "engine", "palette", "logging"]

/-- The data writes the settings, as far as it says anything of them. Sections may be left out or
have no value, and so may colors; all other keys may be left out. -/
structure WrittenIn (settings : Settings) (data : Entries) : Prop where
  sections : ∀ name ∈ sectionNames, ∀ found, data.value? name = some found →
    found = .null ∨ ∃ entries, found = .mapping entries
  fields : ∀ {k} (field : Field k) found, data.given? field = some found →
  k.Writes (settings.get field) found
  palette : ∀ entry ∈ data.inside "palette", ∃ color : Color, entry.1.Spells color.name ∧
    entry.2 = (settings.palette color).datum

/-- The data writes the settings and leaves out nothing. -/
structure WrittenWhole (settings : Settings) (data : Entries) :
    Prop extends WrittenIn settings data where
  given : ∀ {k} (field : Field k), (data.given? field).isSome
  listed : ∀ color, data.lists color

/-- The standard settings, with the values of others where the data has an entry. -/
def overridden (settings : Settings) (data : Entries) : Settings :=
  ofFields (fun field => if (data.given? field).isSome then settings.get field
    else ({} : Settings).get field)
    fun color => if data.lists color then settings.palette color else Palette.standard color

variable {settings : Settings} {data : Entries}

theorem get_overridden (settings : Settings) (data : Entries) (field : Field k) :
    (settings.overridden data).get field =
      if (data.given? field).isSome then settings.get field else ({} : Settings).get field :=
  get_ofFields _ _ field

theorem WrittenWhole.overridden_eq (h : settings.WrittenWhole data) :
    settings.overridden data = settings := by
  unfold overridden
  simp only [h.given, h.listed, if_true]
  exact ofFields_get settings

end Settings

namespace Section

theorem of_ok {data : Entries} {name : String}
    (h : ∀ found, data.value? name = some found → found = .null ∨
      ∃ entries, found = .mapping entries) :
    Section.of data name = .ok ⟨name, data.inside name⟩ := by
  unfold Section.of Entries.inside
  cases hfound : data.value? name with
  | none => rfl
  | some found =>
      obtain rfl | ⟨entries, rfl⟩ := h found hfound
      · rfl
      · cases entries <;> rfl

theorem eq_of {data : Entries} {name : String} {sec : Section}
    (h : Section.of data name = .ok sec) :
    sec = ⟨name, data.inside name⟩ := by
  unfold Section.of at h
  unfold Entries.inside
  cases hfound : data.value? name with
  | none =>
      rw [hfound] at h
      cases h
      rfl
  | some found =>
      rw [hfound] at h
      cases found with
      | mapping entries =>
          cases entries <;>
          · cases h
            rfl
      | null | bool | int | float | text | list =>
          dsimp only at h
          split at h <;> cases h
          rfl

theorem amount?_of_amount (amount : UInt8) : amount? (.int amount.toNat) = some amount := by
  have bound := amount.toNat_lt
  rw [amount?, if_pos (by omega), Int.toNat_natCast]
  simp

theorem rgb?_datum (rgb : Rgb) : rgb? rgb.datum = some rgb := by
  simp only [Rgb.datum, rgb?, amount?_of_amount]
  rfl

theorem paletteWith_written {entries : Entries} (palette : Palette) {given : Palette}
    (h : ∀ entry ∈ entries, ∃ color : Color, entry.1.Spells color.name ∧
      entry.2 = (given color).datum) :
    paletteWith entries palette = .ok fun color =>
      if entries.any fun entry => colorOf entry = some color then given color
        else palette color := by
  induction entries generalizing palette with
  | nil => rfl
  | cons entry entries ih =>
      obtain ⟨⟨color, spelled, hvalue⟩, hrest⟩ := List.forall_mem_cons.mp h
      obtain ⟨name, value⟩ := entry
      obtain ⟨text, htext, hcolor⟩ := Option.bind_eq_some_iff.mp spelled.color
      obtain rfl : value = (given color).datum := hvalue
      have named : (name.toString?.bind fun text => (Color.ofName? text).map (text, ·)) =
          some (text, color) := by
        rw [htext, Option.bind_some, hcolor, Option.map_some]
      rw [paletteWith]
      simp only [named, rgb?_datum, ih _ hrest]
      refine congrArg Except.ok (funext fun other => ?_)
      -- The color may be listed again, but always with the pixel that is given for it.
      have here : colorOf (name, (given color).datum) = some color := spelled.color
      rw [List.any_cons, here, Palette.set]
      by_cases same : other = color
      · subst same
        simp
      · have apart : some color ≠ some other := fun h => same (Option.some.inj h).symm
        rw [decide_eq_false apart, Bool.false_or, if_neg same]

end Section

namespace Settings

variable {settings : Settings} {data : Entries}

theorem bind_of_ok {ε α β : Type} {x : Except ε α} {f : α → Except ε β} {a : α} {y : Except ε β}
    (h : x = .ok a) (h' : f a = y) : (x >>= f) = y := by
  rw [h]
  exact h'

theorem check_of_checked (h : settings.Checked) : settings.check = .ok settings := by
  obtain ⟨hwidth, hheight, homeX, homeY, glyph, capacity, runs⟩ := h
  unfold check
  dsimp only
  rw [if_neg (by omega), if_neg (by omega), if_neg (by omega), if_neg (by omega), if_neg (by omega)]

theorem ofEntries_eq (data : Entries) : ofEntries data = (do
    let canvas ← Section.of data "canvas" >>= Section.canvas
    let turtle ← Section.of data "turtle" >>= Section.turtle
    let lexer ← Section.of data "lexer" >>= Section.lexer
    let engine ← Section.of data "engine" >>= Section.engine
    let palette ← Section.of data "palette" >>= Section.palette
    let logging ← Section.of data "logging" >>= Section.logging
    check { canvas, turtle, lexer, engine, palette, logging }) := by
  simp only [ofEntries, bind_assoc]

/-- Data that writes settings gives these where it has an entry, if they go together. -/
theorem ofEntries_written (hvalid : settings.Valid) (h : settings.WrittenIn data) :
    ofEntries data = (settings.overridden data).check := by
  have found {α : Type} {name : String} {reader : Section → Except SettingsFault α} {part : α}
      (hname : name ∈ sectionNames) (hpart : reader ⟨name, data.inside name⟩ = .ok part) :
      (Section.of data name >>= reader) = .ok part :=
    bind_of_ok (Section.of_ok (h.sections name hname)) hpart
  have read {k : FieldKind} (field : Field k) :
      Section.read ⟨field.sectionName, data.inside field.sectionName⟩ field =
        .ok ((settings.overridden data).get field) := by
    rw [get_overridden]
    exact Section.read_ok hvalid field (h.fields field)
  have canvas : Section.canvas ⟨"canvas", data.inside "canvas"⟩ =
      .ok (settings.overridden data).canvas :=
    bind_of_ok (read .width) (bind_of_ok (read .height) rfl)
  have turtle : Section.turtle ⟨"turtle", data.inside "turtle"⟩ =
      .ok (settings.overridden data).turtle :=
    bind_of_ok (read .homeX)
      (bind_of_ok (read .homeY) (bind_of_ok (read .paper) (bind_of_ok (read .ink)
      (bind_of_ok (read .glyphSize) (bind_of_ok (read .glyphColor) rfl)))))
  have lexer : Section.lexer ⟨"lexer", data.inside "lexer"⟩ =
      .ok (settings.overridden data).lexer :=
    bind_of_ok (read .commentSymbol) (bind_of_ok (read .debug) rfl)
  have engine : Section.engine ⟨"engine", data.inside "engine"⟩ =
      .ok (settings.overridden data).engine :=
    bind_of_ok (read .stackCapacity) (bind_of_ok (read .maxRepeat) (bind_of_ok (read .trace)
      (bind_of_ok (read .normalizeAngle) rfl)))
  have palette : Section.palette ⟨"palette", data.inside "palette"⟩ =
      .ok (settings.overridden data).palette :=
    Section.paletteWith_written Palette.standard h.palette
  have logging : Section.logging ⟨"logging", data.inside "logging"⟩ =
      .ok (settings.overridden data).logging :=
    (Section.logging_eq _).trans
      (bind_of_ok (read .level)
        (bind_of_ok (read .json) (bind_of_ok (read .color) (bind_of_ok (read .file) rfl))))
  rw [ofEntries_eq, found (by decide) canvas, found (by decide) turtle, found (by decide) lexer,
    found (by decide) engine, found (by decide) palette, found (by decide) logging]
  rfl

theorem ofDatum_written_part (hvalid : settings.Valid) (h : settings.WrittenIn data)
    (hchecked : (settings.overridden data).Checked) :
    ofDatum (.mapping data) = .ok (settings.overridden data) :=
  (ofEntries_written hvalid h).trans (check_of_checked hchecked)

theorem ofDatum_written_whole (hvalid : settings.Valid) (h : settings.WrittenWhole data) :
    ofDatum (.mapping data) = .ok settings := by
  have checked : (settings.overridden data).Checked := by
    rw [h.overridden_eq]
    exact hvalid.toChecked
  rw [ofDatum_written_part hvalid h.toWrittenIn checked, h.overridden_eq]

end Settings

/-! ## Writing settings -/

/-- The datum of a value, with names in small letters. -/
def FieldKind.datum : (k : FieldKind) → k.Value → Datum
  | .integer, n => .int n
  | .truth, b => .bool b
  | .color, c => .text c.css
  | .symbol, text => .text text
  | .level, capitals => .text capitals
  | .file, name? => name?.elim .null .text

namespace Settings

/-- The data of settings, with an entry for everything. -/
def written (settings : Settings) : Entries :=
  sectionNames.map fun name =>
    (name, .mapping
      (if name = "palette" then Color.all.map fun color =>
        (↑color.css, (settings.palette color).datum)
      else (Field.all.filter fun ⟨_, field⟩ => field.sectionName = name).map fun ⟨k, field⟩ =>
        (↑field.key, k.datum (settings.get field))))

variable {settings : Settings}

theorem given?_written (settings : Settings) (field : Field k) :
    settings.written.given? field = some (k.datum (settings.get field)) := by
  cases field <;> rfl

theorem inside_palette_written (settings : Settings) :
    settings.written.inside "palette" =
      Color.all.map fun color => (↑color.css, (settings.palette color).datum) := rfl

theorem spells_css (color : Color) : Phrase.Spells color.css color.name :=
  ⟨color.css, rfl, by cases color <;> decide +kernel⟩

theorem Valid.writes_datum (h : settings.Valid) (field : Field k) :
    k.Writes (settings.get field) (k.datum (settings.get field)) := by
  cases k with
  | integer | truth | symbol | file => rfl
  | color => exact ⟨_, rfl, spells_css _⟩
  | level =>
      cases field
      obtain ⟨level, -, hlevel⟩ := h.level
      refine ⟨_, rfl, settings.logging.level, rfl, ?_⟩
      change settings.logging.level.toUpper = settings.logging.level
      rw [hlevel]
      cases level <;> decide +kernel

theorem Valid.writtenWhole (h : settings.Valid) : settings.WrittenWhole settings.written where
  sections := by
    intro name hname found hfound
    have held : ∃ entries, settings.written.value? name = some (.mapping entries) := by
      simp only [sectionNames, List.mem_cons, List.not_mem_nil, or_false] at hname
      obtain rfl | rfl | rfl | rfl | rfl | rfl := hname <;> exact ⟨_, rfl⟩
    obtain ⟨entries, hentries⟩ := held
    exact .inr ⟨entries, Option.some.inj (hfound.symm.trans hentries)⟩
  fields := by
    intro k field found hfound
    rw [given?_written] at hfound
    cases hfound
    exact h.writes_datum field
  palette := by
    intro entry hentry
    rw [inside_palette_written] at hentry
    obtain ⟨color, -, rfl⟩ := List.mem_map.mp hentry
    exact ⟨color, spells_css color, rfl⟩
  given := by
    intro k field
    rw [given?_written]
    rfl
  listed := by
    intro color
    rw [Entries.lists, inside_palette_written, List.any_map, List.any_eq_true]
    exact ⟨color, by cases color <;> decide, decide_eq_true (spells_css color).color⟩

end Settings

/-! ## Unknown names -/

/-- Whether a key of a section has a meaning. In the palette all keys are meant for colors. -/
def Field.isKnown (name key : Phrase) : Bool :=
  name = "palette" || all.any fun ⟨_, field⟩ => Phrase.ofString field.sectionName =
    name && Phrase.ofString field.key = key

def Section.known (sec : Section) : Section :=
  { sec with entries := sec.entries.filter fun (key, _) => Field.isKnown sec.name key }

/-- The value of a section without the keys that have no meaning. -/
def Datum.knownIn (name : Phrase) : Datum → Datum
  | .mapping entries => .mapping (entries.filter fun (key, _) => Field.isKnown name key)
  | other => other

/-- The data without the names that have no meaning for settings. -/
def Entries.known (data : Entries) : Entries :=
  (data.filter fun (name, _) => name ∈ Settings.sectionNames.map Phrase.ofString).map
    fun (name, value) =>
    (name, value.knownIn name)

theorem Field.isKnown_key (field : Field k) : Field.isKnown field.sectionName field.key = true := by
  rw [isKnown, Bool.or_eq_true, List.any_eq_true]
  exact .inr ⟨⟨k, field⟩, mem_all field, by simp⟩

theorem lookup_map_entry {α β γ : Type} [BEq α] [LawfulBEq α] (f : α → β → γ) (key : α)
    (entries : List (α × β)) :
    (entries.map fun (k, v) => (k, f k v)).lookup key = (entries.lookup key).map (f key) := by
  induction entries with
  | nil => rfl
  | cons entry rest ih =>
      obtain ⟨k, v⟩ := entry
      by_cases h : key = k
      · subst h
        simp
      · have apart : (key == k) = false := beq_eq_false_iff_ne.mpr h
        simp [List.lookup_cons, apart, ih]

theorem Entries.value?_known {name : String} (hname : name ∈ Settings.sectionNames)
    (data : Entries) :
    data.known.value? name = (data.value? name).map (Datum.knownIn name) := by
  have chosen :
      (decide (Phrase.ofString name ∈ Settings.sectionNames.map Phrase.ofString)) = true :=
    decide_eq_true (List.mem_map_of_mem hname)
  rw [value?, known, lookup_map_entry fun name value => Datum.knownIn name value,
    lookup_filter_key fun name => decide (name ∈ Settings.sectionNames.map Phrase.ofString), chosen,
    if_pos rfl]
  rfl

namespace Section

variable {sec : Section} {data : Entries} {name : String}

theorem read_known (sec : Section) (field : Field k) (hname : sec.name = field.sectionName) :
    sec.known.read field = sec.read field := by
  refine read_congr field rfl ?_
  rw [known, Entries.value?, lookup_filter_key (Field.isKnown sec.name), hname, field.isKnown_key,
    if_pos rfl]
  rfl

theorem palette_known (sec : Section) (hname : sec.name = "palette") :
    sec.known.palette = sec.palette := by
  have all (key : Phrase) : Field.isKnown sec.name key = true := by
    rw [hname]
    rfl
  rw [palette, palette, known, List.filter_eq_self.mpr fun entry _ => all entry.1]

theorem of_mapping {entries : Entries} (h : data.value? name = some (.mapping entries)) :
    Section.of data name = .ok ⟨name, entries⟩ := by
  rw [Section.of, h]
  cases entries <;> rfl

theorem of_known (hname : name ∈ Settings.sectionNames) (data : Entries) :
    Section.of data.known name = (Section.of data name).map known := by
  have kept := data.value?_known hname
  cases hfound : data.value? name with
  | none =>
      rw [hfound] at kept
      rw [Section.of, Section.of, kept, hfound]
      rfl
  | some found =>
      rw [hfound] at kept
      cases found with
      | mapping entries =>
          rw [of_mapping hfound, of_mapping kept]
          rfl
      | null | bool | int | float | text | list =>
          rw [Section.of, Section.of, kept, hfound]
          dsimp only [Option.map_some, Datum.knownIn]
          split <;> rfl

end Section

/-- Names that have no meaning for settings change nothing, whatever the data. -/
theorem Settings.ofEntries_known (data : Entries) : ofEntries data.known = ofEntries data := by
  -- Each section is read by its fields, and the keys of these are kept.
  have known {α : Type} {name : String} (hname : name ∈ sectionNames)
      (reader : Section → Except SettingsFault α)
      (h : ∀ sec : Section, sec.name = name → reader sec.known = reader sec) :
      (Section.of data.known name >>= reader) = (Section.of data name >>= reader) := by
    rw [Section.of_known hname]
    cases hsec : Section.of data name with
    | error fault => rfl
    | ok sec => exact h sec (congrArg Section.name (Section.eq_of hsec))
  have canvas := known (show "canvas" ∈ sectionNames by decide) Section.canvas fun sec h => by
    rw [sec.canvas_eq, sec.known.canvas_eq, sec.read_known .width h, sec.read_known .height h]
  have turtle := known (show "turtle" ∈ sectionNames by decide) Section.turtle fun sec h => by
    rw [sec.turtle_eq, sec.known.turtle_eq, sec.read_known .homeX h, sec.read_known .homeY h,
      sec.read_known .paper h, sec.read_known .ink h, sec.read_known .glyphSize h,
      sec.read_known .glyphColor h]
  have lexer := known (show "lexer" ∈ sectionNames by decide) Section.lexer fun sec h => by
    rw [sec.lexer_eq, sec.known.lexer_eq, sec.read_known .commentSymbol h, sec.read_known .debug h]
  have engine := known (show "engine" ∈ sectionNames by decide) Section.engine fun sec h => by
    rw [sec.engine_eq, sec.known.engine_eq, sec.read_known .stackCapacity h,
      sec.read_known .maxRepeat h, sec.read_known .trace h, sec.read_known .normalizeAngle h]
  have palette := known (show "palette" ∈ sectionNames by decide) Section.palette fun sec h =>
    sec.palette_known h
  have logging := known (show "logging" ∈ sectionNames by decide) Section.logging fun sec h => by
    rw [sec.logging_eq, sec.known.logging_eq, sec.read_known .level h, sec.read_known .json h,
      sec.read_known .color h, sec.read_known .file h]
  rw [ofEntries_eq, ofEntries_eq, canvas, turtle, lexer, engine, palette, logging]

/-! ## The order of the palette -/

namespace Palette

def entries (palette : Palette) : List (Color × Rgb) :=
  Color.all.map fun color => (color, palette color)

/-- Give a color its pixel in a table: in place if the color is there, else at the end. -/
def put : List (Color × Rgb) → Color × Rgb → List (Color × Rgb)
  | [], pixel => [pixel]
  | (color, old) :: rest, pixel =>
      if color = pixel.1 then pixel :: rest else (color, old) :: put rest pixel

theorem entries_set (palette : Palette) (color : Color) (rgb : Rgb) :
    (palette.set color rgb).entries = put palette.entries (color, rgb) := by
  cases color <;> rfl

end Palette

namespace Section

/-- The color and the pixel of an entry of the palette. -/
def pixel? (entry : Phrase × Datum) : Option (Color × Rgb) :=
  match colorOf entry, rgb? entry.2 with
  | some color, some rgb => some (color, rgb)
  | _, _ => none

theorem entries_paletteWith {entries : Entries} {palette after : Palette}
    (h : paletteWith entries palette = .ok after) :
    ∃ pixels, entries.mapM pixel? = some pixels ∧
    after.entries = pixels.foldl Palette.put palette.entries := by
  induction entries generalizing palette with
  | nil =>
      cases h
      exact ⟨[], rfl, rfl⟩
  | cons entry entries ih =>
      obtain ⟨name, value⟩ := entry
      unfold paletteWith at h
      split at h
      · cases h
      · rename_i text color hnamed
        split at h
        · cases h
        · rename_i rgb hrgb
          obtain ⟨pixels, hpixels, hafter⟩ := ih h
          refine ⟨(color, rgb) :: pixels, ?_, ?_⟩
          · simp [List.mapM_cons, pixel?, colorOf_of_named hnamed, hrgb, hpixels]
          · rw [hafter, Palette.entries_set, List.foldl_cons]

end Section

namespace Settings

/-- The settings that can be read are the valid ones. -/
theorem valid_iff {settings : Settings} : settings.Valid ↔ ∃ data, ofDatum data = .ok settings := by
  refine ⟨fun h => ⟨.mapping settings.written, ofDatum_written_whole h h.writtenWhole⟩, ?_⟩
  rintro ⟨data, hread⟩
  obtain ⟨entries, -, read, checked⟩ := readFrom_of_ofDatum hread
  obtain ⟨_, -, hlexer⟩ := read.lexer
  obtain ⟨_, -, hlogging⟩ := read.logging
  exact ⟨checked, Section.commentSymbol_of_lexer hlexer, Section.level_of_logging hlogging⟩

theorem valid_standard : Valid {} where
  width := by decide
  height := by decide
  homeX := by decide
  homeY := by decide
  glyphSize := by decide
  stackCapacity := by decide
  maxRepeat := by decide
  commentSymbol := ⟨.ofChar '#', rfl, CodePoint.plain_iff.mpr (by decide +kernel)⟩
  level := ⟨.info, by decide, rfl⟩

/-- Valid settings can be written down and are read back from whatever writes them: names may be in
letters of either size, and entries in any order. If only a part is written, or sections and colors
have no value, what is written is read back and all else is standard, as long as the whole goes
together. Names without a meaning change nothing in any data, and the colors of the palette stay in
their order whichever are listed, and how often. -/
theorem ofDatum_written {settings : Settings} (hvalid : settings.Valid) :
    settings.WrittenWhole settings.written ∧
    (∀ data, settings.WrittenWhole data → ofDatum (.mapping data) = .ok settings) ∧
    (∀ data, settings.WrittenIn data → (settings.overridden data).Checked →
      ofDatum (.mapping data) = .ok (settings.overridden data)) ∧
    (∀ data : Entries, ofDatum (.mapping data.known) = ofDatum (.mapping data)) ∧
    ∀ (data : Entries) (result : Settings), ofDatum (.mapping data) = .ok result →
      ∃ pixels, (data.inside "palette").mapM Section.pixel? = some pixels ∧
        pixels.foldl Palette.put Palette.standard.entries = Color.all.map fun color =>
          (color, result.palette color) := by
  refine ⟨hvalid.writtenWhole, fun data h => ofDatum_written_whole hvalid h,
    fun data h hchecked => ofDatum_written_part hvalid h hchecked, ofEntries_known,
      fun data result h => ?_⟩
  obtain ⟨⟨-, -, -, -, ⟨sec, hsec, hpalette⟩, -⟩, -⟩ := readFrom_of_ofEntries h
  obtain ⟨pixels, hpixels, hentries⟩ := Section.entries_paletteWith hpalette
  obtain rfl := Section.eq_of hsec
  exact ⟨pixels, hpixels, hentries.symm⟩

/-- Settings for small scripts with semicolons before their remarks. -/
def small : Settings where
  turtle := { ink := .green }
  lexer := { commentSymbol := ";" }
  engine := { stackCapacity := 2 }
  palette := Palette.standard.set .red ⟨4, 5, 6⟩
  logging := { level := "DEBUG" }

/-- A part of these settings: nothing is said of the turtle, and the engine is left out. -/
def smallPart : Entries :=
  [("logging", .mapping [("level", .text "Debug")]), ("turtle", .null),
    ("palette", .mapping [("ReD", .list [.int 4, .int 5, .int 6])]),
    ("lexer", .mapping [("comment_symbol", .text ";")])]

theorem small_valid : small.Valid :=
  { valid_standard with
    stackCapacity := by decide
    commentSymbol := ⟨.ofChar ';', rfl, CodePoint.plain_iff.mpr (by decide +kernel)⟩
    level := ⟨.debug, by decide, rfl⟩ }

theorem small_writtenIn : small.WrittenIn smallPart where
  sections := by
    intro name hname found hfound
    simp only [sectionNames, List.mem_cons, List.not_mem_nil, or_false] at hname
    obtain rfl | rfl | rfl | rfl | rfl | rfl := hname <;> cases hfound
    · exact .inl rfl
    · exact .inr ⟨_, rfl⟩
    · exact .inr ⟨_, rfl⟩
    · exact .inr ⟨_, rfl⟩
  fields := by
    intro k field found hfound
    cases field <;> cases hfound
    · rfl
    · exact ⟨_, rfl, "Debug", rfl, by decide +kernel⟩
  palette := by
    intro entry hentry
    obtain rfl := List.mem_singleton.mp hentry
    exact ⟨.red, ⟨"ReD", rfl, by decide +kernel⟩, rfl⟩

/-- Of the part, the remarks, the red and the level are as in the settings; the ink and the stack
    are standard. -/
theorem ofDatum_written_small :
    small.Valid ∧ ofDatum (.mapping small.written) = .ok small ∧
      ∃ settings, ofDatum (.mapping smallPart) = .ok settings ∧
        settings.lexer.commentSymbol = Phrase.ofString ";" ∧
        settings.palette .red = ⟨4, 5, 6⟩ ∧ settings.logging.level = "DEBUG" ∧
        settings.turtle.ink = .white ∧
        settings.engine.stackCapacity = 256 := by
  obtain ⟨written, whole, part, -⟩ := ofDatum_written small_valid
  refine ⟨small_valid, whole _ written, _, part _ small_writtenIn ?_, rfl, rfl, rfl, rfl, rfl⟩
  constructor <;> decide

end Settings

end TurtleGraphics
