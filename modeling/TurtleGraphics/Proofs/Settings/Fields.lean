import TurtleGraphics.Proofs.Files.Tree
import TurtleGraphics.Proofs.Settings.Sections
import TurtleGraphics.Proofs.Text.Capitals

/-! # The fields of settings

Besides the palette, settings are made of fields, each of some kind and with a key in some section.
All fields of a kind are read alike: a datum at the key gives the value, and without one the field
has its standard value.
-/

namespace TurtleGraphics

inductive FieldKind where
  | integer
  | truth
  | color
  | symbol
  | level
  | file

abbrev FieldKind.Value : FieldKind → Type
  | .integer => Int
  | .truth => Bool
  | .color => Color
  | .symbol => Phrase
  | .level => String
  | .file => Option Phrase

/-- The fields of settings, without the palette. -/
inductive Field : FieldKind → Type where
  | width : Field .integer
  | height : Field .integer
  | homeX : Field .integer
  | homeY : Field .integer
  | paper : Field .color
  | ink : Field .color
  | glyphSize : Field .integer
  | glyphColor : Field .color
  | commentSymbol : Field .symbol
  | debug : Field .truth
  | stackCapacity : Field .integer
  | maxRepeat : Field .integer
  | trace : Field .truth
  | normalizeAngle : Field .truth
  | level : Field .level
  | json : Field .truth
  | color : Field .truth
  | file : Field .file

variable {k : FieldKind}

namespace Field

def sectionName : Field k → String
  | .width | .height => "canvas"
  | .homeX | .homeY | .paper | .ink | .glyphSize | .glyphColor => "turtle"
  | .commentSymbol | .debug => "lexer"
  | .stackCapacity | .maxRepeat | .trace | .normalizeAngle => "engine"
  | .level | .json | .color | .file => "logging"

def key : Field k → String
  | .width => "width_px"
  | .height => "height_px"
  | .homeX => "home_x"
  | .homeY => "home_y"
  | .paper => "paper"
  | .ink => "ink"
  | .glyphSize => "glyph_size_px"
  | .glyphColor => "glyph_color"
  | .commentSymbol => "comment_symbol"
  | .debug => "debug"
  | .stackCapacity => "stack_capacity"
  | .maxRepeat => "max_repeat"
  | .trace => "trace"
  | .normalizeAngle => "normalize_angle"
  | .level => "level"
  | .json => "json"
  | .color => "color"
  | .file => "file"

def all : List (Σ k, Field k) :=
  [⟨_, width⟩, ⟨_, height⟩, ⟨_, homeX⟩, ⟨_, homeY⟩, ⟨_, paper⟩, ⟨_, ink⟩, ⟨_, glyphSize⟩,
    ⟨_, glyphColor⟩,
    ⟨_, commentSymbol⟩, ⟨_, debug⟩, ⟨_, stackCapacity⟩, ⟨_, maxRepeat⟩, ⟨_, trace⟩,
    ⟨_, normalizeAngle⟩, ⟨_, level⟩, ⟨_, json⟩, ⟨_, color⟩, ⟨_, file⟩]

theorem mem_all (field : Field k) : ⟨k, field⟩ ∈ all := by
  cases field <;> simp [all]

end Field

namespace Settings

def get (settings : Settings) : Field k → k.Value
  | .width => settings.canvas.width
  | .height => settings.canvas.height
  | .homeX => settings.turtle.homeX
  | .homeY => settings.turtle.homeY
  | .paper => settings.turtle.paper
  | .ink => settings.turtle.ink
  | .glyphSize => settings.turtle.glyphSize
  | .glyphColor => settings.turtle.glyphColor
  | .commentSymbol => settings.lexer.commentSymbol
  | .debug => settings.lexer.debug
  | .stackCapacity => settings.engine.stackCapacity
  | .maxRepeat => settings.engine.maxRepeat
  | .trace => settings.engine.trace
  | .normalizeAngle => settings.engine.normalizeAngle
  | .level => settings.logging.level
  | .json => settings.logging.json
  | .color => settings.logging.color
  | .file => settings.logging.file

def ofFields (value : ∀ {k}, Field k → k.Value) (palette : Palette) : Settings where
  canvas := ⟨value .width, value .height⟩
  turtle :=
    ⟨value .homeX, value .homeY, value .paper, value .ink, value .glyphSize, value .glyphColor⟩
  lexer := ⟨value .commentSymbol, value .debug⟩
  engine := ⟨value .stackCapacity, value .maxRepeat, value .trace, value .normalizeAngle⟩
  palette := palette
  logging := ⟨value .level, value .json, value .color, value .file⟩

@[simp]
theorem get_ofFields (value : ∀ {k}, Field k → k.Value) (palette : Palette) (field : Field k) :
    (ofFields value palette).get field = value field := by
  cases field <;> rfl

theorem ofFields_get (settings : Settings) :
    ofFields settings.get settings.palette = settings := rfl

end Settings

/-! ## Data for a field -/

/-- The datum writes a value of the kind. Colors and levels are named in letters of either size. -/
def FieldKind.Writes : (k : FieldKind) → k.Value → Datum → Prop
  | .integer, n, datum => datum = .int n
  | .truth, b, datum => datum = .bool b
  | .color, c, datum => ∃ name : Phrase, datum = .text name ∧ name.Spells c.name
  | .symbol, text, datum => datum = .text text
  | .level, capitals, datum => ∃ name : Phrase, datum = .text name ∧ name.Spells capitals
  | .file, name?, datum => datum = name?.elim .null .text

/-- The value of a name, where no value is as good as no entry. -/
def Entries.present? (entries : Entries) (name : Phrase) : Option Datum :=
  match entries.value? name with
  | some .null => none
  | found => found

/-- The datum of a field, if the section has one. For a color there may be an entry without a
    value. -/
def Section.given? (sec : Section) : {k : FieldKind} → Field k → Option Datum
  | .color, field => sec.entries.present? field.key
  | _, field => sec.entries.value? field.key

namespace Section

def read (sec : Section) : {k : FieldKind} → Field k → Except SettingsFault k.Value
  | .integer, field => sec.int field.key (({} : Settings).get field)
  | .truth, field => sec.bool field.key (({} : Settings).get field)
  | .color, field => sec.color field.key (({} : Settings).get field)
  | .symbol, field => sec.commentSymbol (({} : Settings).get field)
  | .level, field => sec.level (({} : Settings).get field)
  | .file, _ => .ok sec.logFile

section

variable (sec : Section)

theorem canvas_eq : sec.canvas = (do return ⟨← sec.read .width, ← sec.read .height⟩) := rfl

theorem turtle_eq : sec.turtle = (do
    return ⟨← sec.read .homeX, ← sec.read .homeY, ← sec.read .paper, ← sec.read .ink,
      ← sec.read .glyphSize, ← sec.read .glyphColor⟩) := rfl

theorem lexer_eq : sec.lexer = (do return ⟨← sec.read .commentSymbol, ← sec.read .debug⟩) := rfl

theorem engine_eq : sec.engine = (do
    return ⟨← sec.read .stackCapacity, ← sec.read .maxRepeat, ← sec.read .trace,
      ← sec.read .normalizeAngle⟩) := rfl

theorem logging_eq : sec.logging = (do
    return ⟨← sec.read .level, ← sec.read .json, ← sec.read .color, ← sec.read .file⟩) := rfl

end

variable {sec other : Section}

theorem read_congr (field : Field k) (hname : other.name = sec.name)
    (hentry : other.entries.value? field.key = sec.entries.value? field.key) :
    other.read field = sec.read field := by
  have place (key : String) : other.place key = sec.place key := by
    rw [Section.place, Section.place, hname]
  cases k with
  | integer => simp only [read, int, hentry, place]
  | truth => simp only [read, bool, hentry, place]
  | color => simp only [read, Section.color, hentry, place]
  | symbol =>
      cases field
      simp only [Field.key] at hentry
      simp only [read, Section.commentSymbol, hentry]
  | level =>
      cases field
      simp only [Field.key] at hentry
      simp only [read, Section.level, hentry]
  | file =>
      cases field
      simp only [Field.key] at hentry
      simp only [read, logFile, hentry]

end Section

/-- What holds of all settings that are read. -/
structure Settings.Valid (settings : Settings) : Prop extends Checked settings where
  commentSymbol : ∃ point, settings.lexer.commentSymbol = [point] ∧ point.Plain
  level : ∃ level ∈ Level.all, settings.logging.level = level.name

namespace Section

variable {sec : Section} {settings : Settings}

variable {key : String}

theorem int_of_written {standard given : Int}
    (h : ∀ found, sec.entries.value? key = some found → found = .int given) :
    sec.int key standard = .ok (if (sec.entries.value? key).isSome then given else standard) := by
  unfold int
  cases hfound : sec.entries.value? key with
  | none => rfl
  | some found =>
      rw [h found hfound]
      rfl

theorem bool_of_written {standard given : Bool}
    (h : ∀ found, sec.entries.value? key = some found → found = .bool given) :
    sec.bool key standard = .ok (if (sec.entries.value? key).isSome then given else standard) := by
  unfold bool
  cases hfound : sec.entries.value? key with
  | none => rfl
  | some found =>
      rw [h found hfound]
      rfl

theorem color_of_written {standard given : Color}
    (h : ∀ found, sec.entries.present? key = some found → ∃ name : Phrase, found = .text name ∧
      name.Spells given.name) :
    sec.color key standard = .ok (if (sec.entries.present? key).isSome then given
      else standard) := by
  unfold Section.color
  unfold Entries.present? at h ⊢
  cases hfound : sec.entries.value? key with
  | none => rfl
  | some found =>
      rw [hfound] at h
      cases found with
      | null => rfl
      | text name =>
          obtain ⟨_, ⟨⟩, spelled⟩ := h _ rfl
          simp only [Datum.shown, spelled.color]
          rfl
      | bool | int | float | list | mapping =>
          obtain ⟨name, hname, -⟩ := h _ rfl
          cases hname

theorem commentSymbol_of_written {standard : Phrase} {point : CodePoint} (hplain : point.Plain)
    (h : ∀ found, sec.entries.value? "comment_symbol" = some found → found = .text [point]) :
    sec.commentSymbol standard =
      .ok (if (sec.entries.value? "comment_symbol").isSome then [point] else standard) := by
  unfold Section.commentSymbol
  cases hfound : sec.entries.value? "comment_symbol" with
  | none => rfl
  | some found =>
      rw [h found hfound]
      exact if_neg (CodePoint.plain_iff.mp hplain)

theorem level_of_spells {level : Level} {name : Phrase} (h : name.Spells level.name) :
    ((Phrase.uppercase name).toString?.bind fun text => (Level.ofName? text).map fun _ => text) =
      some level.name := by
  obtain ⟨text, rfl, hcapitals⟩ := h
  have found : Text.uppercase level.name = level.name ∧ Level.ofName? level.name = some level := by
    cases level <;> decide +kernel
  rw [Phrase.uppercase_ofString, Phrase.toString?_ofString, Option.bind_some,
    ← Text.uppercase_toUpper, hcapitals, found.1, found.2, Option.map_some]

theorem level_of_written (standard : Level) {given : Level}
    (h : ∀ found, sec.entries.value? "level" = some found → ∃ name : Phrase, found = .text name ∧
      name.Spells given.name) :
    sec.level standard.name =
      .ok (if (sec.entries.value? "level").isSome then given.name else standard.name) := by
  unfold Section.level
  cases hfound : sec.entries.value? "level" with
  | none =>
      have spelled : Phrase.Spells standard.name standard.name :=
        ⟨standard.name, rfl, by cases standard <;> decide +kernel⟩
      simp only [Option.map_none, Option.getD_none, level_of_spells spelled]
      rfl
  | some found =>
      obtain ⟨name, rfl, spelled⟩ := h found hfound
      simp only [Option.map_some, Option.getD_some, Datum.shown, level_of_spells spelled]
      rfl

theorem logFile_of_written {given : Option Phrase}
    (h : ∀ found, sec.entries.value? "file" = some found → found = given.elim .null .text) :
    sec.logFile = if (sec.entries.value? "file").isSome then given else none := by
  unfold logFile
  cases hfound : sec.entries.value? "file" with
  | none => rfl
  | some found =>
      rw [h found hfound]
      cases given <;> rfl

/-- A field that is written is read back, and one that is not has its standard. -/
theorem read_ok (hvalid : settings.Valid) (field : Field k)
    (hwrites : ∀ found, sec.given? field = some found → k.Writes (settings.get field) found) :
    sec.read field =
      .ok (if (sec.given? field).isSome then settings.get field
        else ({} : Settings).get field) := by
  cases k with
  | integer => exact int_of_written hwrites
  | truth => exact bool_of_written hwrites
  | color => exact color_of_written hwrites
  | symbol =>
      cases field
      obtain ⟨point, hpoint, plain⟩ := hvalid.commentSymbol
      change ∀ found, sec.entries.value? "comment_symbol" = some found →
        found = .text settings.lexer.commentSymbol at hwrites
      change _ = Except.ok (if (sec.entries.value? "comment_symbol").isSome
        then settings.lexer.commentSymbol else _)
      rw [hpoint] at hwrites ⊢
      exact commentSymbol_of_written plain hwrites
  | level =>
      cases field
      obtain ⟨level, -, hlevel⟩ := hvalid.level
      change ∀ found, sec.entries.value? "level" = some found →
        ∃ name : Phrase, found = .text name ∧
        name.Spells settings.logging.level at hwrites
      change _ = Except.ok (if (sec.entries.value? "level").isSome then settings.logging.level
        else _)
      rw [hlevel] at hwrites ⊢
      exact level_of_written .info hwrites
  | file =>
      cases field
      exact congrArg Except.ok (logFile_of_written hwrites)

end Section

end TurtleGraphics
