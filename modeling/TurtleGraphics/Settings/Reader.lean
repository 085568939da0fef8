import TurtleGraphics.Journal.Level
import TurtleGraphics.Settings
import TurtleGraphics.Settings.Fault
import TurtleGraphics.Text.Alphanumeric
import TurtleGraphics.Token

/-! # Reading settings

Settings are read section by section from structured data. An entry that is not there keeps its
standard value, and entries with unknown names are passed over. What the sections say together is
checked at the end.
-/

namespace TurtleGraphics

/-- A section of settings. -/
structure Section where
  name : String
  entries : Entries

namespace Section

def place (sec : Section) (key : String) : String :=
  sec.name ++ "." ++ key

/-- The section of the given name. What counts as nothing stands for a section without entries. -/
def of (data : Entries) (name : String) : Except SettingsFault Section :=
  match data.value? name with
  | none => .ok ⟨name, []⟩
  | some found =>
    if found.isEmpty then .ok ⟨name, []⟩
    else
      match found with
      | .mapping entries => .ok ⟨name, entries⟩
      | other => .error (.sectionNotMapping name other)

/-- An integer; a truth value is none. -/
def int (sec : Section) (key : String) (standard : Int) : Except SettingsFault Int :=
  match sec.entries.value? key with
  | none => .ok standard
  | some (.int value) => .ok value
  | some other => .error (.notAnInteger (sec.place key) other)

def bool (sec : Section) (key : String) (standard : Bool) : Except SettingsFault Bool :=
  match sec.entries.value? key with
  | none => .ok standard
  | some (.bool value) => .ok value
  | some other => .error (.notABoolean (sec.place key) other)

/-- A color by its name; no value keeps the standard. -/
def color (sec : Section) (key : String) (standard : Color) : Except SettingsFault Color :=
  match sec.entries.value? key with
  | none => .ok standard
  | some .null => .ok standard
  | some other =>
    match other.shown.toString?.bind Color.ofName? with
    | some color => .ok color
    | none => .error (.unknownColor (sec.place key) other)

def canvas (sec : Section) : Except SettingsFault CanvasSettings := do
  let standard : CanvasSettings := {}
  let width ← sec.int "width_px" standard.width
  let height ← sec.int "height_px" standard.height
  return { width, height }

def turtle (sec : Section) : Except SettingsFault TurtleSettings := do
  let standard : TurtleSettings := {}
  let homeX ← sec.int "home_x" standard.homeX
  let homeY ← sec.int "home_y" standard.homeY
  let paper ← sec.color "paper" standard.paper
  let ink ← sec.color "ink" standard.ink
  let glyphSize ← sec.int "glyph_size_px" standard.glyphSize
  let glyphColor ← sec.color "glyph_color" standard.glyphColor
  return { homeX, homeY, paper, ink, glyphSize, glyphColor }

/-- The comment symbol: one character that no other token starts with. -/
def commentSymbol (sec : Section) (standard : Phrase) : Except SettingsFault Phrase :=
  match sec.entries.value? "comment_symbol" with
  | none => .ok standard
  | some (.text symbol) =>
    match symbol with
    | [point] =>
      let reserved (c : Char) : Bool := Text.isAlphanumeric c || Text.isSeparator c || isQuote c
      if point.char?.any reserved then .error (.symbolReserved symbol) else .ok symbol
    | _ => .error (.symbolNotSingle (.text symbol))
  | some other => .error (.symbolNotSingle other)

def lexer (sec : Section) : Except SettingsFault LexerSettings := do
  let standard : LexerSettings := {}
  let commentSymbol ← sec.commentSymbol standard.commentSymbol
  let debug ← sec.bool "debug" standard.debug
  return { commentSymbol, debug }

def engine (sec : Section) : Except SettingsFault EngineSettings := do
  let standard : EngineSettings := {}
  let stackCapacity ← sec.int "stack_capacity" standard.stackCapacity
  let maxRepeat ← sec.int "max_repeat" standard.maxRepeat
  let trace ← sec.bool "trace" standard.trace
  let normalizeAngle ← sec.bool "normalize_angle" standard.normalizeAngle
  return { stackCapacity, maxRepeat, trace, normalizeAngle }

def amount? : Datum → Option UInt8
  | .int value => if 0 ≤ value ∧ value ≤ 255 then some value.toNat.toUInt8 else none
  | _ => none

def rgb? : Datum → Option Rgb
  | .list [red, green, blue] => do
    return ⟨← amount? red, ← amount? green, ← amount? blue⟩
  | _ => none

/-- The palette with the given entries, of which a later one for the same color counts. -/
def paletteWith : Entries → Palette → Except SettingsFault Palette
  | [], palette => .ok palette
  | (name, value) :: rest, palette =>
    match name.toString?.bind fun text => (Color.ofName? text).map (text, ·) with
    | none => .error (.unknownPaletteColor name)
    | some (text, color) =>
      match rgb? value with
      | none => .error (.notRgb text value)
      | some rgb => paletteWith rest (palette.set color rgb)

def palette (sec : Section) : Except SettingsFault Palette :=
  paletteWith sec.entries Palette.standard

/-- The name of a level, in capitals. -/
def level (sec : Section) (standard : String) : Except SettingsFault String :=
  let name := Phrase.uppercase (((sec.entries.value? "level").map Datum.shown).getD standard)
  match name.toString?.bind fun text => (Level.ofName? text).map fun _ => text with
  | some text => .ok text
  | none => .error (.unknownLevel name)

/-- The log file; no value means none. -/
def logFile (sec : Section) : Option Phrase :=
  match sec.entries.value? "file" with
  | none => none
  | some .null => none
  | some other => some other.shown

def logging (sec : Section) : Except SettingsFault LogSettings := do
  let standard : LogSettings := {}
  let level ← sec.level standard.level
  let json ← sec.bool "json" standard.json
  let color ← sec.bool "color" standard.color
  return { level, json, color, file := sec.logFile }

end Section

namespace Settings

def check (settings : Settings) : Except SettingsFault Settings :=
  let c := settings.canvas
  let t := settings.turtle
  let e := settings.engine
  if c.width ≤ 0 ∨ c.height ≤ 0 then .error (.canvasNotPositive c.width c.height)
  else if ¬ (0 ≤ t.homeX ∧ t.homeX < c.width ∧ 0 ≤ t.homeY ∧ t.homeY < c.height) then
    .error (.homeOutside t.homeX t.homeY c.width c.height)
  else if t.glyphSize ≤ 0 then .error (.glyphNotPositive t.glyphSize)
  else if e.stackCapacity ≤ 0 ∨ e.stackCapacity % 2 ≠ 0 then
    .error (.capacityNotEven e.stackCapacity)
  else if e.maxRepeat ≤ 0 then .error (.repeatNotPositive e.maxRepeat)
  else .ok settings

def ofEntries (data : Entries) : Except SettingsFault Settings := do
  let canvas ← (← Section.of data "canvas").canvas
  let turtle ← (← Section.of data "turtle").turtle
  let lexer ← (← Section.of data "lexer").lexer
  let engine ← (← Section.of data "engine").engine
  let palette ← (← Section.of data "palette").palette
  let logging ← (← Section.of data "logging").logging
  check { canvas, turtle, lexer, engine, palette, logging }

/-- The settings of structured data; no data gives the standard settings. -/
def ofDatum : Datum → Except SettingsFault Settings
  | .null => ofEntries []
  | .mapping entries => ofEntries entries
  | other => .error (.rootNotMapping other)

end Settings

end TurtleGraphics
