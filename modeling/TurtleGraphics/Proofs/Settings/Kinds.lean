import TurtleGraphics.Proofs.Datum.Entries
import TurtleGraphics.Proofs.Datum.Names
import TurtleGraphics.Proofs.Settings.Overriding

/-! # Values of the wrong kind

A section is a mapping, each field takes data of one kind, and a color of the palette has three
integers. Any other value is refused, whatever else the data holds, except in two places: what
counts as nothing stands for a section without entries, and anything but no value names a log file
by its printed form.
-/

namespace TurtleGraphics

/-- Whether a datum is of the kind that a field takes. -/
def FieldKind.admits : FieldKind → Datum → Bool
  | .integer, .int _ | .truth, .bool _ | .symbol, .text _ | .level, .text _ => true
  | .color, .null | .color, .text _ | .file, .null | .file, .text _ => true
  | _, _ => false

namespace Datum

/-- Whether a datum can stand for a section. -/
def isSection : Datum → Bool
  | .null | .mapping _ => true
  | _ => false

/-- Whether a datum is a list of three integers. -/
def isTriple : Datum → Bool
  | .list [.int _, .int _, .int _] => true
  | _ => false

end Datum

namespace Section

variable {k : FieldKind} {sec : Section}

theorem color_ok {key : String} {standard color : Color} {found : Datum}
    (h : sec.color key standard = .ok color)
    (hfound : sec.entries.value? key = some found) (hgiven : found ≠ .null) :
    found.shown.toString?.bind Color.ofName? = some color := by
  unfold Section.color at h
  rw [hfound] at h
  cases found with
  | null => contradiction
  | bool | int | float | text | list | mapping =>
      dsimp only at h
      split at h
      · cases h
        assumption
      · cases h

theorem admits_of_read {field : Field k} {value : k.Value} (h : sec.read field = .ok value)
    (hfile : k ≠ .file) {found : Datum} (hfound : sec.entries.value? field.key = some found) :
    k.admits found = true := by
  cases k with
  | integer =>
      simp only [read, int, hfound] at h
      cases found with
      | int => rfl
      | null | bool | float | text | list | mapping => cases h
  | truth =>
      simp only [read, bool, hfound] at h
      cases found with
      | bool => rfl
      | null | int | float | text | list | mapping => cases h
  | color =>
      by_cases none : found = .null
      · subst none
        rfl
      · obtain ⟨text, rfl⟩ := Datum.color_of_shown (color_ok h hfound none)
        rfl
  | symbol =>
      cases field
      simp only [Field.key] at hfound
      simp only [read, Section.commentSymbol, hfound] at h
      cases found with
      | text => rfl
      | null | bool | int | float | list | mapping => cases h
  | level =>
      cases field
      simp only [Field.key] at hfound
      simp only [read, Section.level, hfound, Option.map_some, Option.getD_some] at h
      split at h
      · rename_i name hname
        obtain ⟨text, htext, hlevel⟩ := Option.bind_eq_some_iff.mp hname
        obtain ⟨level, hlevel, -⟩ := Option.map_eq_some_iff.mp hlevel
        obtain ⟨text, rfl⟩ :=
          Datum.level_of_shown (Option.bind_eq_some_iff.mpr ⟨text, htext, hlevel⟩)
        rfl
      · cases h
  | file => exact absurd rfl hfile

section

variable {canvas : CanvasSettings} {turtle : TurtleSettings} {lexer : LexerSettings}
  {engine : EngineSettings} {logging : LogSettings}

theorem canvas_ok (h : sec.canvas = .ok canvas) :
    sec.read .width = .ok canvas.width ∧ sec.read .height = .ok canvas.height := by
  rw [canvas_eq] at h
  obtain ⟨width, hwidth, h⟩ := exists_of_bind_ok h
  obtain ⟨height, hheight, h⟩ := exists_of_bind_ok h
  cases h
  exact ⟨hwidth, hheight⟩

theorem turtle_ok (h : sec.turtle = .ok turtle) :
    sec.read .homeX = .ok turtle.homeX ∧ sec.read .homeY = .ok turtle.homeY ∧
      sec.read .paper = .ok turtle.paper ∧
      sec.read .ink = .ok turtle.ink ∧ sec.read .glyphSize = .ok turtle.glyphSize ∧
      sec.read .glyphColor = .ok turtle.glyphColor := by
  rw [turtle_eq] at h
  obtain ⟨homeX, hhomeX, h⟩ := exists_of_bind_ok h
  obtain ⟨homeY, hhomeY, h⟩ := exists_of_bind_ok h
  obtain ⟨paper, hpaper, h⟩ := exists_of_bind_ok h
  obtain ⟨ink, hink, h⟩ := exists_of_bind_ok h
  obtain ⟨glyphSize, hglyphSize, h⟩ := exists_of_bind_ok h
  obtain ⟨glyphColor, hglyphColor, h⟩ := exists_of_bind_ok h
  cases h
  exact ⟨hhomeX, hhomeY, hpaper, hink, hglyphSize, hglyphColor⟩

theorem lexer_ok (h : sec.lexer = .ok lexer) :
    sec.read .commentSymbol = .ok lexer.commentSymbol ∧ sec.read .debug = .ok lexer.debug := by
  rw [lexer_eq] at h
  obtain ⟨symbol, hsymbol, h⟩ := exists_of_bind_ok h
  obtain ⟨debug, hdebug, h⟩ := exists_of_bind_ok h
  cases h
  exact ⟨hsymbol, hdebug⟩

theorem engine_ok (h : sec.engine = .ok engine) :
    sec.read .stackCapacity = .ok engine.stackCapacity ∧
      sec.read .maxRepeat = .ok engine.maxRepeat ∧
      sec.read .trace = .ok engine.trace ∧
      sec.read .normalizeAngle = .ok engine.normalizeAngle := by
  rw [engine_eq] at h
  obtain ⟨capacity, hcapacity, h⟩ := exists_of_bind_ok h
  obtain ⟨limit, hlimit, h⟩ := exists_of_bind_ok h
  obtain ⟨trace, htrace, h⟩ := exists_of_bind_ok h
  obtain ⟨normalize, hnormalize, h⟩ := exists_of_bind_ok h
  cases h
  exact ⟨hcapacity, hlimit, htrace, hnormalize⟩

theorem logging_ok (h : sec.logging = .ok logging) :
    sec.read .level = .ok logging.level ∧ sec.read .json = .ok logging.json ∧
      sec.read .color = .ok logging.color ∧ sec.read .file = .ok logging.file := by
  rw [logging_eq] at h
  obtain ⟨level, hlevel, h⟩ := exists_of_bind_ok h
  obtain ⟨json, hjson, h⟩ := exists_of_bind_ok h
  obtain ⟨color, hcolor, h⟩ := exists_of_bind_ok h
  obtain ⟨file, hfile, h⟩ := exists_of_bind_ok h
  cases h
  exact ⟨hlevel, hjson, hcolor, hfile⟩

end

/-- Every entry of a palette that is read lists three integers, also one that a later entry
    overrides. -/
theorem isTriple_of_paletteWith {entries : Entries} {palette after : Palette}
    (h : paletteWith entries palette = .ok after) : ∀ entry ∈ entries, entry.2.isTriple = true := by
  induction entries generalizing palette with
  | nil => simp
  | cons entry entries ih =>
      obtain ⟨name, value⟩ := entry
      unfold paletteWith at h
      split at h
      · cases h
      · split at h
        · cases h
        · rename_i rgb hrgb
          rw [List.forall_mem_cons]
          refine ⟨?_, ih h⟩
          rw [rgb?_eq_some hrgb]
          rfl

theorem of_refuses {data : Entries} {name : String} {found : Datum}
    (hfound : data.value? name = some found)
    (hkind : found.isSection = false) (hgiven : found.isEmpty = false) :
    Section.of data name = .error (.sectionNotMapping name found) := by
  rw [Section.of, hfound]
  cases found with
  | null | mapping => cases hkind
  | bool | int | float | text | list => simp [hgiven]

theorem of_empty {data : Entries} {name : String} {found : Datum}
    (hfound : data.value? name = some found)
    (hempty : found.isEmpty = true) : Section.of data name = .ok ⟨name, []⟩ := by
  rw [Section.of, hfound]
  simp [hempty]

end Section

theorem Entries.value?_of_inside {data : Entries} {name : String} {key : Phrase} {found : Datum}
    (h : (data.inside name).value? key = some found) :
    data.value? name = some (.mapping (data.inside name)) := by
  unfold inside at h ⊢
  split
  · assumption
  · rename_i other
    split at h
    · exact absurd ‹_› (other _)
    · cases h

namespace Settings

variable {k : FieldKind} {settings : Settings} {data : Entries}

theorem ReadFrom.read (h : settings.ReadFrom data) (field : Field k) :
    Section.read ⟨field.sectionName, data.inside field.sectionName⟩ field =
      .ok (settings.get field) := by
  obtain ⟨⟨_, ofCanvas, canvas⟩, ⟨_, ofTurtle, turtle⟩, ⟨_, ofLexer, lexer⟩,
    ⟨_, ofEngine, engine⟩, -, ⟨_, ofLogging, logging⟩⟩ := h
  obtain rfl := Section.eq_of ofCanvas
  obtain rfl := Section.eq_of ofTurtle
  obtain rfl := Section.eq_of ofLexer
  obtain rfl := Section.eq_of ofEngine
  obtain rfl := Section.eq_of ofLogging
  obtain ⟨width, height⟩ := Section.canvas_ok canvas
  obtain ⟨homeX, homeY, paper, ink, glyphSize, glyphColor⟩ := Section.turtle_ok turtle
  obtain ⟨symbol, debug⟩ := Section.lexer_ok lexer
  obtain ⟨capacity, limit, trace, normalize⟩ := Section.engine_ok engine
  obtain ⟨level, json, color, file⟩ := Section.logging_ok logging
  cases field with
  | width => exact width
  | height => exact height
  | homeX => exact homeX
  | homeY => exact homeY
  | paper => exact paper
  | ink => exact ink
  | glyphSize => exact glyphSize
  | glyphColor => exact glyphColor
  | commentSymbol => exact symbol
  | debug => exact debug
  | stackCapacity => exact capacity
  | maxRepeat => exact limit
  | trace => exact trace
  | normalizeAngle => exact normalize
  | level => exact level
  | json => exact json
  | color => exact color
  | file => exact file

theorem ReadFrom.exists_section (h : settings.ReadFrom data) {name : String}
    (hname : name ∈ sectionNames) :
    ∃ sec, Section.of data name = .ok sec := by
  simp only [sectionNames, List.mem_cons, List.not_mem_nil, or_false] at hname
  obtain rfl | rfl | rfl | rfl | rfl | rfl := hname
  · exact h.canvas.imp fun _ => And.left
  · exact h.turtle.imp fun _ => And.left
  · exact h.lexer.imp fun _ => And.left
  · exact h.engine.imp fun _ => And.left
  · exact h.palette.imp fun _ => And.left
  · exact h.logging.imp fun _ => And.left

theorem ReadFrom.isTriple (h : settings.ReadFrom data) :
    ∀ entry ∈ data.inside "palette", entry.2.isTriple = true := by
  obtain ⟨_, ofPalette, palette⟩ := h.palette
  obtain rfl := Section.eq_of ofPalette
  exact Section.isTriple_of_paletteWith palette

theorem ofEntries_put_of_empty {name : String} {found : Datum}
    (hfound : data.value? name = some found)
    (hempty : found.isEmpty = true) : ofEntries (data.put name .null) = ofEntries data := by
  have same (other : String) : Section.of (data.put name .null) other = Section.of data other := by
    have hput := Entries.value?_put data name .null other
    by_cases here : Phrase.ofString other = Phrase.ofString name
    · rw [if_pos here] at hput
      rw [← here] at hfound
      rw [Section.of_empty hput rfl, Section.of_empty hfound hempty]
    · rw [if_neg here] at hput
      rw [Section.of, Section.of, hput]
  simp only [ofEntries, same]

/-- A log file that no text names is named by the printed form of its datum. -/
theorem ofEntries_put_file {entries : Entries} {found : Datum}
    (hlogging : data.value? "logging" = some (.mapping entries))
    (hfile : entries.value? "file" = some found) (hgiven : found ≠ .null) :
    ofEntries (data.put "logging" (.mapping (entries.put "file" (.text found.shown)))) =
      ofEntries data := by
  have hput := Entries.value?_put data "logging" (.mapping (entries.put "file" (.text found.shown)))
  have same (name : String) (apart : Phrase.ofString name ≠ Phrase.ofString "logging") :
      Section.of (data.put "logging" (.mapping (entries.put "file" (.text found.shown)))) name =
        Section.of data name := by
    rw [Section.of, Section.of, hput, if_neg apart]
  have logging : Section.logging ⟨"logging", entries.put "file" (.text found.shown)⟩ =
      Section.logging ⟨"logging", entries⟩ := by
    have kept {k : FieldKind} (field : Field k)
        (hkey : Phrase.ofString field.key ≠ Phrase.ofString "file") :
        Section.read ⟨"logging", entries.put "file" (.text found.shown)⟩ field =
          Section.read ⟨"logging", entries⟩ field :=
      Section.read_congr field rfl (by rw [Entries.value?_put, if_neg hkey])
    have file : Section.read ⟨"logging", entries.put "file" (.text found.shown)⟩ .file =
        Section.read ⟨"logging", entries⟩ .file := by
      simp only [Section.read, Section.logFile, Entries.value?_put, if_true, hfile]
      cases found with
      | null => contradiction
      | bool | int | float | text | list | mapping => rfl
    rw [Section.logging_eq, Section.logging_eq, kept .level (by decide), kept .json (by decide),
      kept .color (by decide), file]
  have given := hput "logging"
  rw [if_pos rfl] at given
  have read :
      (Section.of (data.put "logging" (.mapping (entries.put "file" (.text found.shown))))
        "logging" >>=
      Section.logging) = (Section.of data "logging" >>= Section.logging) := by
    rw [Section.of_mapping given, Section.of_mapping hlogging]
    exact logging
  rw [ofEntries_eq, ofEntries_eq, read, same "canvas" (by decide), same "turtle" (by decide),
    same "lexer" (by decide), same "engine" (by decide), same "palette" (by decide)]

/-- Data is refused if a section is neither a mapping nor empty, or if a field has a datum of
another kind, the log file apart, or if a color of the palette has anything but three integers.
These are all places of a kind but two: a section may be any value that counts as nothing, and then
has no entries, and the log file may be any value, and is then named by its printed form. -/
theorem ofDatum_refuses_wrong_kinds (data : Entries) :
    (∀ name ∈ sectionNames, ∀ found, data.value? name = some found → found.isSection = false →
      (found.isEmpty = false → ∃ fault, ofDatum (.mapping data) = .error fault) ∧
        (found.isEmpty = true → ofDatum (.mapping data) =
          ofDatum (.mapping (data.put name .null)))) ∧
    (∀ {k : FieldKind} (field : Field k) found, (data.inside field.sectionName).value? field.key =
      some found →
      k.admits found = false →
      (k ≠ .file → ∃ fault, ofDatum (.mapping data) = .error fault) ∧
        (k = .file → ofDatum (.mapping data) = ofDatum (.mapping (data.put "logging"
          (.mapping ((data.inside "logging").put "file" (.text found.shown))))))) ∧
    ∀ entry ∈ data.inside "palette", entry.2.isTriple = false →
    ∃ fault, ofDatum (.mapping data) = .error fault := by
  have refused (h : ∀ settings : Settings, ¬ settings.ReadFrom data) :
      ∃ fault, ofDatum (.mapping data) = .error fault := by
    cases hread : ofDatum (.mapping data) with
    | error fault => exact ⟨fault, rfl⟩
    | ok settings => exact absurd (readFrom_of_ofEntries hread).1 (h settings)
  refine ⟨?_, ?_, ?_⟩
  · intro name hname found hfound hkind
    refine ⟨fun hgiven => refused fun settings read => ?_, fun hempty =>
      (ofEntries_put_of_empty hfound hempty).symm⟩
    obtain ⟨sec, hsec⟩ := read.exists_section hname
    rw [Section.of_refuses hfound hkind hgiven] at hsec
    cases hsec
  · intro k field found hfound hkind
    refine ⟨fun hfile => refused fun settings read => ?_, ?_⟩
    · have admitted := Section.admits_of_read (read.read field) hfile hfound
      rw [admitted] at hkind
      cases hkind
    · rintro rfl
      cases field
      refine (ofEntries_put_file (Entries.value?_of_inside hfound) hfound ?_).symm
      rintro rfl
      cases hkind
  · intro entry hentry hkind
    refine refused fun settings read => ?_
    rw [read.isTriple entry hentry] at hkind
    cases hkind

/-- Of three kinds of wrong values the first two are refused; the third ones are taken, and with
them the number five as the name of a log file. -/
theorem ofDatum_refuses_wrong_kinds_falsy :
    let unnamed : Entries := [("turtle", .mapping [("ink", .bool false)])]
    let pale : Entries := [("palette", .mapping [("red", .list [.int 1, .bool true, .int 3])])]
    let empty : Entries := [("engine", .int 0), ("logging", .mapping [("file", .int 5)])]
    (∃ fault, ofDatum (.mapping unnamed) = .error fault) ∧
      (∃ fault, ofDatum (.mapping pale) = .error fault) ∧
      ofDatum (.mapping empty) =
        ofDatum (.mapping [("engine", .null), ("logging", .mapping [("file", .int 5)])]) ∧
      ofDatum (.mapping empty) =
        ofDatum (.mapping [("engine", .int 0), ("logging", .mapping [("file", .text "5")])]) := by
  intro unnamed pale empty
  obtain ⟨-, fields, -⟩ := ofDatum_refuses_wrong_kinds unnamed
  obtain ⟨-, -, pixels⟩ := ofDatum_refuses_wrong_kinds pale
  obtain ⟨sections, files, -⟩ := ofDatum_refuses_wrong_kinds empty
  refine ⟨(fields .ink (.bool false) rfl rfl).1 nofun,
    pixels _ (List.mem_singleton.mpr rfl) rfl, ?_, ?_⟩
  · exact (sections "engine" (by decide) (.int 0) rfl rfl).2 rfl
  · exact (files .file (.int 5) rfl rfl).2 rfl

/-- A section that is an empty list, and a log file that is a number, are taken. -/
theorem ofDatum_takes_wrong_kinds :
    let data : Entries := [("engine", .list []), ("logging", .mapping [("file", .int 5)])]
    (data.value? "engine" = some (.list []) ∧ (Datum.list []).isSection = false) ∧
      ((data.inside "logging").value? Field.file.key = some (.int 5) ∧
        FieldKind.file.admits (.int 5) = false) ∧
      ofDatum (.mapping data) = .ok { logging := { file := some "5" } } :=
  ⟨⟨rfl, rfl⟩, ⟨rfl, rfl⟩, rfl⟩

end Settings

end TurtleGraphics
