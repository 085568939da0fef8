import TurtleGraphics.Printing.Settings
import TurtleGraphics.Proofs.Settings.Kinds

/-! # What is raised for settings

A fault of settings is raised with a message that shows the value at fault. All that a message can
show stands in the data, is text, or is an integer of the settings. So where the whole of the data
can be printed, nothing but faults of the data is raised.
-/

namespace TurtleGraphics

namespace Datum

variable {nesting inner : Nat}

mutual

theorem printFault?_succ : ∀ {nesting : Nat} {data : Datum}, data.printFault? nesting = none →
    data.printFault? (nesting + 1) = none
  | _, .int _, h => by
      rw [printFault?] at h ⊢
      exact h
  | _, .list _, h => by
      rw [printFault?] at h ⊢
      exact itemsFault?_succ h
  | _, .mapping _, h => by
      rw [printFault?] at h ⊢
      exact entriesFault?_succ h
  | _, .null, _ | _, .bool _, _ | _, .float _, _ | _, .text _, _ => rfl

private theorem itemsFault?_succ :
    ∀ {nesting : Nat} {items : List Datum}, itemsFault? nesting items = none →
    itemsFault? (nesting + 1) items = none
  | _, [], _ => rfl
  | 0, _ :: _, h => nomatch h
  | _ + 1, _ :: _, h => by
      rw [itemsFault?, Option.or_eq_none_iff] at h ⊢
      exact ⟨printFault?_succ h.1, itemsFault?_succ h.2⟩

private theorem entriesFault?_succ : ∀ {nesting : Nat} {entries : List (Phrase × Datum)},
    entriesFault? nesting entries = none → entriesFault? (nesting + 1) entries = none
  | _, [], _ => rfl
  | 0, _ :: _, h => nomatch h
  | _ + 1, (_, _) :: _, h => by
      rw [entriesFault?, Option.or_eq_none_iff] at h ⊢
      exact ⟨printFault?_succ h.1, entriesFault?_succ h.2⟩

end

theorem printFault?_of_mem {entries : Entries} {entry : Phrase × Datum}
    (h : entriesFault? nesting entries = none) (hmem : entry ∈ entries) :
    ∃ inner, nesting = inner + 1 ∧ entry.2.printFault? inner = none := by
  induction entries with
  | nil => cases hmem
  | cons first rest ih =>
      cases nesting with
      | zero => cases h
      | succ inner =>
          obtain ⟨printed, others⟩ := Option.or_eq_none_iff.mp h
          rcases List.mem_cons.mp hmem with rfl | hmem
          · exact ⟨inner, rfl, printed⟩
          · exact ih others hmem

end Datum

namespace Section

variable {k : FieldKind} {α β : Type} {sec : Section}

/-- What a message about a section can show: texts, and what stands in the section. -/
inductive Shows (sec : Section) : Datum → Prop where
  | text (text : Phrase) : sec.Shows (.text text)
  | entry {key : Phrase} {value : Datum} : (key, value) ∈ sec.entries → sec.Shows value

theorem Shows.found {key : String} {value : Datum} (h : sec.entries.value? key = some value) :
    sec.Shows value :=
  .entry (mem_of_lookup h)

/-- A reading whose fault shows nothing but what the section can show. -/
def Tells (sec : Section) (x : Except SettingsFault α) : Prop :=
  ∀ fault, x = .error fault → ∀ value ∈ fault.shown, sec.Shows value

theorem Tells.pure (a : α) : sec.Tells (Except.ok a) :=
  nofun

theorem Tells.bind {x : Except SettingsFault α} {f : α → Except SettingsFault β} (h : sec.Tells x)
    (hf : ∀ a, sec.Tells (f a)) : sec.Tells (x >>= f) := by
  cases x with
  | error fault => exact fun fault' hfault => h fault' (congrArg _ (Except.error.inj hfault))
  | ok a => exact hf a

theorem tells_of_shown {fault : SettingsFault} {value : Datum} (hshown : fault.shown = [value])
    (h : sec.Shows value) : sec.Tells (Except.error fault : Except SettingsFault α) := by
  rintro fault' ⟨⟩ value' hmem
  rw [hshown] at hmem
  exact List.mem_singleton.mp hmem ▸ h

theorem tells_read (field : Field k) : sec.Tells (sec.read field) := by
  cases k with
  | integer =>
      simp only [read, int]
      split
      · exact .pure _
      · exact .pure _
      · exact tells_of_shown rfl (.found ‹_›)
  | truth =>
      simp only [read, bool]
      split
      · exact .pure _
      · exact .pure _
      · exact tells_of_shown rfl (.found ‹_›)
  | color =>
      simp only [read, Section.color]
      split
      · exact .pure _
      · exact .pure _
      · split
        · exact .pure _
        · exact tells_of_shown rfl (.found ‹_›)
  | symbol =>
      simp only [read, Section.commentSymbol]
      split
      · exact .pure _
      · split
        · split
          · exact tells_of_shown rfl (.text _)
          · exact .pure _
        · exact tells_of_shown rfl (.text _)
      · exact tells_of_shown rfl (.found ‹_›)
  | level =>
      simp only [read, Section.level]
      split
      · exact .pure _
      · exact tells_of_shown rfl (.text _)
  | file => exact .pure _

theorem tells_canvas : sec.Tells sec.canvas := by
  rw [canvas_eq]
  exact (tells_read _).bind fun _ => (tells_read _).bind fun _ => .pure _

theorem tells_turtle : sec.Tells sec.turtle := by
  rw [turtle_eq]
  exact (tells_read _).bind fun _ => (tells_read _).bind fun _ => (tells_read _).bind fun _ =>
    (tells_read _).bind fun _ => (tells_read _).bind fun _ => (tells_read _).bind fun _ => .pure _

theorem tells_lexer : sec.Tells sec.lexer := by
  rw [lexer_eq]
  exact (tells_read _).bind fun _ => (tells_read _).bind fun _ => .pure _

theorem tells_engine : sec.Tells sec.engine := by
  rw [engine_eq]
  exact (tells_read _).bind fun _ => (tells_read _).bind fun _ => (tells_read _).bind fun _ =>
    (tells_read _).bind fun _ => .pure _

theorem tells_logging : sec.Tells sec.logging := by
  rw [logging_eq]
  exact (tells_read _).bind fun _ => (tells_read _).bind fun _ => (tells_read _).bind fun _ =>
    (tells_read _).bind fun _ => .pure _

theorem tells_palette : sec.Tells sec.palette := by
  have listed : ∀ (entries : Entries) (palette : Palette), entries ⊆ sec.entries →
      sec.Tells (paletteWith entries palette) := by
    intro entries
    induction entries with
    | nil => exact fun _ _ => .pure _
    | cons entry rest ih =>
        intro palette hsub
        obtain ⟨here, there⟩ := List.cons_subset.mp hsub
        unfold paletteWith
        split
        · exact tells_of_shown rfl (.text _)
        · split
          · exact tells_of_shown rfl (.entry here)
          · exact ih _ there
  exact listed _ _ (List.Subset.refl _)

end Section

theorem Section.printFault?_of_shows {nesting : Nat} {data : Entries} {name : String}
    {sec : Section}
    (hdata : Datum.entriesFault? nesting data = none) (hsec : Section.of data name = .ok sec)
    {value : Datum} (h : sec.Shows value) : value.printFault? nesting = none := by
  cases h with
  | text => rfl
  | @entry key value hmem =>
      obtain rfl := Section.eq_of hsec
      unfold Entries.inside at hmem
      split at hmem
      · rename_i entries hfound
        obtain ⟨inner, rfl, whole⟩ := Datum.printFault?_of_mem hdata (mem_of_lookup hfound)
        obtain ⟨inner', rfl, printed⟩ := Datum.printFault?_of_mem whole hmem
        exact Datum.printFault?_succ (Datum.printFault?_succ printed)
      · cases hmem

/-! ## Raising -/

/-- What a reading comes to when its faults are raised: the same value, its fault with a message, or
    that something cannot be printed, which all can be where `whole` holds. -/
inductive Raises (nesting : Nat) (whole : Prop) {α : Type} :
    Except SettingsFault α → Except (Raised SettingsFault) α → Prop where
  | ok (a : α) : Raises nesting whole (.ok a) (.ok a)
  | fault {fault : SettingsFault} : fault.printFault? nesting = none →
      Raises nesting whole (.error fault) (.error (.fault fault))
  | printing {x : Except SettingsFault α} {unprinted : PrintFault} : ¬ whole →
      Raises nesting whole x (.error (.printing unprinted))

namespace Raises

variable {nesting : Nat} {whole : Prop} {α β : Type} {x : Except SettingsFault α}
  {y : Except (Raised SettingsFault) α}

theorem bind {f : α → Except SettingsFault β} {g : α → Except (Raised SettingsFault) β}
    (h : Raises nesting whole x y) (hf : ∀ a, x = .ok a → Raises nesting whole (f a) (g a)) :
    Raises nesting whole (x >>= f) (y >>= g) := by
  cases h with
  | ok a => exact hf a rfl
  | fault printed => exact .fault printed
  | printing unprinted => exact .printing unprinted

theorem mapError (h : whole → ∀ fault, x = .error fault → fault.printFault? nesting = none) :
    Raises nesting whole x (x.mapError (SettingsFault.raised nesting)) := by
  cases x with
  | ok a => exact .ok a
  | error fault =>
      rw [Except.mapError, SettingsFault.raised]
      cases hfault : fault.printFault? nesting with
      | none => exact .fault hfault
      | some unprinted => exact .printing fun all => by simp [h all fault rfl] at hfault

end Raises

namespace Settings

variable {nesting : Nat} {data : Entries}

theorem raises_section {α : Type} {name : String} {reader : Section → Except SettingsFault α}
    (h : ∀ sec : Section, sec.Tells (reader sec)) :
    Raises nesting (Datum.entriesFault? nesting data = none) (Section.of data name >>= reader)
      ((Section.of data name >>= reader).mapError (SettingsFault.raised nesting)) := by
  refine .mapError fun whole fault hfault => ?_
  rw [SettingsFault.printFault?, List.findSome?_eq_none_iff]
  intro value hmem
  cases hsec : Section.of data name with
  | ok sec =>
      rw [hsec] at hfault
      exact Section.printFault?_of_shows whole hsec (h sec fault hfault value hmem)
  | error cause =>
      rw [hsec] at hfault
      obtain rfl : cause = fault := Except.error.inj hfault
      unfold Section.of at hsec
      split at hsec
      · cases hsec
      · split at hsec
        · cases hsec
        · split at hsec
          · cases hsec
          · cases hsec
            cases hmem

theorem raises_demandText {sec : Section} (hsec : Section.of data "logging" = .ok sec)
    (key : String) :
    Raises nesting (Datum.entriesFault? nesting data = none) (.ok ())
      (sec.demandText nesting key) := by
  unfold Section.demandText
  split
  · exact .ok ()
  · rename_i unprinted hvalue
    refine .printing fun whole => ?_
    obtain ⟨value, hfound, hprint⟩ := Option.bind_eq_some_iff.mp hvalue
    rw [Section.printFault?_of_shows whole hsec (.found hfound)] at hprint
    cases hprint

theorem raises_logging :
    Raises nesting (Datum.entriesFault? nesting data = none)
      (Section.of data "logging" >>= Section.logging)
      ((Section.of data "logging").mapError (SettingsFault.raised nesting) >>=
        Section.parseLogging nesting) := by
  have found := @raises_section nesting data _ "logging" pure fun _ => .pure _
  rw [bind_pure] at found
  refine found.bind fun sec hsec => ?_
  have parts : sec.logging =
      (do (Except.ok () : Except SettingsFault Unit); let logging
        ← sec.logging; Except.ok (); return logging) := by
    cases sec.logging <;> rfl
  rw [parts]
  refine (raises_demandText hsec "level").bind fun _ _ => ?_
  refine Raises.bind (.mapError fun whole fault hfault => ?_) fun logging _ => ?_
  · rw [SettingsFault.printFault?, List.findSome?_eq_none_iff]
    exact fun value hmem =>
      Section.printFault?_of_shows whole hsec (Section.tells_logging fault hfault value hmem)
  · exact (raises_demandText hsec "file").bind fun _ _ => .ok logging

/-- The integers of settings are standard, or stand in the data. -/
theorem ReadFrom.ofInt?_get {settings : Settings} (h : settings.ReadFrom data)
    (whole : Datum.entriesFault? nesting data = none) (field : Field .integer) :
    PrintFault.ofInt? (settings.get field) = none := by
  have read := h.read field
  obtain ⟨sec, hsec⟩ :=
    h.exists_section (show field.sectionName ∈ sectionNames by cases field <;> decide)
  obtain rfl := Section.eq_of hsec
  simp only [Section.read, Section.int] at read
  split at read
  · rw [← Except.ok.inj read]
    cases field <;> decide +kernel
  · rename_i value hfound
    have printed := Section.printFault?_of_shows whole hsec (.found hfound)
    rw [Datum.printFault?] at printed
    rwa [← Except.ok.inj read]
  · cases read

theorem printFault?_of_check {settings : Settings} {fault : SettingsFault}
    (hints : ∀ field : Field .integer, PrintFault.ofInt? (settings.get field) = none)
    (h : settings.check = .error fault) : fault.printFault? nesting = none := by
  have width := hints .width
  have height := hints .height
  have homeX := hints .homeX
  have homeY := hints .homeY
  have glyph := hints .glyphSize
  have capacity := hints .stackCapacity
  have runs := hints .maxRepeat
  simp only [get] at width height homeX homeY glyph capacity runs
  unfold check at h
  dsimp only at h
  repeat' split at h
  all_goals
    cases h
    try simp only [SettingsFault.printFault?, SettingsFault.shown, List.findSome?,
      Datum.printFault?, width, height, homeX, homeY, glyph, capacity, runs]

theorem raises_parseEntries (nesting : Nat) (data : Entries) :
    Raises nesting (Datum.entriesFault? nesting data = none) (ofEntries data)
      (parseEntries nesting data) := by
  rw [ofEntries_eq]
  refine (raises_section fun _ => Section.tells_canvas).bind fun canvas hcanvas => ?_
  refine (raises_section fun _ => Section.tells_turtle).bind fun turtle hturtle => ?_
  refine (raises_section fun _ => Section.tells_lexer).bind fun lexer hlexer => ?_
  refine (raises_section fun _ => Section.tells_engine).bind fun engine hengine => ?_
  refine (raises_section fun _ => Section.tells_palette).bind fun palette hpalette => ?_
  refine raises_logging.bind fun logging hlogging => ?_
  have read : ReadFrom { canvas, turtle, lexer, engine, palette, logging } data :=
    ⟨exists_of_bind_ok hcanvas, exists_of_bind_ok hturtle, exists_of_bind_ok hlexer,
      exists_of_bind_ok hengine, exists_of_bind_ok hpalette, exists_of_bind_ok hlogging⟩
  exact .mapError fun whole fault hfault => printFault?_of_check (read.ofInt?_get whole) hfault

/-- Reading data raises what is wrong with it, or that something of the data cannot be printed. -/
theorem raises_parse (nesting : Nat) (data : Datum) :
    Raises nesting (data.printFault? nesting = none) (ofDatum data) (parse nesting data) := by
  cases data with
  | null => exact raises_parseEntries nesting []
  | mapping entries => exact raises_parseEntries nesting entries
  | bool | int | float | text | list => exact .fault rfl

theorem ofDatum_of_parse {settings : Settings} {data : Datum}
    (h : parse nesting data = .ok settings) :
    ofDatum data = .ok settings := by
  have raises := raises_parse nesting data
  rw [h] at raises
  generalize ofDatum data = read at raises
  cases raises
  rfl

end Settings

end TurtleGraphics
