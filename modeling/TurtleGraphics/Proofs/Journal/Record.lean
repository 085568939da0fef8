import TurtleGraphics.Journal.Record
import TurtleGraphics.Proofs.Datum.Json

/-! # Records as JSON

A record is one line of ASCII, and whoever reads it finds the record and its context. A name in the
context that is also the name of a field takes the place of what the record says itself, so that a
record is shown as it is just if its context gives no such name another value.
-/

namespace TurtleGraphics.Record

/-- What a record says itself. -/
def own (pid : ProcessId) (moment : Moment) (record : Record) (message : Phrase) : Entries := [
  ("t", .text moment.long),
  ("lvl", .text record.level.name),
  ("name", .text record.speaker),
  ("pid", .int pid),
  ("msg", .text message)]

/-- The error a record tells of, as it is shown. -/
def failureShown (record : Record) : Option Datum :=
  record.failure.map fun failure => .text failure.shown

/-- The names that records have for what they say. -/
def fieldNames : List Phrase := ["t", "lvl", "name", "pid", "msg", "exc"]

section

variable (pid : ProcessId) (context : Entries) (moment : Moment) (record : Record)
  (message : Phrase) (entries : Entries)

/-- An object that has what the record says itself, an error just if the record tells of one, and
besides just what the context has under other names. -/
structure Faithful : Prop where
  own : ∀ entry ∈ own pid moment record message, entries.value? entry.1 = some entry.2
  failure : entries.value? "exc" = record.failureShown
  others : ∀ name ∉ fieldNames, entries.value? name = context.value? name

/-- What is shown in any case: a field has the value that the context has under its name, and only
without one what the record says. The error of a record stays in its place. -/
structure Shows : Prop where
  names : entries.names.Nodup
  own : ∀ entry ∈ own pid moment record message, entries.value? entry.1 =
    some ((context.value? entry.1).getD entry.2)
  failure : entries.value? "exc" = record.failureShown.or (context.value? "exc")
  others : ∀ name ∉ fieldNames, entries.value? name = context.value? name

/-- The context has no other value under the name of a field, and no error that the record does not
    tell of. -/
structure Clear : Prop where
  own : ∀ entry ∈ own pid moment record message, ∀ value, context.value? entry.1 = some value →
    value = entry.2
  failure : record.failureShown = none → context.value? "exc" = none

end

variable {pid : ProcessId} {context entries : Entries} {moment : Moment} {record : Record}
  {message name : Phrase} {entry : Phrase × Datum}

theorem Shows.faithful_iff (h : Shows pid context moment record message entries) :
    Faithful pid context moment record message entries ↔
    Clear pid context moment record message := by
  constructor
  · intro faithful
    refine ⟨fun entry hentry value hvalue => ?_, fun hfailure => ?_⟩
    · have shown := h.own entry hentry
      rw [faithful.own entry hentry, hvalue] at shown
      exact (Option.some.inj shown).symm
    · have shown := h.failure
      rw [faithful.failure, hfailure, Option.none_or] at shown
      exact shown.symm
  · intro clear
    refine ⟨fun entry hentry => ?_, ?_, h.others⟩
    · rw [h.own entry hentry]
      cases hvalue : context.value? entry.1 with
      | none => rfl
      | some value => rw [clear.own entry hentry value hvalue, Option.getD_some]
    · rw [h.failure]
      cases hfailure : record.failureShown with
      | none => exact clear.failure hfailure
      | some shown => rfl

/-! ## The entries of a record -/

theorem names_own :
    (own pid moment record message).names = ["t", "lvl", "name", "pid", "msg"] := rfl

theorem nodup_own : (own pid moment record message).names.Nodup := by
  rw [names_own]
  decide

/-- The context goes over what the record says itself, and the error over both. -/
theorem entries_eq : record.entries pid context moment message =
    match record.failureShown with
    | none => (own pid moment record message).putAll context
    | some shown => ((own pid moment record message).putAll context).put "exc" shown := by
  unfold Record.entries failureShown
  cases record.failure <;> rfl

theorem nodup_entries : (record.entries pid context moment message).names.Nodup := by
  have known : ((own pid moment record message).putAll context).names.Nodup :=
    Entries.nodup_putAll nodup_own context
  rw [entries_eq]
  cases record.failureShown with
  | none => exact known
  | some shown => exact Entries.nodup_put known _ _

theorem mem_entries (h : entry ∈ record.entries pid context moment message) :
    entry ∈ own pid moment record message ∨ entry ∈ context ∨
      ∃ shown, record.failureShown = some shown ∧ entry = (Phrase.ofString "exc", shown) := by
  rw [entries_eq] at h
  cases hfailure : record.failureShown with
  | none =>
      rw [hfailure] at h
      exact (Entries.mem_putAll h).imp_right .inl
  | some shown =>
      rw [hfailure] at h
      obtain h | h := Entries.mem_put h
      · exact (Entries.mem_putAll h).imp_right .inl
      · exact .inr (.inr ⟨shown, rfl, h⟩)

theorem value?_entries (hnames : context.names.Nodup) (name : Phrase) :
    (record.entries pid context moment message).value? name =
      (if name = "exc" then record.failureShown else none).or
        ((context.value? name).or ((own pid moment record message).value? name)) := by
  rw [entries_eq]
  cases record.failureShown with
  | none => simp [Entries.value?_putAll hnames]
  | some shown =>
      rw [Entries.value?_put, Entries.value?_putAll hnames]
      split <;> simp

theorem shows_entries (hnames : context.names.Nodup) :
    Shows pid context moment record message (record.entries pid context moment message) := by
  have apart : ∀ name ∈ (own pid moment record message).names, name ≠ "exc" := by
    rw [names_own]
    decide
  have absent {name : Phrase} (h : name ∉ (own pid moment record message).names) :
      (own pid moment record message).value? name = none := Entries.value?_of_notMem h
  refine ⟨nodup_entries, fun entry hentry => ?_, ?_, fun name hname => ?_⟩
  · rw [value?_entries hnames, if_neg (apart _ (List.mem_map_of_mem hentry)),
      Entries.value?_of_mem nodup_own hentry, Option.none_or]
    cases context.value? entry.1 <;> rfl
  · rw [value?_entries hnames, if_pos rfl, absent fun h => apart _ h rfl, Option.or_none]
  · rw [value?_entries hnames, if_neg, absent, Option.or_none, Option.none_or]
    · rw [names_own]
      exact fun h => hname (List.mem_append_left [Phrase.ofString "exc"] h)
    · rintro rfl
      exact hname (by decide)

/-! ## The line of a record -/

theorem joined_ofString (text : String) : (Phrase.ofString text).Joined :=
  Datum.joined_of_isText (Phrase.isText_ofString text)

theorem isJson_ofString (text : String) : (Datum.text (Phrase.ofString text)).IsJson :=
  .text (joined_ofString text)

theorem isJson_own (hmessage : message.Joined) (h : entry ∈ own pid moment record message) :
    entry.1.Joined ∧ entry.2.IsJson := by
  simp only [own, List.mem_cons, List.not_mem_nil, or_false] at h
  obtain rfl | rfl | rfl | rfl | rfl := h
  · exact ⟨joined_ofString _, isJson_ofString _⟩
  · exact ⟨joined_ofString _, isJson_ofString _⟩
  · exact ⟨joined_ofString _, isJson_ofString _⟩
  · exact ⟨joined_ofString _, .int _⟩
  · exact ⟨joined_ofString _, .text hmessage⟩

theorem isJson_entries (hmessage : message.Joined) (hcontext : (Datum.mapping context).IsJson) :
    (Datum.mapping (record.entries pid context moment message)).IsJson := by
  have every : ∀ entry ∈ record.entries pid context moment message, entry.1.Joined ∧
      entry.2.IsJson := by
    intro entry hentry
    obtain h | h | ⟨shown, hfailure, rfl⟩ := mem_entries hentry
    · exact isJson_own hmessage h
    · cases hcontext with
      | mapping _ hjoined hvalues => exact ⟨hjoined entry h, hvalues entry h⟩
    · obtain ⟨failure, -, rfl⟩ := Option.map_eq_some_iff.mp hfailure
      exact ⟨joined_ofString _, isJson_ofString _⟩
  exact .mapping nodup_entries (fun entry h => (every entry h).1) fun entry h => (every entry h).2

theorem write_json (hmoment : Moment.ofSeconds record.created = .ok moment)
    (hmessage : record.message = .ok message) :
    record.write .json pid context =
      .ok (Phrase.ofString (Datum.mapping (record.entries pid context moment message)).json) := by
  simp [write, hmoment, hmessage, bind, Except.bind, Except.mapError, pure, Except.pure]

/-- A record is written as one line of ASCII, which is read as an object with what the record says
and its context. It shows both as they are just if they do not contend for a name. -/
theorem write_json_read (hmoment : Moment.ofSeconds record.created = .ok moment)
    (hmessage : record.message = .ok message)
    (hjoined : message.Joined) (hcontext : (Datum.mapping context).IsJson) :
    ∃ line entries, record.write .json pid context = .ok (Phrase.ofString line) ∧
      (∀ c ∈ line.toList, Text.IsVisible c) ∧ Datum.ofJson? line = some (.mapping entries) ∧
      Shows pid context moment record message entries ∧
      (Faithful pid context moment record message entries ↔
        Clear pid context moment record message) := by
  have shows :
      Shows pid context moment record message (record.entries pid context moment message) := by
    cases hcontext with
    | mapping hnames => exact shows_entries hnames
  refine ⟨_, _, write_json hmoment hmessage, ?_,
    Datum.ofJson_json (isJson_entries hjoined hcontext), shows, shows.faithful_iff⟩
  rw [Datum.json, String.toList_ofList]
  exact Datum.isVisible_jsonChars _

/-- The message has a line end, quotes and a letter that is not ASCII, and the context gives the
    level that the record has. -/
theorem write_json_read_clear :
    let record : Record :=
      { level := .error, speaker := "logo", template := "%d\n%s",
        arguments := [.int 3, .text "\"é\""],
        created := .whole 0, failure := some ⟨"ValueError", "bad"⟩ }
    let context : Entries := [("tool", .text "trace"), ("lvl", .text "ERROR")]
    ∃ line entries, record.write .json 7 context = .ok (Phrase.ofString line) ∧
      (∀ c ∈ line.toList, Text.IsVisible c) ∧ Datum.ofJson? line = some (.mapping entries) ∧
      Faithful 7 context ⟨1970, 1, 1, 0, 0, 0, 0⟩ record "3\n\"é\"" entries := by
  intro record context
  have parts : TemplatePart.split record.template.toList.length record.template.toList =
      [.place ⟨.next, [], .unstated, .unstated, some 'd'⟩ 1, .plain '\n',
        .place ⟨.next, [], .unstated, .unstated, some 's'⟩ 4] := by
    simp only [record]
    cbv
  have hmessage : record.message = .ok "3\n\"é\"" := by
    rw [message, Template.fill, if_neg (by exact Bool.false_ne_true)]
    dsimp only
    rw [parts]
    rfl
  have hcontext : (Datum.mapping context).IsJson := by
    refine .mapping (by decide) ?_ ?_
    · simp [context, joined_ofString]
    · simp [context, isJson_ofString]
  have hmoment : Moment.ofSeconds record.created = .ok ⟨1970, 1, 1, 0, 0, 0, 0⟩ := rfl
  obtain ⟨line, entries, hwrite, hvisible, hread, -, faithful⟩ :=
    write_json_read hmoment hmessage (joined_ofString _) hcontext
  refine ⟨line, entries, hwrite, hvisible, hread, faithful.mpr ⟨?_, fun h => nomatch h⟩⟩
  simp only [own, List.forall_mem_cons]
  refine ⟨?_, ?_, ?_, ?_, ?_, ?_⟩
  · rintro value ⟨⟩
  · rintro value ⟨⟩
    rfl
  · rintro value ⟨⟩
  · rintro value ⟨⟩
  · rintro value ⟨⟩
  · simp

/-- The context takes the place of the message, which nobody can read any more. -/
theorem write_json_loses_message :
    let record : Record :=
      { level := .info, speaker := "logo", template := "hello", created := .whole 0 }
    let context : Entries := [("msg", .text "lost")]
    ∃ line entries, record.write .json 4242 context = .ok (Phrase.ofString line) ∧
      Datum.ofJson? line = some (.mapping entries) ∧ record.message = .ok "hello" ∧
      Entries.value? entries "msg" = some (.text "lost") := by
  intro record context
  have hmoment : Moment.ofSeconds record.created = .ok ⟨1970, 1, 1, 0, 0, 0, 0⟩ := rfl
  have hmessage : record.message = .ok "hello" := rfl
  have hcontext : (Datum.mapping context).IsJson := by
    refine .mapping (by decide) ?_ ?_
    · simp [context, joined_ofString]
    · simp [context, isJson_ofString]
  exact ⟨_, _, write_json hmoment hmessage,
    Datum.ofJson_json (isJson_entries (joined_ofString _) hcontext), hmessage, rfl⟩

end TurtleGraphics.Record
