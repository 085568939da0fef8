import TurtleGraphics.Proofs.Datum.Entries
import TurtleGraphics.Proofs.Datum.Escapes
import TurtleGraphics.Proofs.Datum.Names
import TurtleGraphics.Proofs.Datum.Numerals

/-! # Reading JSON as it was written

A value that is written as JSON is one line of ASCII, and it is read as the same value.
-/

namespace TurtleGraphics.Datum

/-- A value that JSON has a form for: doubles are finite, text has no pair of halves, and no name
stands twice in a mapping. -/
inductive IsJson : Datum → Prop where
  | null : IsJson .null
  | bool (value : Bool) : IsJson (.bool value)
  | int (value : Int) : IsJson (.int value)
  | float {value : Float} (hfinite : value.isFinite = true) : IsJson (.float value)
  | text {value : Phrase} (hjoined : value.Joined) : IsJson (.text value)
  | list {items : List Datum} (hitems : ∀ item ∈ items, IsJson item) : IsJson (.list items)
  | mapping {entries : Entries} (hnames : entries.names.Nodup)
      (hjoined : ∀ entry ∈ entries, entry.1.Joined)
      (hvalues : ∀ entry ∈ entries, IsJson entry.2) : IsJson (.mapping entries)

/-- With more fuel than it is long, the value is read, and what follows it is left. -/
def Reads (value : Datum) : Prop :=
  ∀ (fuel : Nat) (rest : List Char), value.jsonChars.length < fuel → EndsNumber rest →
    readValue fuel (value.jsonChars ++ rest) = some (value, rest)

variable {fuel : Nat} {cs rest : List Char} {result : Datum × List Char} {c : Char}

/-! ## What a value begins with -/

theorem skipBlanks_space (cs : List Char) : skipBlanks (' ' :: cs) = skipBlanks cs := by
  simp [skipBlanks]

theorem readValue_space (cs : List Char) : readValue fuel (' ' :: cs) = readValue fuel cs := by
  cases fuel with
  | zero => rfl
  | succ fuel => simp only [readValue, skipBlanks_space]

theorem exists_digit_of_spanDigits (h : (spanDigits cs).1.isEmpty = false) :
    ∃ c more, cs = c :: more ∧ c.isDigit = true := by
  cases cs with
  | nil => cases h
  | cons c more =>
      refine ⟨c, more, rfl, ?_⟩
      by_contra other
      simp [spanDigits, List.span_eq_takeWhile_dropWhile, other] at h

theorem head_of_readNumber (h : readNumber cs = some result) :
    (∃ c more, cs = c :: more ∧ c.isDigit = true) ∨ ∃ c more, cs = '-' :: c :: more ∧
    c.isDigit = true := by
  unfold readNumber at h
  split at h
  rename_i negative unsigned hsign
  cases hwhole : (spanDigits unsigned).1.isEmpty with
  | true => simp [hwhole] at h
  | false =>
      obtain ⟨c, more, rfl, digit⟩ := exists_digit_of_spanDigits hwhole
      split at hsign
      · cases hsign
        exact .inr ⟨c, more, rfl, digit⟩
      · cases hsign
        exact .inl ⟨c, more, rfl, digit⟩

theorem readNamed_of_isDigit (hc : c.isDigit = true) (more : List Char) :
    readNamed (c :: more) = none := by
  unfold readNamed
  split
  · rename_i heq
    cases heq
    cases hc
  · rename_i heq
    cases heq
    cases hc
  · rename_i heq
    cases heq
    cases hc
  · rfl

theorem readValue_number (h : readNumber cs = some result) :
    readValue (fuel + 1) cs = some result := by
  have named : readNamed cs = none := by
    obtain ⟨c, more, rfl, digit⟩ | ⟨c, more, rfl, digit⟩ := head_of_readNumber h
    · exact readNamed_of_isDigit digit more
    · rw [readNamed, readNamed_of_isDigit digit]
      rfl
  have start : ∃ c more, cs = c :: more ∧ (c.isDigit = true ∨ c = '-') := by
    obtain ⟨c, more, rfl, digit⟩ | ⟨c, more, rfl, digit⟩ := head_of_readNumber h
    · exact ⟨c, more, rfl, .inl digit⟩
    · exact ⟨'-', c :: more, rfl, .inr rfl⟩
  obtain ⟨c, more, rfl, digit⟩ := start
  have other : c ∉ [' ', '\n', '\r', '\t', 'n', 't', 'f', '"', '[', '\x7b'] := by
    intro hc
    have marks : ∀ b ∈ [' ', '\n', '\r', '\t', 'n', 't', 'f', '"', '[', '\x7b'],
        b.isDigit = false ∧ b ≠ '-' := by
      simp
    obtain ⟨plain, unsigned⟩ := marks c hc
    rcases digit with digit | rfl
    · exact Bool.false_ne_true (plain.symm.trans digit)
    · exact unsigned rfl
  have skipped : skipBlanks (c :: more) = c :: more := by
    apply List.dropWhile_cons_of_neg
    simp only [List.mem_cons, not_or] at other
    simp [other]
  rw [readValue, skipped]
  split
  iterate 6
    rename_i heq
    cases heq
    exact absurd (by decide) other
  rw [named, h]

theorem readValue_none (h : ∀ c, (skipBlanks cs).head? = some c → c = ']') :
    readValue fuel cs = none := by
  cases fuel with
  | zero => rfl
  | succ fuel =>
      rw [readValue]
      generalize skipBlanks cs = rest at *
      cases rest with
      | nil => rfl
      | cons c more =>
          obtain rfl := h c rfl
          rfl

/-! ## Lists and mappings -/

section

variable {item : Datum} {items : List Datum} {entries acc : Entries} {name : Phrase} {value : Datum}

theorem endsNumber_of_mark (h : c ∈ [',', ']', '\x7d']) (rest : List Char) :
    EndsNumber (c :: rest) := by
  rintro b ⟨⟩
  simp only [List.mem_cons, List.not_mem_nil, or_false] at h
  obtain rfl | rfl | rfl := h <;> simp

theorem skipBlanks_mark (h : c ∈ ['"', ':', ',', '[', ']', '\x7b', '\x7d']) (rest : List Char) :
    skipBlanks (c :: rest) = c :: rest := by
  simp only [List.mem_cons, List.not_mem_nil, or_false] at h
  obtain rfl | rfl | rfl | rfl | rfl | rfl | rfl := h <;> rfl

theorem readItems_space (cs : List Char) : readItems fuel (' ' :: cs) = readItems fuel cs := by
  cases fuel with
  | zero => rfl
  | succ fuel => simp only [readItems, readValue_space]

theorem readItems_none (h : skipBlanks cs = ']' :: rest) : readItems fuel cs = none := by
  cases fuel with
  | zero => rfl
  | succ fuel =>
      rw [readItems, readValue_none (by simp [h])]
      rfl

theorem readEntries_none (h : skipBlanks cs = '\x7d' :: rest) :
    readEntries fuel acc cs = none := by
  cases fuel with
  | zero => rfl
  | succ fuel =>
      rw [readEntries, h]
      rfl

theorem readEntries_space (cs : List Char) :
    readEntries fuel acc (' ' :: cs) = readEntries fuel acc cs := by
  cases fuel with
  | zero => rfl
  | succ fuel => simp only [readEntries, skipBlanks_space]

theorem jsonItems_cons_cons (item next : Datum) (more : List Datum) :
    jsonItems (item :: next :: more) = item.jsonChars ++ ',' :: ' ' :: jsonItems (next :: more) :=
  rfl

theorem readItems_jsonItems (hsome : items ≠ []) (h : ∀ item ∈ items, item.Reads)
    (hfuel : (jsonItems items).length + 1 < fuel) :
    readItems fuel (jsonItems items ++ ']' :: rest) = some (items, rest) := by
  induction items generalizing fuel with
  | nil => exact absurd rfl hsome
  | cons item more ih =>
      obtain ⟨fuel, rfl⟩ : ∃ before, fuel = before + 1 := ⟨fuel - 1, by omega⟩
      rw [List.forall_mem_cons] at h
      cases more with
      | nil =>
          have first := h.1 fuel (']' :: rest) (Nat.lt_of_succ_lt_succ hfuel)
            (endsNumber_of_mark (by simp) rest)
          rw [readItems, jsonItems, first]
          simp only [Option.bind_eq_bind, Option.bind_some, skipBlanks_mark (c := ']') (by simp)]
          rfl
      | cons next more =>
          rw [jsonItems_cons_cons, List.length_append, List.length_cons, List.length_cons] at hfuel
          have first :=
            h.1 fuel (',' :: ' ' :: (jsonItems (next :: more) ++ ']' :: rest)) (by omega)
            (endsNumber_of_mark (by simp) _)
          have others : readItems fuel (jsonItems (next :: more) ++ ']' :: rest) =
              some (next :: more, rest) :=
            ih (List.cons_ne_nil _ _) h.2 (by omega)
          rw [jsonItems_cons_cons, List.append_assoc, readItems, List.cons_append,
            List.cons_append, first]
          simp only [Option.bind_eq_bind, Option.bind_some, skipBlanks_mark (c := ',') (by simp),
            readItems_space, others]
          rfl

theorem readEntries_entry (hname : name.Joined) (h : value.Reads)
    (hfuel : value.jsonChars.length < fuel) (hrest : EndsNumber rest) :
    readEntries (fuel + 1) acc (jsonText name ++ ':' :: ' ' :: (value.jsonChars ++ rest)) =
      match skipBlanks rest with
      | ',' :: rest' => readEntries fuel (acc.put name value) rest'
      | '\x7d' :: rest' => some (acc.put name value, rest')
      | _ => none := by
  have text := readText_jsonText hname (':' :: ' ' :: (value.jsonChars ++ rest))
  have first := h fuel rest hfuel hrest
  rw [jsonText, List.cons_append, List.cons_append, List.append_assoc, List.singleton_append,
    readEntries, skipBlanks_mark (by simp)]
  simp only [text, Option.bind_eq_bind, Option.bind_some, skipBlanks_mark (c := ':') (by simp),
    readValue_space, first]
  rfl

theorem jsonEntries_cons_cons (name : Phrase) (value : Datum) (next : Phrase × Datum)
    (more : Entries) :
    jsonEntries ((name, value) :: next :: more) =
      jsonText name ++ ':' :: ' ' ::
        (value.jsonChars ++ ',' :: ' ' :: jsonEntries (next :: more)) := rfl

theorem jsonEntries_singleton (name : Phrase) (value : Datum) :
    jsonEntries [(name, value)] = jsonText name ++ ':' :: ' ' :: value.jsonChars := rfl

theorem readEntries_jsonEntries (hsome : entries ≠ []) (hnames : (acc ++ entries).names.Nodup)
    (hjoined : ∀ entry ∈ entries, entry.1.Joined) (h : ∀ entry ∈ entries, entry.2.Reads)
    (hfuel : (jsonEntries entries).length + 1 < fuel) :
    readEntries fuel acc (jsonEntries entries ++ '\x7d' :: rest) = some (acc ++ entries, rest) := by
  induction entries generalizing fuel acc with
  | nil => exact absurd rfl hsome
  | cons entry more ih =>
      obtain ⟨name, value⟩ := entry
      obtain ⟨fuel, rfl⟩ : ∃ before, fuel = before + 1 := ⟨fuel - 1, by omega⟩
      obtain ⟨joined, hjoined⟩ := List.forall_mem_cons.mp hjoined
      obtain ⟨reads, h⟩ := List.forall_mem_cons.mp h
      dsimp only at joined reads
      have new : name ∉ acc.names := by
        rw [Entries.names, List.map_append, List.nodup_append'] at hnames
        exact fun old => hnames.2.2 old (by simp)
      cases more with
      | nil =>
          rw [jsonEntries_singleton] at hfuel ⊢
          simp only [List.length_append, List.length_cons] at hfuel
          rw [List.append_assoc, List.cons_append, List.cons_append,
            readEntries_entry joined reads (by omega)
              (endsNumber_of_mark (c := '\x7d') (by simp) rest),
            skipBlanks_mark (c := '\x7d') (by simp), Entries.put_of_notMem new]
          rfl
      | cons next more =>
          rw [jsonEntries_cons_cons] at hfuel ⊢
          simp only [List.length_append, List.length_cons] at hfuel
          rw [List.append_assoc, List.cons_append, List.cons_append, List.append_assoc,
            List.cons_append,
            List.cons_append, readEntries_entry joined reads (by omega)
              (endsNumber_of_mark (c := ',') (by simp) _),
            skipBlanks_mark (c := ',') (by simp), Entries.put_of_notMem new]
          simp only
          rw [readEntries_space, ih (List.cons_ne_nil _ _) (by simpa using hnames) hjoined h
            (by omega), List.append_assoc]
          rfl

end

/-! ## Values -/

section

variable {value : Datum} {items : List Datum} {entries : Entries}

theorem reads_of_succ (h : ∀ fuel rest, value.jsonChars.length ≤ fuel → EndsNumber rest →
    readValue (fuel + 1) (value.jsonChars ++ rest) = some (value, rest)) : value.Reads
  | fuel + 1, rest, hfuel, hrest => h fuel rest (Nat.le_of_lt_succ hfuel) hrest

theorem reads_number (h : ∀ rest, EndsNumber rest →
    readNumber (value.jsonChars ++ rest) = some (value, rest)) : value.Reads :=
  reads_of_succ fun _ rest _ hrest => readValue_number (h rest hrest)

theorem reads_text {text : Phrase} (hjoined : text.Joined) : (Datum.text text).Reads := by
  apply reads_of_succ
  rintro fuel rest - -
  rw [jsonChars, jsonText, List.cons_append, List.cons_append, List.append_assoc,
    List.singleton_append, readValue, skipBlanks_mark (c := '"') (by simp)]
  simp only [readText_jsonText hjoined]
  rfl

theorem reads_list (h : ∀ item ∈ items, item.Reads) : (list items).Reads := by
  apply reads_of_succ
  rintro fuel rest hfuel -
  rw [jsonChars, List.cons_append, List.cons_append, List.append_assoc, List.singleton_append,
    readValue, skipBlanks_mark (c := '[') (by simp)]
  simp only [jsonChars, List.cons_append, List.length_cons, List.length_append] at hfuel
  cases items with
  | nil => rfl
  | cons item more =>
      have items : readItems fuel (jsonItems (item :: more) ++ ']' :: rest) =
          some (item :: more, rest) :=
        readItems_jsonItems (List.cons_ne_nil item more) h (by omega)
      simp only
      split
      · -- A list that is closed at once has no items to read.
        rename_i hclosed
        rw [readItems_none hclosed] at items
        cases items
      · rw [items]
        rfl

theorem reads_mapping (hnames : entries.names.Nodup) (hjoined : ∀ entry ∈ entries, entry.1.Joined)
    (h : ∀ entry ∈ entries, entry.2.Reads) : (mapping entries).Reads := by
  apply reads_of_succ
  rintro fuel rest hfuel -
  rw [jsonChars, List.cons_append, List.cons_append, List.append_assoc, List.singleton_append,
    readValue, skipBlanks_mark (c := '\x7b') (by simp)]
  simp only [jsonChars, List.cons_append, List.length_cons, List.length_append] at hfuel
  cases entries with
  | nil => rfl
  | cons entry more =>
      have entries : readEntries fuel [] (jsonEntries (entry :: more) ++ '\x7d' :: rest) =
          some (entry :: more, rest) :=
        readEntries_jsonEntries (List.cons_ne_nil entry more) hnames hjoined h (by omega)
      simp only
      split
      · rename_i hclosed
        rw [readEntries_none hclosed] at entries
        cases entries
      · rw [entries]
        rfl

/-- Every value that JSON has a form for is read as it was written. -/
theorem IsJson.reads (h : IsJson value) : value.Reads := by
  induction h with
  | null => exact reads_of_succ fun _ _ _ _ => rfl
  | bool value => exact reads_of_succ fun _ _ _ _ => by cases value <;> rfl
  | int value => exact reads_number fun _ hrest => readNumber_int value hrest
  | float hfinite => exact reads_number fun _ hrest =>
        readNumber_writeFloat jsonFloats hfinite hrest
  | text hjoined => exact reads_text hjoined
  | list _ ih => exact reads_list ih
  | mapping hnames hjoined _ ih => exact reads_mapping hnames hjoined ih

/-- A value is read back from its text. -/
theorem ofJson_json (h : IsJson value) : ofJson? value.json = some value := by
  have reads := h.reads (value.jsonChars.length + 1) [] (Nat.lt_succ_self _) (by simp [EndsNumber])
  rw [List.append_nil] at reads
  have some : (skipBlanks value.jsonChars).isEmpty = false := by
    cases hskipped : skipBlanks value.jsonChars with
    | nil =>
        rw [readValue_none (by simp [hskipped])] at reads
        cases reads
    | cons => rfl
  rw [ofJson?, read, json, String.toList_ofList, some, reads]
  rfl

end

/-! ## Characters -/

theorem isVisible_of_isNumeral (h : Text.IsNumeral c) : Text.IsVisible c := by
  obtain digit | mark := h
  · have := Text.toNat_of_isDigit digit
    unfold Text.IsVisible
    omega
  · have marks : ∀ b ∈ Text.numberMarks, Text.IsVisible b := by
      simp [Text.numberMarks, Text.IsVisible]
    exact marks c mark

theorem isVisible_toString (n : Int) : ∀ c ∈ (toString n).toList, Text.IsVisible c :=
  fun c hc => isVisible_of_isNumeral (Text.isNumeral_intText n c hc)

theorem isVisible_writeFloat (x : Float) :
    ∀ c ∈ (jsonFloats.writeFloat x).toList, Text.IsVisible c :=
  DecimalLayout.forall_mem_writeFloat (fun _ => isVisible_of_isNumeral)
    (by simp [jsonFloats, Text.IsVisible]) (by simp [jsonFloats, Text.IsVisible]) x

mutual

/-- Whatever the value, it is written in one line of ASCII. -/
theorem isVisible_jsonChars (value : Datum) : ∀ c ∈ value.jsonChars, Text.IsVisible c := by
  cases value with
  | null => simp [jsonChars, Text.IsVisible]
  | bool value => cases value <;> simp [jsonChars, Text.IsVisible]
  | int value => exact isVisible_toString value
  | float value => exact isVisible_writeFloat value
  | text value => exact isVisible_jsonText value
  | list items =>
      rw [jsonChars, List.cons_append, List.forall_mem_cons, List.forall_mem_append]
      exact ⟨by decide, isVisible_jsonItems items, List.forall_mem_singleton.mpr (by decide)⟩
  | mapping entries =>
      rw [jsonChars, List.cons_append, List.forall_mem_cons, List.forall_mem_append]
      exact ⟨by decide, isVisible_jsonEntries entries, List.forall_mem_singleton.mpr (by decide)⟩
termination_by sizeOf value

theorem isVisible_jsonItems (items : List Datum) : ∀ c ∈ jsonItems items, Text.IsVisible c := by
  cases items with
  | nil => simp [jsonItems]
  | cons item more =>
      cases more with
      | nil => exact isVisible_jsonChars item
      | cons next more =>
          rw [jsonItems_cons_cons, List.forall_mem_append, List.forall_mem_cons,
            List.forall_mem_cons]
          exact ⟨isVisible_jsonChars item, by decide, by decide, isVisible_jsonItems (next :: more)⟩
termination_by sizeOf items

theorem isVisible_jsonEntries (entries : List (Phrase × Datum)) :
    ∀ c ∈ jsonEntries entries, Text.IsVisible c := by
  cases entries with
  | nil => simp [jsonEntries]
  | cons entry more =>
      obtain ⟨name, value⟩ := entry
      cases more with
      | nil =>
          rw [jsonEntries_singleton, List.forall_mem_append, List.forall_mem_cons,
            List.forall_mem_cons]
          exact ⟨isVisible_jsonText name, by decide, by decide, isVisible_jsonChars value⟩
      | cons next more =>
          rw [jsonEntries_cons_cons, List.forall_mem_append, List.forall_mem_cons,
            List.forall_mem_cons,
            List.forall_mem_append, List.forall_mem_cons, List.forall_mem_cons]
          exact ⟨isVisible_jsonText name, by decide, by decide, isVisible_jsonChars value, by
            decide, by decide, isVisible_jsonEntries (next :: more)⟩
termination_by sizeOf entries

end

end TurtleGraphics.Datum
