import TurtleGraphics.Proofs.Script.Reading

/-! # Text that is replaced and indented

Replacing a mark passes a text from the left: where the mark stands it goes on behind it, and
anywhere else at the next character. A character that is not in the mark parts a text into two that
are replaced by themselves. Text whose lines have nothing but newlines at their ends is indented
line by line.
-/

namespace TurtleGraphics.Text

theorem isBlankLine_ofList {chars : List Char} (h : isBlankLine chars = false) :
    isBlankLine (String.ofList chars).toList = false := by
  rwa [String.toList_ofList]

theorem isBlankLine_append (s : String) {t : String} (h : isBlankLine t.toList = false) :
    isBlankLine (s ++ t).toList = false := by
  rw [isBlankLine] at h ⊢
  rw [String.toList_append, List.all_append, h, Bool.and_false]

/-! ## Replacing -/

variable {mark replacement front rest text : List Char} {c : Char}

theorem replaceFrom_eq (mark replacement : List Char) (skip : Nat) (text : List Char) :
    replaceFrom mark replacement skip text = replaceAll mark replacement (text.drop skip) := by
  induction text generalizing skip with
  | nil => simp [replaceAll, replaceFrom]
  | cons c rest ih =>
      cases skip with
      | zero => rfl
      | succ skip =>
          rw [replaceFrom, if_pos (Nat.succ_pos skip), Nat.add_sub_cancel, ih, List.drop_succ_cons]

@[simp]
theorem replaceAll_nil (mark replacement : List Char) : replaceAll mark replacement [] = [] :=
  rfl

theorem replaceAll_mark (hmark : mark ≠ []) (replacement rest : List Char) :
    replaceAll mark replacement (mark ++ rest) =
      replacement ++ replaceAll mark replacement rest := by
  cases mark with
  | nil => exact absurd rfl hmark
  | cons c mark =>
      have found : (c :: mark) ≠ [] ∧ (c :: mark).isPrefixOf (c :: (mark ++ rest)) = true :=
        ⟨hmark, List.isPrefixOf_iff_prefix.mpr (List.prefix_append (c :: mark) rest)⟩
      rw [replaceAll, List.cons_append, replaceFrom, if_neg (Nat.lt_irrefl 0), if_pos found,
        replaceFrom_eq]
      simp

theorem replaceAll_cons (h : ¬ mark <+: c :: rest) (replacement : List Char) :
    replaceAll mark replacement (c :: rest) = c :: replaceAll mark replacement rest := by
  have missing : ¬ (mark ≠ [] ∧ mark.isPrefixOf (c :: rest) = true) :=
    fun found => h (List.isPrefixOf_iff_prefix.mp found.2)
  rw [replaceAll, replaceFrom, if_neg (Nat.lt_irrefl 0), if_neg missing]
  rfl

@[elab_as_elim]
theorem replaceAll_induction (hmark : mark ≠ []) {motive : List Char → Prop} (nil : motive [])
    (found : ∀ rest, motive rest → motive (mark ++ rest))
    (other : ∀ c rest, ¬ mark <+: c :: rest → motive rest → motive (c :: rest)) (text : List Char) :
    motive text := by
  cases text with
  | nil => exact nil
  | cons c rest =>
      by_cases h : mark <+: c :: rest
      · obtain ⟨behind, hbehind⟩ := h
        have shorter : behind.length ≤ rest.length := by
          have whole := congrArg List.length hbehind
          have := List.length_pos_iff.mpr hmark
          simp only [List.length_append, List.length_cons] at whole
          omega
        rw [← hbehind]
        exact found behind (replaceAll_induction hmark nil found other behind)
      · exact other c rest h (replaceAll_induction hmark nil found other rest)
termination_by text.length

theorem prefix_of_prefix_append (hc : c ∉ mark) (h : mark <+: front ++ c :: rest) :
    mark <+: front := by
  rcases List.prefix_or_prefix_of_prefix h (List.prefix_append front (c :: rest)) with
    inside | beyond
  · exact inside
  · obtain ⟨behind, rfl⟩ := beyond
    cases behind with
    | nil => simp
    | cons d behind =>
        have same : d = c :=
          (List.cons_prefix_cons.mp ((List.prefix_append_right_inj front).mp h)).1
        exact absurd (by simp [same]) hc

/-- What stands before and behind a character that is not in the mark is replaced by itself. -/
theorem replaceAll_append_cons (hmark : mark ≠ []) (hc : c ∉ mark)
    (replacement front rest : List Char) :
    replaceAll mark replacement (front ++ c :: rest) =
      replaceAll mark replacement front ++ c :: replaceAll mark replacement rest := by
  induction front using replaceAll_induction hmark with
  | nil =>
      have missing : ¬ mark <+: c :: rest := fun h =>
        hmark
          (List.prefix_nil.mp (prefix_of_prefix_append hc (show mark <+: [] ++ c :: rest from h)))
      rw [List.nil_append, replaceAll_cons missing, replaceAll_nil, List.nil_append]
  | found behind ih =>
      rw [List.append_assoc, replaceAll_mark hmark, replaceAll_mark hmark, ih, List.append_assoc]
  | other d front h ih =>
      have missing : ¬ mark <+: d :: (front ++ c :: rest) := fun found =>
        h (prefix_of_prefix_append hc (show mark <+: (d :: front) ++ c :: rest from found))
      rw [List.cons_append, replaceAll_cons missing, replaceAll_cons h, ih, List.cons_append]

theorem replaceAll_of_not_infix (h : ¬ mark <:+: text) (replacement : List Char) :
    replaceAll mark replacement text = text := by
  induction text with
  | nil => rfl
  | cons c rest ih =>
      rw [List.infix_cons_iff, not_or] at h
      rw [replaceAll_cons h.1, ih h.2]

theorem replaceAll_of_notMem (hc : c ∈ mark) (htext : c ∉ text) (replacement : List Char) :
    replaceAll mark replacement text = text :=
  replaceAll_of_not_infix (fun h => htext (h.mem hc)) replacement

/-- Each time that the mark stands in a text, a character that the replacement does not bring back
    is lost. -/
theorem count_replaceAll (hc : c ∈ mark) (hreplacement : c ∉ replacement) (text : List Char) :
    (replaceAll mark replacement text).count c ≤ text.count c ∧
      (mark <:+: text → (replaceAll mark replacement text).count c < text.count c) := by
  have hmark := List.ne_nil_of_mem hc
  have lost : 0 < mark.count c := List.count_pos_iff.mpr hc
  induction text using replaceAll_induction hmark with
  | nil => exact ⟨Nat.le_refl _, fun h => absurd (List.infix_nil.mp h) hmark⟩
  | found rest ih =>
      rw [replaceAll_mark hmark, List.count_append, List.count_append,
        List.count_eq_zero.mpr hreplacement]
      exact ⟨by omega, fun _ => by omega⟩
  | other d rest h ih =>
      rw [replaceAll_cons h, List.count_cons, List.count_cons, List.infix_cons_iff]
      exact ⟨by omega, fun inside => by have := ih.2 (inside.resolve_left h); omega⟩

/-- With a replacement that has not all characters of the mark, a text stays as it is only without
    the mark. -/
theorem replaceAll_eq_self_iff (hc : c ∈ mark) (hreplacement : c ∉ replacement) :
    replaceAll mark replacement text = text ↔ ¬ mark <:+: text := by
  refine ⟨fun same h => ?_, fun h => replaceAll_of_not_infix h replacement⟩
  have fewer := (count_replaceAll hc hreplacement text).2 h
  rw [same] at fewer
  exact Nat.lt_irrefl _ fewer

theorem not_infix_append {d : Char} {tail : List Char} (hfront : c ∉ front) (hrest : d ∉ rest) :
    ¬ c :: d :: tail <:+: front ++ rest := by
  rintro ⟨start, behind, h⟩
  rw [List.append_assoc, List.append_eq_append_iff] at h
  rcases h with ⟨middle, rfl, h⟩ | ⟨middle, -, rfl⟩
  · cases middle with
    | nil => exact hrest (by rw [List.nil_append] at h; simp [← h])
    | cons e middle =>
        obtain rfl : c = e := (List.cons.inj h).1
        simp at hfront
  · simp at hrest

/-! ## Indenting -/

/-- A line of which something can be seen, without characters that end a line. -/
structure Plain (line : List Char) : Prop where
  unbroken : ∀ c ∈ line, lineEnds.contains c = false
  visible : isBlankLine line = false

theorem Plain.ne_nil {line : List Char} (h : Plain line) : line ≠ [] := by
  rintro rfl
  exact absurd h.visible (by decide)

theorem Plain.newline_notMem {line : List Char} (h : Plain line) : '\n' ∉ line :=
  fun inside => absurd (h.unbroken '\n' inside) (by decide)

theorem linesOf_cons (hc : lineEnds.contains c = false) (rest : List Char) :
    linesOf (c :: rest) = consFirst c (linesOf rest) := by
  have other : c ≠ '\r' := by
    rintro rfl
    exact absurd hc (by decide)
  rw [linesOf.eq_3 _ _ (by simp [other]), if_neg (by rw [hc]; exact Bool.false_ne_true)]

theorem linesOf_line {line : List Char} (h : ∀ c ∈ line, lineEnds.contains c = false)
    (hline : line ≠ []) :
    linesOf line = [line] := by
  induction line with
  | nil => exact absurd rfl hline
  | cons c line ih =>
      rw [linesOf_cons (h c List.mem_cons_self)]
      cases line with
      | nil => rfl
      | cons d line =>
          rw [ih (fun c hc => h c (List.mem_cons_of_mem _ hc)) (List.cons_ne_nil _ _), consFirst]

theorem linesOf_append {line : List Char} (h : ∀ c ∈ line, lineEnds.contains c = false)
    (rest : List Char) :
    linesOf (line ++ '\n' :: rest) = (line ++ ['\n']) :: linesOf rest := by
  induction line with
  | nil => rw [List.nil_append, linesOf.eq_3 _ _ (by simp), if_pos (by decide), List.nil_append]
  | cons c line ih =>
      rw [List.cons_append, linesOf_cons (h c List.mem_cons_self),
        ih (fun c hc => h c (List.mem_cons_of_mem _ hc)), consFirst, List.cons_append]

theorem indent_intercalate (margin : List Char) {lines : List (List Char)}
    (h : ∀ line ∈ lines, Plain line) :
    indent margin (['\n'].intercalate lines) = ['\n'].intercalate (lines.map (margin ++ ·)) := by
  induction lines with
  | nil => rfl
  | cons line lines ih =>
      obtain ⟨plain, behind⟩ := List.forall_mem_cons.mp h
      cases lines with
      | nil =>
          simp [indent, linesOf_line plain.unbroken plain.ne_nil, plain.visible]
      | cons next lines =>
          have visible : isBlankLine (line ++ ['\n']) = false := by
            rw [isBlankLine, List.all_append, ← isBlankLine, plain.visible, Bool.false_and]
          have behind := ih behind
          simp only [List.map_cons, List.intercalate_cons_cons, List.append_assoc,
            List.singleton_append] at behind ⊢
          rw [indent, linesOf_append plain.unbroken, List.flatMap_cons, visible, ← indent, behind]
          simp

theorem newlineLines_line {line : List Char} (h : '\n' ∉ line) (hline : line ≠ []) :
    newlineLines line = [line] := by
  induction line with
  | nil => exact absurd rfl hline
  | cons c line ih =>
      have other : c ≠ '\n' := fun same => h (same ▸ List.mem_cons_self)
      rw [newlineLines.eq_3 _ _ (by simpa using other)]
      cases line with
      | nil => rfl
      | cons d line =>
          rw [ih (fun inside => h (List.mem_cons_of_mem c inside)) (List.cons_ne_nil _ _),
            consFirst]

theorem newlineLines_flatMap {lines : List (List Char)} (h : ∀ line ∈ lines, '\n' ∉ line) :
    newlineLines (lines.flatMap (· ++ ['\n'])) = lines := by
  induction lines with
  | nil => rfl
  | cons line lines ih =>
      obtain ⟨unbroken, behind⟩ := List.forall_mem_cons.mp h
      rw [List.flatMap_cons, List.append_assoc, List.singleton_append, newlineLines_append unbroken,
        ih behind]

theorem newlineLines_intercalate {lines : List (List Char)}
    (h : ∀ line ∈ lines, line ≠ [] ∧ '\n' ∉ line) :
    newlineLines (['\n'].intercalate lines) = lines := by
  induction lines with
  | nil => rfl
  | cons line lines ih =>
      obtain ⟨⟨hline, unbroken⟩, behind⟩ := List.forall_mem_cons.mp h
      cases lines with
      | nil => rw [List.intercalate_singleton, newlineLines_line unbroken hline]
      | cons next lines =>
          rw [List.intercalate_cons_cons, List.append_assoc, List.singleton_append,
            newlineLines_append unbroken, ih behind]

theorem intercalate_concat (separator : List Char) (front : List (List Char)) (last : List Char) :
    separator.intercalate (front ++ [last]) = front.flatMap (· ++ separator) ++ last := by
  induction front with
  | nil => simp
  | cons line front ih =>
      rw [List.cons_append, List.intercalate_cons_of_ne_nil (by simp), ih, List.flatMap_cons]
      simp

theorem notMem_intercalate {lines : List (List Char)} (hc : c ≠ '\n')
    (h : ∀ line ∈ lines, c ∉ line) :
    c ∉ ['\n'].intercalate lines := by
  cases lines using List.reverseRecOn with
  | nil => simp
  | append_singleton front last =>
      rw [intercalate_concat, List.mem_append, List.mem_flatMap]
      rintro (⟨line, hline, inside⟩ | inside)
      · have inside := List.mem_append.mp inside
        exact inside.elim (h line (List.mem_append_left _ hline)) (by simpa using hc)
      · exact h last (by simp) inside

theorem dropFinalNewlines_flatMap {lines : List (List Char)}
    (h : ∀ line ∈ lines, line ≠ [] ∧ '\n' ∉ line) :
    dropFinalNewlines (lines.flatMap (· ++ ['\n'])) = ['\n'].intercalate lines := by
  cases lines using List.reverseRecOn with
  | nil => rfl
  | append_singleton front last =>
      obtain ⟨hlast, unbroken⟩ := h last (by simp)
      obtain ⟨start, c, rfl⟩ := (List.eq_nil_or_concat' last).resolve_left hlast
      have other : c ≠ '\n' := by
        rintro rfl
        simp at unbroken
      rw [intercalate_concat]
      simp [dropFinalNewlines, other]

end TurtleGraphics.Text
