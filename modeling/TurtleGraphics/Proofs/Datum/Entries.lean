import Mathlib.Data.List.Nodup
import TurtleGraphics.Datum

/-! # Named values

Giving a name its value leaves all other names as they are. Where several names are given their
values, no name comes to stand twice, and each has the new value if there is one.
-/

namespace TurtleGraphics.Entries

variable {entries news : Entries} {name key : Phrase} {value : Datum} {entry : Phrase × Datum}

def names (entries : Entries) : List Phrase :=
  entries.map Prod.fst

theorem put_cases (entries : Entries) (name : Phrase) (value : Datum) :
    (∃ front old back, entries = front ++ (name, old) :: back ∧
      entries.put name value = front ++ (name, value) :: back) ∨
    (name ∉ entries.names ∧ entries.put name value = entries ++ [(name, value)]) := by
  induction entries with
  | nil => exact .inr ⟨by simp [names], rfl⟩
  | cons entry rest ih =>
      obtain ⟨key, old⟩ := entry
      by_cases hkey : key = name
      · subst hkey
        exact .inl ⟨[], old, rest, rfl, by simp [put]⟩
      · obtain ⟨front, old', back, hrest, hput⟩ | ⟨absent, hput⟩ := ih
        · exact .inl ⟨(key, old) :: front, old', back, by simp [hrest], by simp [put, hkey, hput]⟩
        · exact .inr ⟨by simpa [names, Ne.symm hkey] using absent, by simp [put, hkey, hput]⟩

theorem value?_put (entries : Entries) (name : Phrase) (value : Datum) (key : Phrase) :
    (entries.put name value).value? key = if key = name then some value
      else entries.value? key := by
  induction entries with
  | nil =>
      by_cases same : key = name
      · simp [put, value?, same]
      · simp [put, value?, same, beq_eq_false_iff_ne.mpr same, List.lookup_cons]
  | cons entry rest ih =>
      obtain ⟨k, old⟩ := entry
      unfold value? at ih ⊢
      unfold put
      split
      · rename_i here
        subst here
        by_cases same : key = k
        · simp [same]
        · simp [same, beq_eq_false_iff_ne.mpr same, List.lookup_cons]
      · rename_i apart
        by_cases same : key = k
        · subst same
          simp [apart]
        · simp [beq_eq_false_iff_ne.mpr same, List.lookup_cons, ih]

theorem put_of_notMem (h : name ∉ entries.names) :
    entries.put name value = entries ++ [(name, value)] := by
  obtain ⟨front, old, back, hentries, -⟩ | ⟨-, hput⟩ := put_cases entries name value
  · exact absurd (by simp [hentries, names]) h
  · exact hput

theorem mem_put (h : entry ∈ entries.put name value) : entry ∈ entries ∨ entry = (name, value) := by
  obtain ⟨front, old, back, hentries, hput⟩ | ⟨-, hput⟩ := put_cases entries name value
  · rw [hput] at h
    rw [hentries]
    simp only [List.mem_append, List.mem_cons] at h ⊢
    tauto
  · simpa [hput] using h

theorem nodup_put (h : entries.names.Nodup) (name : Phrase) (value : Datum) :
    (entries.put name value).names.Nodup := by
  obtain ⟨front, old, back, hentries, hput⟩ | ⟨habsent, hput⟩ := put_cases entries name value
  · rw [hput]
    simpa [hentries, names] using h
  · rw [hput, names, List.map_append]
    exact List.Nodup.append h (List.nodup_singleton _) (by simpa [names] using habsent)

theorem putAll_cons (entries : Entries) (name : Phrase) (value : Datum) (rest : Entries) :
    entries.putAll ((name, value) :: rest) = (entries.put name value).putAll rest := rfl

theorem mem_putAll (h : entry ∈ entries.putAll news) : entry ∈ entries ∨ entry ∈ news := by
  induction news generalizing entries with
  | nil => exact .inl h
  | cons first rest ih =>
      rw [putAll_cons] at h
      obtain h | h := ih h
      · obtain h | rfl := mem_put h
        · exact .inl h
        · exact .inr List.mem_cons_self
      · exact .inr (List.mem_cons_of_mem _ h)

theorem nodup_putAll (h : entries.names.Nodup) (news : Entries) :
    (entries.putAll news).names.Nodup := by
  induction news generalizing entries with
  | nil => exact h
  | cons first rest ih => exact ih (nodup_put h first.1 first.2)

theorem value?_of_notMem (h : name ∉ entries.names) : entries.value? name = none := by
  induction entries with
  | nil => rfl
  | cons first rest ih =>
      rw [names, List.map_cons, List.mem_cons, not_or] at h
      rw [value?, List.lookup_cons, beq_eq_false_iff_ne.mpr h.1]
      exact ih h.2

theorem value?_of_mem (hnames : entries.names.Nodup) (h : (name, value) ∈ entries) :
    entries.value? name = some value := by
  induction entries with
  | nil => cases h
  | cons first rest ih =>
      rw [names, List.map_cons, List.nodup_cons] at hnames
      rw [value?, List.lookup_cons]
      obtain rfl | h := List.mem_cons.mp h
      · simp
      · have apart : name ≠ first.1 := fun same => hnames.1 (same ▸ List.mem_map_of_mem h)
        rw [beq_eq_false_iff_ne.mpr apart]
        exact ih hnames.2 h

theorem value?_putAll (hnames : news.names.Nodup) (entries : Entries) (key : Phrase) :
    (entries.putAll news).value? key = (news.value? key).or (entries.value? key) := by
  induction news generalizing entries with
  | nil => rfl
  | cons first rest ih =>
      obtain ⟨name, value⟩ := first
      rw [names, List.map_cons, List.nodup_cons] at hnames
      rw [putAll_cons, ih hnames.2, value?_put]
      by_cases same : key = name
      · subst same
        rw [value?_of_notMem hnames.1, if_pos rfl]
        simp [value?]
      · rw [if_neg same]
        simp [value?, List.lookup_cons, beq_eq_false_iff_ne.mpr same]

end TurtleGraphics.Entries
