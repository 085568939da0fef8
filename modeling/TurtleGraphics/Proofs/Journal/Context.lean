import Mathlib.Data.List.Induction
import TurtleGraphics.Proofs.Datum.Entries

/-! # The order of a context

Names in a context stand in the order in which they were first pushed since they were last removed,
each with the value that was pushed last. The changes that made a context say all that is in it.
-/

namespace TurtleGraphics

/-- What happens to a context. -/
inductive ContextChange where
  | push (name : Phrase) (value : Datum)
  | remove (name : Phrase)
  | clear

namespace ContextChange

def Removes (name : Phrase) : ContextChange → Prop
  | .push _ _ => False
  | .remove other => other = name
  | .clear => True

def Pushes (name : Phrase) : ContextChange → Prop
  | .push other _ => other = name
  | .remove _ | .clear => False

/-- Every push of the name was followed by a removal. -/
def Absent (changes : List ContextChange) (name : Phrase) : Prop :=
  ∀ before value after, changes = before ++ .push name value :: after →
    ∃ change ∈ after, change.Removes name

/-- The change behind the first `i` is the first push of the name since it was last removed. -/
def FirstPush (changes : List ContextChange) (name : Phrase) (i : Nat) : Prop :=
  ∃ before value after, changes = before ++ .push name value :: after ∧ before.length = i ∧
    Absent before name ∧ ∀ change ∈ after, ¬change.Removes name

/-- The last change that concerns the name gives it the value. -/
def LastPush (changes : List ContextChange) (name : Phrase) (value : Datum) : Prop :=
  ∃ before after, changes = before ++ .push name value :: after ∧
    ∀ change ∈ after, ¬change.Removes name ∧ ¬change.Pushes name

variable {changes : List ContextChange} {change : ContextChange} {name other : Phrase}
  {value value' : Datum} {i j : Nat}

theorem FirstPush.unique (hi : FirstPush changes name i) (hj : FirstPush changes name j) :
    i = j := by
  obtain ⟨before, value, after, rfl, rfl, habsent, stays⟩ := hi
  obtain ⟨before', value', after', same, rfl, habsent', stays'⟩ := hj
  obtain ⟨middle, hbefore, hafter⟩ | ⟨middle, hbefore, hafter⟩ := List.append_eq_append_iff.mp same
  · cases middle with
    | nil => simp [hbefore]
    | cons first middle =>
        simp only [List.cons_append, List.cons.injEq] at hafter
        obtain ⟨rfl, rfl⟩ := hafter
        obtain ⟨removal, hmem, removed⟩ := habsent' _ _ _ hbefore
        exact absurd removed (stays removal (by simp [hmem]))
  · cases middle with
    | nil => simp [hbefore]
    | cons first middle =>
        simp only [List.cons_append, List.cons.injEq] at hafter
        obtain ⟨rfl, rfl⟩ := hafter
        obtain ⟨removal, hmem, removed⟩ := habsent _ _ _ hbefore
        exact absurd removed (stays' removal (by simp [hmem]))

theorem LastPush.unique (h : LastPush changes name value) (h' : LastPush changes name value') :
    value = value' := by
  obtain ⟨before, after, rfl, last⟩ := h
  obtain ⟨before', after', same, last'⟩ := h'
  obtain ⟨middle, -, hafter⟩ | ⟨middle, -, hafter⟩ := List.append_eq_append_iff.mp same
  · cases middle with
    | nil => simpa using congrArg List.head? hafter
    | cons first middle =>
        simp only [List.cons_append, List.cons.injEq] at hafter
        exact absurd rfl (last (.push name value') (by simp [hafter])).2
  · cases middle with
    | nil => simpa using (congrArg List.head? hafter).symm
    | cons first middle =>
        simp only [List.cons_append, List.cons.injEq] at hafter
        exact absurd rfl (last' (.push name value) (by simp [hafter])).2

theorem FirstPush.lt (h : FirstPush changes name i) : i < changes.length := by
  obtain ⟨before, value, after, rfl, rfl, -⟩ := h
  simp

/-! ### One more change -/

theorem Absent.concat (h : Absent changes name ∨ change.Removes name)
    (hpushes : ¬change.Pushes name) :
    Absent (changes ++ [change]) name := by
  intro before value after same
  cases after using List.reverseRecOn with
  | nil =>
      obtain ⟨-, hlast⟩ := List.append_inj' same rfl
      cases hlast
      exact absurd rfl hpushes
  | append_singleton after last =>
      rw [← List.cons_append, ← List.append_assoc] at same
      obtain ⟨rfl, hlast⟩ := List.append_inj' same rfl
      cases hlast
      obtain habsent | removed := h
      · obtain ⟨removal, hmem, removed⟩ := habsent _ _ _ rfl
        exact ⟨removal, by simp [hmem], removed⟩
      · exact ⟨change, by simp, removed⟩

theorem FirstPush.concat (h : FirstPush changes name i) (hremoves : ¬change.Removes name) :
    FirstPush (changes ++ [change]) name i := by
  obtain ⟨before, value, after, rfl, rfl, habsent, stays⟩ := h
  refine ⟨before, value, after ++ [change], by simp, rfl, habsent, ?_⟩
  simpa [or_imp, forall_and] using ⟨stays, hremoves⟩

theorem LastPush.concat (h : LastPush changes name value) (hremoves : ¬change.Removes name)
    (hpushes : ¬change.Pushes name) : LastPush (changes ++ [change]) name value := by
  obtain ⟨before, after, rfl, last⟩ := h
  refine ⟨before, after ++ [change], by simp, ?_⟩
  intro other hother
  obtain hother | rfl := by simpa using hother
  · exact last other hother
  · exact ⟨hremoves, hpushes⟩

theorem firstPush_new (h : Absent changes name) :
    FirstPush (changes ++ [.push name value]) name changes.length :=
  ⟨changes, value, [], rfl, rfl, h, by simp⟩

theorem lastPush_new : LastPush (changes ++ [.push name value]) name value :=
  ⟨changes, [], rfl, by simp⟩

end ContextChange

namespace Entries

open ContextChange

variable {entries : Entries} {changes : List ContextChange} {change : ContextChange} {name : Phrase}
  {value : Datum}

def changed (entries : Entries) : ContextChange → Entries
  | .push name value => entries.put name value
  | .remove name => entries.remove name
  | .clear => []

/-- The entries are what changes make of nothing. -/
structure Records (entries : Entries) (changes : List ContextChange) : Prop where
  values : ∀ name value, (name, value) ∈ entries → LastPush changes name value
  absent : ∀ name, name ∉ entries.names → Absent changes name
  pushed : ∀ name ∈ entries.names, ∃ i, FirstPush changes name i
  order : entries.names.Pairwise fun a b => ∃ i j, FirstPush changes a i ∧
  FirstPush changes b j ∧ i < j

namespace Records

theorem nil : Records [] [] := by
  refine ⟨by simp, ?_, by simp [names], by simp [names]⟩
  intro name _ before value after same
  simp at same

theorem nodup (h : Records entries changes) : entries.names.Nodup := by
  refine h.order.imp ?_
  rintro a _ ⟨i, j, hi, hj, hlt⟩ rfl
  exact absurd (hi.unique hj) (Nat.ne_of_lt hlt)

/-- An order of first pushes stands where none of the names is removed. -/
theorem order_concat {kept : List Phrase}
    (h : kept.Pairwise fun a b => ∃ i j, FirstPush changes a i ∧ FirstPush changes b j ∧ i < j)
    (stays : ∀ name ∈ kept, ¬change.Removes name) :
    kept.Pairwise fun a b => ∃ i j, FirstPush (changes ++ [change]) a i ∧
    FirstPush (changes ++ [change]) b j ∧ i < j := by
  refine h.imp_of_mem ?_
  rintro a b ha hb ⟨i, j, hi, hj, hlt⟩
  exact ⟨i, j, hi.concat (stays a ha), hj.concat (stays b hb), hlt⟩

theorem clear (changes : List ContextChange) : Records [] (changes ++ [.clear]) :=
  ⟨by simp, fun name _ => .concat (.inr trivial) id, by simp [names], by simp [names]⟩

theorem names_remove (entries : Entries) (name : Phrase) :
    (entries.remove name).names = entries.names.filter (· ≠ name) := by
  simp only [names, Entries.remove, List.filter_map]
  rfl

theorem remove (h : Records entries changes) (name : Phrase) :
    Records (entries.remove name) (changes ++ [.remove name]) := by
  refine ⟨?_, ?_, ?_, ?_⟩
  · intro kept value hmem
    simp only [Entries.remove, List.mem_filter, decide_eq_true_eq] at hmem
    exact (h.values kept value hmem.1).concat (Ne.symm hmem.2) id
  · intro gone hgone
    refine .concat ?_ id
    by_cases hname : name = gone
    · exact .inr hname
    · exact .inl (h.absent gone (by simpa [names_remove, Ne.symm hname] using hgone))
  · intro kept hkept
    simp only [names_remove, List.mem_filter, decide_eq_true_eq] at hkept
    obtain ⟨i, hi⟩ := h.pushed kept hkept.1
    exact ⟨i, hi.concat (Ne.symm hkept.2)⟩
  · rw [names_remove]
    refine order_concat (h.order.filter _) ?_
    intro kept hkept removed
    simp only [List.mem_filter, decide_eq_true_eq] at hkept
    exact hkept.2 removed.symm

section Push

variable (h : Records entries changes) (name : Phrase) (value : Datum) {other : Phrase}

include h

theorem values_others {old : Datum} (hmem : (other, old) ∈ entries) (hname : other ≠ name) :
    LastPush (changes ++ [.push name value]) other old :=
  (h.values other old hmem).concat id (Ne.symm hname)

theorem absent_others (hother : other ∉ entries.names) (hname : other ≠ name) :
    Absent (changes ++ [.push name value]) other :=
  .concat (.inl (h.absent other hother)) (Ne.symm hname)

theorem pushed_before (hother : other ∈ entries.names) :
    ∃ i, FirstPush (changes ++ [.push name value]) other i := by
  obtain ⟨i, hi⟩ := h.pushed other hother
  exact ⟨i, hi.concat id⟩

theorem push_again {front back : Entries} {old : Datum}
    (hentries : entries = front ++ (name, old) :: back) :
    Records (front ++ (name, value) :: back) (changes ++ [.push name value]) := by
  have same : (front ++ (name, value) :: back).names = entries.names := by
    rw [hentries]; simp [names]
  have nodup := h.nodup
  rw [hentries, names, List.map_append, List.map_cons, List.nodup_append, List.nodup_cons] at nodup
  obtain ⟨-, ⟨behind, -⟩, ahead⟩ := nodup
  refine ⟨?_, ?_, ?_, ?_⟩
  · intro other given hmem
    simp only [List.mem_append, List.mem_cons, Prod.mk.injEq] at hmem
    obtain hfront | ⟨rfl, rfl⟩ | hback := hmem
    · exact h.values_others name value (by simp [hentries, hfront])
        (ahead _ (List.mem_map_of_mem hfront) _ List.mem_cons_self)
    · exact lastPush_new
    · refine h.values_others name value (by simp [hentries, hback]) ?_
      rintro rfl
      exact behind (List.mem_map.mpr ⟨_, hback, rfl⟩)
  · intro other hother
    rw [same] at hother
    refine h.absent_others name value hother ?_
    rintro rfl
    simp [hentries, names] at hother
  · rw [same]
    exact fun other hother => h.pushed_before name value hother
  · rw [same]
    exact order_concat h.order fun _ _ => id

theorem push_new (habsent : name ∉ entries.names) :
    Records (entries ++ [(name, value)]) (changes ++ [.push name value]) := by
  have longer : (entries ++ [(name, value)] : Entries).names = entries.names ++ [name] := by
    simp [names]
  have first : FirstPush (changes ++ [.push name value]) name changes.length :=
    firstPush_new (h.absent name habsent)
  refine ⟨?_, ?_, ?_, ?_⟩
  · intro other given hmem
    simp only [List.mem_append, List.mem_singleton, Prod.mk.injEq] at hmem
    obtain hold | ⟨rfl, rfl⟩ := hmem
    · refine h.values_others name value hold ?_
      rintro rfl
      exact habsent (List.mem_map_of_mem hold)
    · exact lastPush_new
  · intro other hother
    simp only [longer, List.mem_append, List.mem_singleton, not_or] at hother
    exact h.absent_others name value hother.1 hother.2
  · intro other hother
    rw [longer] at hother
    obtain hother | rfl := by simpa using hother
    · exact h.pushed_before name value hother
    · exact ⟨_, first⟩
  · rw [longer, List.pairwise_append]
    refine ⟨order_concat h.order fun _ _ => id, by simp, ?_⟩
    intro a ha b hb
    obtain rfl := by simpa using hb
    obtain ⟨i, hi⟩ := h.pushed a ha
    exact ⟨i, _, hi.concat id, first, hi.lt⟩

theorem push : Records (entries.put name value) (changes ++ [.push name value]) := by
  obtain ⟨front, old, back, hentries, hput⟩ | ⟨habsent, hput⟩ := put_cases entries name value
  · exact hput ▸ h.push_again name value hentries
  · exact hput ▸ h.push_new name value habsent

end Push

theorem concat (h : Records entries changes) (change : ContextChange) :
    Records (entries.changed change) (changes ++ [change]) := by
  cases change with
  | push name value => exact h.push name value
  | remove name => exact h.remove name
  | clear => exact clear changes

end Records

end Entries

end TurtleGraphics
