import Mathlib.Data.List.Pairwise
import Mathlib.Data.String.Basic
import TurtleGraphics.Files.Tree
import TurtleGraphics.Proofs.Program.Boundary

/-! # Operations on file trees

Each operation on a tree changes what is at one place. Names that led somewhere lead there still in
every tree that has the same directories.
-/

namespace TurtleGraphics

theorem lookup_filter_key {α β : Type} [BEq α] [LawfulBEq α] (chosen : α → Bool) (key : α)
    (entries : List (α × β)) :
    (entries.filter fun entry => chosen entry.1).lookup key = if chosen key then entries.lookup key
      else none := by
  induction entries with
  | nil => simp
  | cons entry rest ih =>
      obtain ⟨k, v⟩ := entry
      by_cases hk : key = k
      · subst hk
        cases hchosen : chosen key <;> simp [hchosen, ih]
      · have apart : (key == k) = false := beq_eq_false_iff_ne.mpr hk
        cases hchosen : chosen k <;> simp [hchosen, List.lookup_cons, apart, ih]

theorem mem_of_lookup {α β : Type} [BEq α] [LawfulBEq α] {key : α} {value : β}
    {entries : List (α × β)} (h : entries.lookup key = some value) : (key, value) ∈ entries := by
  obtain ⟨front, back, rfl, -⟩ := List.lookup_eq_some_iff.mp h
  simp

theorem lookup_of_mem {α β : Type} [BEq α] [LawfulBEq α] {key : α} {value : β}
    {entries : List (α × β)} (hnodup : (entries.map Prod.fst).Nodup) (h : (key, value) ∈ entries) :
    entries.lookup key = some value := by
  induction entries with
  | nil => cases h
  | cons entry rest ih =>
      obtain ⟨k, v⟩ := entry
      obtain ⟨new, rest_nodup⟩ := List.nodup_cons.mp hnodup
      obtain same | behind := List.mem_cons.mp h
      · cases same
        simp
      · have apart : (key == k) = false := by
          refine beq_eq_false_iff_ne.mpr ?_
          rintro rfl
          exact new (List.mem_map.mpr ⟨_, behind, rfl⟩)
        simpa [List.lookup_cons, apart] using ih rest_nodup behind

theorem lookup_filter_of_kept {α β : Type} [BEq α] [LawfulBEq α] {chosen : α × β → Bool} {key : α}
    {entries : List (α × β)} (h : ∀ value, (key, value) ∈ entries → chosen (key, value) = true) :
    (entries.filter chosen).lookup key = entries.lookup key := by
  induction entries with
  | nil => rfl
  | cons entry rest ih =>
      obtain ⟨k, v⟩ := entry
      have ih := ih fun value hvalue => h value (List.mem_cons_of_mem _ hvalue)
      by_cases hk : key = k
      · subst hk
        simp [h v List.mem_cons_self]
      · have apart : (key == k) = false := beq_eq_false_iff_ne.mpr hk
        cases hchosen : chosen (k, v) <;> simp [hchosen, List.lookup_cons, apart, ih]

theorem eq_of_nodup_filterMap {α β : Type} {f : α → Option β} {l : List α}
    (h : (l.filterMap f).Nodup) {a b : α}
    (ha : a ∈ l) (hb : b ∈ l) {c : β} (hac : f a = some c) (hbc : f b = some c) : a = b := by
  by_contra apart
  have symmetric : Std.Symm fun a b => ∀ c, f a = some c → ∀ d, f b = some d → c ≠ d :=
    ⟨fun a b hab d hb c ha => (hab c ha d hb).symm⟩
  exact (List.pairwise_filterMap.mp h).forall ha hb apart c hac c hbc rfl

theorem lookup_map_value {α β γ : Type} [BEq α] (f : β → γ) (key : α) (entries : List (α × β)) :
    (entries.map fun (k, v) => (k, f v)).lookup key = (entries.lookup key).map f := by
  induction entries with
  | nil => rfl
  | cons entry rest ih =>
      obtain ⟨k, v⟩ := entry
      cases h : key == k <;> simp [List.lookup_cons, h, ih]

theorem splitOnAux_of_not_mem (done rest : List Char) (h : '/' ∉ rest) :
    (String.ofList (done ++ rest)).splitOnAux "/" 0 ⟨String.utf8Len done⟩ 0 [] =
      [String.ofList (done ++ rest)] := by
  induction rest generalizing done with
  | nil =>
      have whole := String.extract_of_valid [] done []
      rw [String.splitOnAux, if_pos ((String.atEnd_of_valid done []).mpr rfl)]
      simpa using whole
  | cons c rest ih =>
      rw [List.mem_cons, not_or] at h
      obtain ⟨differs, behind⟩ := h
      have next := ih (done ++ [c]) behind
      rw [List.append_assoc, List.singleton_append, String.utf8Len_append] at next
      have inside :
          ¬ (String.Pos.Raw.atEnd (String.ofList (done ++ c :: rest)) ⟨String.utf8Len done⟩ =
            true) :=
        mt (String.atEnd_of_valid done (c :: rest)).mp (List.cons_ne_nil c rest)
      have slash : String.Pos.Raw.get "/" 0 = '/' := rfl
      have other :
          ¬ ((String.Pos.Raw.get (String.ofList (done ++ c :: rest)) ⟨String.utf8Len done⟩ ==
          String.Pos.Raw.get "/" 0) = true) := by
        rw [String.get_of_valid, slash]
        simpa using Ne.symm differs
      have place : String.Pos.Raw.unoffsetBy ⟨String.utf8Len done⟩ (0 : String.Pos.Raw) =
          ⟨String.utf8Len done⟩ := rfl
      rw [String.splitOnAux, if_neg inside, if_neg other, place, String.next_of_valid]
      simpa only [String.utf8Len_cons, String.utf8Len_nil, Nat.zero_add] using next

theorem Path.ofString_name {name : String} (h : '/' ∉ name.toList) (given : name ≠ "")
    (moves : name ≠ ".") :
    Path.ofString name = ⟨[name]⟩ := by
  have split : name.splitOn "/" = [name] := by
    have whole := splitOnAux_of_not_mem [] name.toList h
    simpa [String.splitOn] using whole
  have relative : name.startsWith "/" = false := by
    rw [Bool.eq_false_iff]
    intro starts
    rw [String.startsWith_string_iff] at starts
    exact h (starts.subset (List.mem_singleton_self '/'))
  unfold Path.ofString
  rw [split, relative]
  simp [given, moves]

namespace FileTree

variable {t t' : FileTree} {path target : Path} {parts place names : List String} {node : Node}
  {content : Content}

theorem mem_of_at? {serial : Nat} (h : t.at? place = some (.file serial content)) :
    (place, .file serial content) ∈ t.nodes := by
  unfold at? at h
  split at h
  · cases h
  · exact mem_of_lookup h

theorem at?_file_inj {serial : Nat} {content content' : Content}
    (h : t.at? place = some (.file serial content))
    (h' : t.at? parts = some (.file serial content')) : place = parts :=
  congrArg Prod.fst (eq_of_nodup_filterMap t.serials_nodup (mem_of_at? h) (mem_of_at? h') rfl rfl)

theorem serial_lt_fresh {serial : Nat} (h : t.at? place = some (.file serial content)) :
    serial < t.fresh :=
  t.serials_lt serial (List.mem_filterMap.mpr ⟨_, mem_of_at? h, rfl⟩)

/-- Another path stays what it was, unless it is the file that is put. -/
theorem at?_put_of_ne (h : place ≠ parts)
    (other : ∀ serial content, node.serial? = some serial →
      t.at? place ≠ some (.file serial content)) :
    (t.put parts node).at? place = t.at? place := by
  have apart : (place == parts) = false := beq_eq_false_iff_ne.mpr h
  unfold at? at other ⊢
  split
  · rfl
  · rename_i plain
    simp only [if_neg plain] at other
    simp only [put, List.lookup_cons, apart]
    apply lookup_filter_of_kept
    intro found hfound
    have here : t.nodes.lookup place = some found := lookup_of_mem t.paths_nodup hfound
    cases found with
    | directory => simp [outlasts, h, Node.serial?]
    | file serial content =>
        have unshared : some serial ≠ node.serial? :=
          fun same => other serial content same.symm here
        have own : (Node.file serial content).serial? = some serial := rfl
        simp [outlasts, h, own, unshared]

theorem at?_putDirectory_of_ne (h : place ≠ parts) :
    (t.put parts .directory).at? place = t.at? place :=
  at?_put_of_ne h nofun

theorem at?_put_self (h : t.at? parts ≠ some .directory) :
    (t.put parts node).at? parts = some node := by
  unfold at? at h ⊢
  split at h
  · contradiction
  · rename_i plain
    simp only [if_neg plain, put, List.lookup_cons, beq_self_eq_true]

theorem at?_remove_of_ne (h : place ≠ parts) : (t.remove parts).at? place = t.at? place := by
  have kept := lookup_filter_key (fun key => decide (key ≠ parts)) place t.nodes
  simp only [at?, remove, kept, h, ne_eq, not_false_eq_true, decide_true, if_true]

theorem at?_remove_self (h : t.at? parts ≠ some .directory) :
    (t.remove parts).at? parts = none := by
  have gone := lookup_filter_key (fun key => decide (key ≠ parts)) parts t.nodes
  unfold at? at h ⊢
  split at h
  · contradiction
  · rename_i plain
    simp only [ne_eq, not_true_eq_false, decide_false, Bool.false_eq_true, if_false] at gone
    simp only [if_neg plain, remove, ne_eq, gone]

theorem at?_putContent_of_ne (h : place ≠ parts) :
    (t.putContent parts content).at? place = t.at? place := by
  unfold putContent
  split
  · rename_i serial held hparts
    refine at?_put_of_ne h fun number content' same hplace => h ?_
    cases same
    exact at?_file_inj hplace hparts
  · refine at?_put_of_ne h fun number content' same hplace => ?_
    cases same
    exact Nat.lt_irrefl _ (serial_lt_fresh hplace)

theorem at?_putContent_self (h : t.at? parts ≠ some .directory) :
    ∃ serial, (t.putContent parts content).at? parts = some (.file serial content) := by
  unfold putContent
  split
  · exact ⟨_, at?_put_self h⟩
  · exact ⟨_, at?_put_self h⟩

theorem at?_append (serial : Nat) (data : ByteArray) :
    (t.append serial data).at? place = (t.at? place).map (Node.append serial data) := by
  unfold at? append
  split
  · rfl
  · exact lookup_map_value _ place t.nodes

/-! ### What a path leads to -/

theorem node_ok :
    t.node path = .ok node ↔ ∃ place, t.locate path = .ok place ∧ t.at? place = some node := by
  unfold FileTree.node
  cases t.locate path with
  | error fault => simp [bind, Except.bind]
  | ok place => cases hplace : t.at? place <;> simp [bind, Except.bind, hplace]

theorem isDirectory_iff :
    t.isDirectory path = true ↔ ∃ place, t.locate path = .ok place ∧
    t.at? place = some .directory := by
  rw [← node_ok]
  unfold isDirectory
  split
  · simp [*]
  · rename_i other
    simpa using other

theorem read_of_at? {serial : Nat} (hplace : t.locate path = .ok place)
    (hfile : t.at? place = some (.file serial content)) : t.read path = .ok content := by
  have found : t.node path = .ok (.file serial content) := node_ok.mpr ⟨place, hplace, hfile⟩
  simp [read, found, bind, Except.bind]

theorem follow_upward (start : List String) :
    t.follow start (Path.upward :: names) = t.follow (enclosing start) names := by
  rw [follow, if_pos rfl]

theorem follow_cons_ok {start : List String} {name : String} (hname : name ≠ Path.upward) :
    t.follow start (name :: names) = .ok place ↔
      name.utf8ByteSize ≤ longestName ∧
        (names = [] ∧ start ++ [name] = place ∨
          names ≠ [] ∧ t.at? (start ++ [name]) = some .directory ∧
          t.follow (start ++ [name]) names = .ok place) := by
  rw [follow, if_neg hname]
  by_cases long : longestName < name.utf8ByteSize
  · simp [long, Nat.not_le_of_lt long]
  · rw [if_neg long]
    cases names with
    | nil => simp [Nat.le_of_not_lt long]
    | cons next rest =>
        cases hnext : t.at? (start ++ [name]) with
        | none => simp [hnext]
        | some node => cases node <;> simp [hnext, Nat.le_of_not_lt long]

theorem follow_of_stay
    (stay : ∀ place, t.at? place = some .directory → t'.at? place = some .directory)
    {start : List String} (h : t.follow start names = .ok place) :
    t'.follow start names = .ok place := by
  induction names generalizing start with
  | nil => exact h
  | cons name rest ih =>
      by_cases hname : name = Path.upward
      · subst hname
        rw [follow_upward] at h ⊢
        exact ih h
      · rw [follow_cons_ok hname] at h ⊢
        refine h.imp_right (Or.imp_right ?_)
        rintro ⟨more, here, onward⟩
        exact ⟨more, stay _ here, ih onward⟩

theorem follow_concat {start : List String} {name : String} (hname : name ≠ Path.upward)
    (h : t.follow start (names ++ [name]) = .ok place) :
    ∃ above, t.follow start names = .ok above ∧ place = above ++ [name] := by
  induction names generalizing start with
  | nil =>
      obtain ⟨-, ⟨-, here⟩ | ⟨more, -⟩⟩ := (follow_cons_ok hname).mp h
      · exact ⟨start, rfl, here.symm⟩
      · contradiction
  | cons first rest ih =>
      rw [List.cons_append] at h
      by_cases hfirst : first = Path.upward
      · subst hfirst
        rw [follow_upward] at h ⊢
        exact ih h
      · obtain ⟨short, ⟨none, -⟩ | ⟨-, here, onward⟩⟩ := (follow_cons_ok hfirst).mp h
        · simp at none
        · obtain ⟨above, hrest, hplace⟩ := ih onward
          refine ⟨above, (follow_cons_ok hfirst).mpr ⟨short, ?_⟩, hplace⟩
          cases rest with
          | nil => exact .inl ⟨rfl, Except.ok.inj hrest⟩
          | cons second rest => exact .inr ⟨by simp, here, hrest⟩

theorem locate_ok :
    t.locate path = .ok place ↔
      '\x00' ∉ path.toString.toList ∧ path.toString.utf8ByteSize ≤ longestPath ∧
        t.follow [] path.parts = .ok place := by
  unfold locate
  dsimp only
  by_cases null : '\x00' ∈ path.toString.toList
  · simp [null]
  · by_cases long : longestPath < path.toString.utf8ByteSize
    · simp [null, long, Nat.not_le_of_lt long]
    · cases t.follow [] path.parts <;> simp [null, long, Except.mapError, Nat.le_of_not_lt long]

/-- A path leads to the same place wherever the same directories are. -/
theorem locate_of_stay
    (stay : ∀ place, t.at? place = some .directory → t'.at? place = some .directory)
    (h : t.locate path = .ok place) : t'.locate path = .ok place := by
  rw [locate_ok] at h ⊢
  obtain ⟨plain, short, led⟩ := h
  exact ⟨plain, short, follow_of_stay stay led⟩

/-! ### Inversions -/

theorem makeDirectory_ok (h : t.makeDirectory path = .ok t') :
    ∃ place, t.locate path = .ok place ∧ t.at? place = none ∧ t' = t.put place .directory := by
  obtain ⟨place, hplace, h⟩ := exists_of_bind_ok h
  split at h
  · cases h
  · cases h
    exact ⟨place, hplace, ‹_›, rfl⟩

theorem placeOf_ok :
    t.placeOf path = .ok place ↔ t.locate path = .ok place ∧ t.at? place ≠ some .directory := by
  unfold placeOf
  cases hplace : t.locate path with
  | error fault => simp [bind, Except.bind]
  | ok there =>
      simp only [bind, Except.bind]
      constructor
      · intro h
        split at h
        · cases h
        · cases h
          exact ⟨rfl, ‹_›⟩
      · rintro ⟨same, free⟩
        cases same
        split
        · contradiction
        · rfl

theorem move_ok (h : t.move path target = .ok t') :
    ∃ origin place serial content, t.locate path = .ok origin ∧
      t.at? origin = some (.file serial content) ∧
      t.locate target = .ok place ∧ target.parts.getLast? ≠ some Path.upward ∧
      t.at? place ≠ some .directory ∧ t' = (t.remove origin).put place (.file serial content) := by
  unfold move at h
  obtain ⟨node, hnode, h⟩ := exists_of_bind_ok h
  obtain ⟨there, hthere, hnode⟩ := node_ok.mp (ok_of_mapError_ok hnode)
  cases node with
  | directory => cases h
  | file serial content =>
      obtain ⟨origin, horigin, h⟩ := exists_of_bind_ok h
      obtain ⟨place, hplace, h⟩ := exists_of_bind_ok h
      have same : there = origin := Except.ok.inj (hthere.symm.trans (ok_of_mapError_ok horigin))
      dsimp only at h
      split at h
      · cases h
      · rename_i named
        split at h
        · cases h
        · cases h
          exact ⟨origin, place, serial, content, same ▸ hthere, same ▸ hnode,
            ok_of_mapError_ok hplace, fun up => named (.inr up), ‹_›, rfl⟩

theorem stay_of_others (closed : t.at? parts ≠ some .directory)
    (closed' : t.at? names ≠ some .directory)
    (others : ∀ place, place ≠ parts → place ≠ names → t'.at? place = t.at? place)
    (place : List String) (h : t.at? place = some .directory) : t'.at? place = some .directory := by
  rw [others place, h]
  · rintro rfl
    exact closed h
  · rintro rfl
    exact closed' h

/-- A write that is begun puts a file at one place, and the path leads there still. The file holds
    the content, or what came of it before a fault of the device. -/
theorem write_changes (content : Content) (device : Device) (hplace : t.placeOf path = .ok place) :
    ∃ serial held, t.locate path = .ok place ∧
      (t.write path content device).1.locate path = .ok place ∧
      (t.write path content device).1.at? place = some (.file serial held) ∧
      t.at? place ≠ some .directory ∧
      (∀ other, other ≠ place → (t.write path content device).1.at? other = t.at? other) ∧
      ((t.write path content device).2 = none → held = content) := by
  obtain ⟨located, free⟩ := placeOf_ok.mp hplace
  have put (held : Content) (after : FileTree) (h : after = t.putContent place held) : ∃ serial,
      after.locate path = .ok place ∧ after.at? place = some (.file serial held) ∧
        ∀ other, other ≠ place → after.at? other = t.at? other := by
    subst h
    obtain ⟨serial, hfile⟩ : ∃ serial, (t.putContent place held).at? place =
      some (.file serial held) :=
      at?_putContent_self free
    have unmoved : ∀ other, other ≠ place → (t.putContent place held).at? other = t.at? other :=
      fun other apart => at?_putContent_of_ne apart
    exact ⟨serial, locate_of_stay (stay_of_others free free fun other apart _ =>
      unmoved other apart) located, hfile, unmoved⟩
  cases hcut : device.cut? content.data with
  | none =>
      have written : t.write path content device = (t.putContent place content, none) := by
        simp only [write, hplace, hcut]
      obtain ⟨serial, led, hfile, unmoved⟩ := put content _ (congrArg Prod.fst written)
      exact ⟨serial, content, located, led, hfile, free, unmoved, fun _ => rfl⟩
  | some cut =>
      have written : t.write path content device =
          (t.putContent place (.bytes cut.1), some { reason := .device cut.2, path }) := by
        simp only [write, hplace, hcut]
      obtain ⟨serial, led, hfile, unmoved⟩ := put (.bytes cut.1) _ (congrArg Prod.fst written)
      refine ⟨serial, _, located, led, hfile, free, unmoved, fun undamaged => ?_⟩
      rw [written] at undamaged
      cases undamaged

theorem move_changes (h : t.move path target = .ok t') :
    ∃ origin place serial content, t.locate path = .ok origin ∧
      t.at? origin = some (.file serial content) ∧
      t.locate target = .ok place ∧ target.parts.getLast? ≠ some Path.upward ∧
      t.at? place ≠ some .directory ∧
      t'.at? place = some (.file serial content) ∧ (origin ≠ place → t'.at? origin = none) ∧
      ∀ other, other ≠ place → other ≠ origin → t'.at? other = t.at? other := by
  obtain ⟨origin, place, serial, content, horigin, hfile, hplace, down, closed, rfl⟩ := move_ok h
  have free : t.at? origin ≠ some .directory := by simp [hfile]
  have closed' : (t.remove origin).at? place ≠ some .directory := by
    by_cases same : place = origin
    · subst same
      simp [at?_remove_self free]
    · rwa [at?_remove_of_ne same]
  refine ⟨origin, place, serial, content, horigin, hfile, hplace, down, closed,
    at?_put_self closed', ?_, ?_⟩
  · intro apart
    rw [at?_put_of_ne apart, at?_remove_self free]
    simp [at?_remove_self free]
  · intro other hplace horigin
    rw [at?_put_of_ne hplace, at?_remove_of_ne horigin]
    intro number content' same hother
    rw [at?_remove_of_ne horigin] at hother
    cases same
    exact horigin (at?_file_inj hother hfile)

/-! ### Directories on the way -/

variable {before grown after : FileTree}

/-- What making a directory and those above it leaves: all that was there, and directories on the
    way. -/
structure Grown (before after : FileTree) (names : List String) : Prop where
  kept : ∀ place node, before.at? place = some node → after.at? place = some node
  made : ∀ place node, after.at? place = some node → before.at? place = some node ∨
    (before.at? place = none ∧ node = .directory ∧ ∃ front, front <+: names ∧
      after.locate ⟨front⟩ = .ok place)

namespace Grown

theorem refl (tree : FileTree) (names : List String) : Grown tree tree names :=
  ⟨fun _ _ h => h, fun _ _ h => .inl h⟩

theorem stay (h : Grown before after names) (place : List String)
    (hplace : before.at? place = some .directory) :
    after.at? place = some .directory :=
  h.kept place .directory hplace

theorem made_of_stay (h : Grown before grown names)
    (stay : ∀ place, grown.at? place = some .directory → after.at? place = some .directory)
    (hplace : grown.at? place = some node) :
    before.at? place = some node ∨
      (before.at? place = none ∧ node = .directory ∧ ∃ front, front <+: names ∧
        after.locate ⟨front⟩ = .ok place) := by
  obtain old | ⟨none, made, front, hfront, led⟩ := h.made place node hplace
  · exact .inl old
  · exact .inr ⟨none, made, front, hfront, locate_of_stay stay led⟩

theorem makeDirectory (h : before.makeDirectory ⟨names⟩ = .ok after) :
    Grown before after names := by
  obtain ⟨there, hthere, empty, rfl⟩ := makeDirectory_ok h
  have kept : ∀ place node, before.at? place = some node →
      (before.put there .directory).at? place = some node := by
    intro place node hplace
    have apart : place ≠ there := by
      rintro rfl
      simp [empty] at hplace
    rw [at?_putDirectory_of_ne apart, hplace]
  refine ⟨kept, ?_⟩
  intro place node hplace
  by_cases apart : place = there
  · subst apart
    rw [at?_put_self (by simp [empty])] at hplace
    cases hplace
    exact .inr ⟨empty, rfl, names, List.prefix_rfl, locate_of_stay (fun _ => kept _ _) hthere⟩
  · exact .inl (at?_putDirectory_of_ne apart ▸ hplace)

theorem trans {longer : List String} (first : Grown before grown names)
    (second : Grown grown after longer) (h : names <+: longer) : Grown before after longer := by
  refine ⟨fun place node hplace => second.kept _ _ (first.kept _ _ hplace), ?_⟩
  intro place node hplace
  obtain hgrown | ⟨hnone, hnode, hfront⟩ := second.made place node hplace
  · refine (first.made_of_stay second.stay hgrown).imp_right ?_
    rintro ⟨hnone, hnode, front, hfront, hled⟩
    exact ⟨hnone, hnode, front, hfront.trans h, hled⟩
  · refine .inr ⟨?_, hnode, hfront⟩
    cases hbefore : before.at? place with
    | none => rfl
    | some old => simp [first.kept _ _ hbefore] at hnone

end Grown

/-- Whatever becomes of it, making directories only adds directories on the way. -/
theorem grown_ensureParts (tree : FileTree) (upwards : List String) :
    Grown tree (tree.ensureParts upwards).1 upwards.reverse := by
  induction upwards generalizing tree with
  | nil => exact .refl tree []
  | cons name above ih =>
      have front : above.reverse <+: (name :: above).reverse := by simp
      unfold ensureParts
      dsimp only
      split
      · rename_i made hmade
        exact .makeDirectory hmade
      · split
        · have grown := ih tree
          split
          · rename_i habove
            rw [habove] at grown
            exact grown.trans (.refl _ _) front
          · rename_i habove
            rw [habove] at grown
            split
            · rename_i hmade
              exact grown.trans (.makeDirectory hmade) front
            · split <;> exact grown.trans (.refl _ _) front
        · split <;> exact .refl _ _

theorem isDirectory_makeDirectory {path : Path} (h : before.makeDirectory path = .ok after) :
    after.isDirectory path = true := by
  obtain ⟨there, hthere, empty, rfl⟩ := makeDirectory_ok h
  have grown : Grown before _ path.parts := .makeDirectory h
  exact isDirectory_iff.mpr ⟨there, locate_of_stay grown.stay hthere,
    at?_put_self (by simp [empty])⟩

theorem isDirectory_ensureParts {tree : FileTree} {upwards : List String}
    (h : tree.ensureParts upwards = (after, none)) :
    after.isDirectory ⟨upwards.reverse⟩ = true := by
  cases upwards with
  | nil =>
      cases h
      have here : after.locate ⟨[]⟩ = .ok [] :=
        locate_ok.mpr ⟨by simp [Path.toString], by decide, rfl⟩
      exact isDirectory_iff.mpr ⟨[], here, rfl⟩
  | cons name above =>
      unfold ensureParts at h
      dsimp only at h
      split at h
      · rename_i hmade
        cases h
        exact isDirectory_makeDirectory hmade
      · split at h
        · split at h
          · cases h
          · split at h
            · rename_i hmade
              cases h
              exact isDirectory_makeDirectory hmade
            · split at h
              · cases h
                assumption
              · cases h
        · split at h
          · cases h
            assumption
          · cases h

theorem grown_ensureDirectory (tree : FileTree) (path : Path) :
    Grown tree (tree.ensureDirectory path).1 path.parts := by
  have grows := grown_ensureParts tree path.parts.reverse
  rwa [List.reverse_reverse] at grows

theorem ensureDirectory_ok {path : Path} (h : before.ensureDirectory path = (after, none)) :
    Grown before after path.parts ∧ after.isDirectory path = true := by
  have grows := grown_ensureDirectory before path
  have directory := isDirectory_ensureParts h
  rw [h] at grows
  rw [List.reverse_reverse] at directory
  exact ⟨grows, directory⟩

end FileTree

end TurtleGraphics
