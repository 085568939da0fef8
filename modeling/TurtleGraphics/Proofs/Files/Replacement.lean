import Mathlib.Data.List.TakeWhile
import TurtleGraphics.Files.Atomic
import TurtleGraphics.Proofs.Files.Tree

/-! # Whole files are replaced

A write of a whole file that succeeds touches its target, the directories above it, and the
temporary name beside it. Nothing is left at that name: a file that stood there is gone, since the
name is not chosen to be free.
-/

namespace TurtleGraphics

namespace Path

variable {path : Path}

theorem parts_of_name (h : path.name ≠ "") : path.parts = path.parts.dropLast ++ [path.name] := by
  unfold name at h ⊢
  cases hlast : path.parts.getLast? with
  | none => simp [hlast] at h
  | some last =>
      simp only [hlast] at h ⊢
      split at h
      · contradiction
      · rename_i plain
        rw [if_neg plain]
        exact (List.dropLast_append_getLast? last hlast).symm

theorem withName_ok {name : String} {renamed : Path} (h : path.withName name = .ok renamed) :
    path.name ≠ "" ∧ renamed = path.rename name := by
  unfold withName at h
  split at h
  · cases h
  · cases h
    exact ⟨‹_›, rfl⟩

theorem withSuffix_ok {suffix : String} {renamed : Path}
    (h : path.withSuffix suffix = .ok renamed) :
    path.name ≠ "" ∧ renamed = path.rename (path.stem ++ suffix) := by
  unfold withSuffix at h
  dsimp only at h
  split at h
  · cases h
  · exact withName_ok h

theorem splitSuffix_cases (name : String) :
    splitSuffix name = (name, "") ∨
      ∃ stem tail, stem ≠ [] ∧ '.' ∉ tail ∧ name.toList = stem ++ '.' :: tail ∧
        splitSuffix name = (String.ofList stem, String.ofList ('.' :: tail)) := by
  have parts := List.takeWhile_append_dropWhile (p := (· ≠ '.')) (l := name.toList.reverse)
  have tail : ∀ c ∈ name.toList.reverse.takeWhile (· ≠ '.'), c ≠ '.' := by
    intro c hc
    simpa using List.mem_takeWhile_imp (p := (· ≠ '.')) hc
  have back := List.head?_dropWhile_not (· ≠ '.') name.toList.reverse
  unfold splitSuffix
  dsimp only
  generalize name.toList.reverse.takeWhile (· ≠ '.') = last at *
  generalize name.toList.reverse.dropWhile (· ≠ '.') = front at *
  have spelled : name.toList = front.reverse ++ last.reverse := by
    rw [← List.reverse_append, parts, List.reverse_reverse]
  split
  · exact .inl rfl
  · rename_i parted
    cases front with
    | nil => simp [spelled] at parted
    | cons period front =>
        obtain rfl : period = '.' := by simpa using back
        have spelled : name.toList = front.reverse ++ '.' :: last.reverse := by simpa using spelled
        have count : name.toList.length - last.reverse.length - 1 = front.reverse.length := by
          simp only [spelled, List.length_append, List.length_cons]
          omega
        have cut : name.toList.take (name.toList.length - last.reverse.length - 1) =
            front.reverse := by
          rw [count, spelled, List.take_left]
        rw [cut] at parted ⊢
        refine .inr ⟨front.reverse, last.reverse, ?_, ?_, spelled, rfl⟩
        · exact fun none => parted (.inr (.inl none))
        · intro held
          exact tail '.' (List.mem_reverse.mp held) rfl

theorem stem_append_suffix (path : Path) : path.stem ++ path.suffix = path.name := by
  unfold stem suffix
  obtain h | ⟨stem, tail, -, -, hname, h⟩ := splitSuffix_cases path.name
  · simp [h]
  · rw [h, ← String.ofList_append, ← hname, String.ofList_toList]

end Path

namespace FileTree

variable {before grown after : FileTree} {target : Path} {names : List String} {content : Content}

/-- What the write of a whole file leaves. -/
structure Replaced (before after : FileTree) (target : Path) (temporaryName : String)
    (content : Content) : Prop where
  named : target.name ≠ ""
  holds : after.read target = .ok content
  directory : after.isDirectory target.parent = true
  cleared : after.node (target.rename temporaryName) =
    .error ⟨.notFound, target.rename temporaryName, none⟩
  /-- Everything else stays. -/
  kept : ∀ place node, before.at? place = some node → after.locate target ≠ .ok place →
    after.locate (target.rename temporaryName) ≠ .ok place → after.at? place = some node
  /-- Nothing else is new but directories above the target. -/
  made : ∀ place node, after.at? place = some node →
    before.at? place = some node ∨ after.locate target = .ok place ∨
      (before.at? place = none ∧ node = .directory ∧
        ∃ names, names <+: target.parent.parts ∧ after.locate ⟨names⟩ = .ok place)

theorem giveUp_ne_none {tree : FileTree} {temporary : Path} {wrap : FileFault → WriteFault}
    {fault : FileFault} :
    (tree.giveUp temporary wrap fault).2 ≠ none := by
  unfold giveUp
  split
  · nofun
  · split
    · nofun
    · nofun
    · split <;> nofun

theorem replaceBy_ok {tree : FileTree} {temporary : Path} {wrap : FileFault → WriteFault}
    {device : Device} (h : tree.replaceBy temporary target content wrap device = (after, none)) :
    ∃ place, tree.placeOf temporary = .ok place ∧ (tree.write temporary content device).2 = none ∧
      (tree.write temporary content device).1.move temporary target = .ok after := by
  unfold replaceBy at h
  split at h
  · exact absurd (congrArg Prod.snd h) giveUp_ne_none
  · rename_i written hwrite
    split at h
    · exact absurd (congrArg Prod.snd h) giveUp_ne_none
    · rename_i moved hmove
      cases h
      rw [hwrite]
      cases hplace : tree.placeOf temporary with
      | error fault => simp [write, hplace] at hwrite
      | ok place => exact ⟨place, rfl, rfl, hmove⟩

theorem apart_of_rename {tree : FileTree} {name : String} {origin place : List String}
    (named : target.name ≠ "")
    (down : target.parts.getLast? ≠ some Path.upward) (fresh : name ≠ target.name)
    (plain : name ≠ Path.upward) (htemporary : tree.locate (target.rename name) = .ok origin)
    (htarget : tree.locate target = .ok place) :
    origin ≠ place := by
  obtain ⟨-, -, htemporary⟩ := locate_ok.mp htemporary
  obtain ⟨-, -, htarget⟩ := locate_ok.mp htarget
  rw [Path.parts_of_name named] at htarget down
  obtain ⟨above, habove, rfl⟩ := follow_concat (by simpa using down) htarget
  obtain ⟨above', habove', rfl⟩ := follow_concat plain htemporary
  cases habove.symm.trans habove'
  simpa using fresh

/-- The content ends up at the target, the temporary name is free, and all else stays. -/
theorem replaceBy_changes {tree : FileTree} {name : String} {wrap : FileFault → WriteFault}
    {device : Device}
    (named : target.name ≠ "") (fresh : name ≠ target.name) (plain : name ≠ Path.upward)
    (h : tree.replaceBy (target.rename name) target content wrap device = (after, none)) :
    ∃ origin place serial, tree.locate (target.rename name) = .ok origin ∧
      after.locate target = .ok place ∧
      after.at? place = some (.file serial content) ∧ after.at? origin = none ∧
      (∀ other, other ≠ place → other ≠ origin → after.at? other = tree.at? other) ∧
      ∀ other, tree.at? other = some .directory → after.at? other = some .directory := by
  obtain ⟨origin, hplaced, whole, hmove⟩ := replaceBy_ok h
  obtain ⟨serial, held, horigin, led, hwritten, free, unmoved, entire⟩ :=
    write_changes content device hplaced
  obtain rfl : content = held := (entire whole).symm
  have stay := stay_of_others free free fun other apart _ => unmoved other apart
  obtain ⟨origin', place, serial', content', horigin', hfile, hplace, down, closed, held, gone,
    others⟩ :=
    move_changes hmove
  -- the move finds the temporary file again, with what was written to it
  have same : origin' = origin := Except.ok.inj (horigin'.symm.trans led)
  subst same
  obtain ⟨rfl, rfl⟩ : serial' = serial ∧ content' = content := by
    simpa [hwritten, eq_comm] using hfile
  have apart := apart_of_rename named down fresh plain horigin' hplace
  have stay' := stay_of_others closed (by simp [hfile]) others
  refine ⟨origin', place, serial', horigin, locate_of_stay stay' hplace, held, gone apart, ?_, ?_⟩
  · intro other hplace horigin
    rw [others other hplace horigin, unmoved other horigin]
  · exact fun other hother => stay' other (stay other hother)

theorem replaced_of_replaceBy {name : String} {wrap : FileFault → WriteFault} {device : Device}
    (grows : Grown before grown target.parent.parts)
    (directory : grown.isDirectory target.parent = true)
    (named : target.name ≠ "") (fresh : name ≠ target.name) (plain : name ≠ Path.upward)
    (h : grown.replaceBy (target.rename name) target content wrap device = (after, none)) :
    Replaced before after target name content := by
  obtain ⟨origin, place, serial, horigin, hplace, held, gone, others, stay⟩ :=
    replaceBy_changes named fresh plain h
  have horigin := locate_of_stay stay horigin
  refine ⟨named, read_of_at? hplace held, ?_, ?_, ?_, ?_⟩
  · obtain ⟨above, habove, there⟩ := isDirectory_iff.mp directory
    exact isDirectory_iff.mpr ⟨above, locate_of_stay stay habove, stay above there⟩
  · simp [FileTree.node, horigin, gone, bind, Except.bind]
  · intro other node hother htarget htemporary
    rw [others other, grows.kept other node hother]
    · rintro rfl
      exact htarget hplace
    · rintro rfl
      exact htemporary horigin
  · intro other node hother
    by_cases htarget : other = place
    · exact .inr (.inl (htarget ▸ hplace))
    · have htemporary : other ≠ origin := by
        rintro rfl
        simp [gone] at hother
      rw [others other htarget htemporary] at hother
      exact (grows.made_of_stay stay hother).imp_right .inr

theorem length_temporary (front back : String) :
    (front ++ temporarySuffix ++ back).length = front.length + back.length + 4 := by
  have four : temporarySuffix.length = 4 := by decide
  rw [String.length_append, String.length_append, four]
  omega

theorem temporary_ne {front back other : String}
    (h : other.length < front.length + back.length + 4) :
    front ++ temporarySuffix ++ back ≠ other :=
  ne_of_apply_ne String.length (by rw [length_temporary]; omega)

/-- A temporary name is not the name, and stands for no directory. -/
theorem temporary_apart {name front back : String} (h : front ++ back = name) :
    front ++ temporarySuffix ++ back ≠ name ∧ front ++ temporarySuffix ++ back ≠ Path.upward := by
  have two : Path.upward.length = 2 := by decide
  subst h
  constructor
  · exact temporary_ne (by rw [String.length_append]; omega)
  · exact temporary_ne (by omega)

theorem formatSuffix_rename (hsuffix : target.suffix ≠ "") :
    formatSuffix (target.rename (target.stem ++ temporarySuffix ++ target.suffix)) =
      Text.lowercase target.suffix := by
  obtain h | ⟨stem, tail, -, plain, -, h⟩ := Path.splitSuffix_cases target.name
  · simp [Path.suffix, h] at hsuffix
  · have parts : target.stem = String.ofList stem ∧
        target.suffix = String.ofList ('.' :: tail) := by
      simp [Path.stem, Path.suffix, h]
    have named : (target.rename (target.stem ++ temporarySuffix ++ target.suffix)).name =
        target.stem ++ temporarySuffix ++ target.suffix := by
      have one : Path.root.length = 1 := by decide
      have long : target.stem ++ temporarySuffix ++ target.suffix ≠ Path.root :=
        temporary_ne (by omega)
      simp [Path.rename, Path.name, long]
    have spelled : (target.stem ++ temporarySuffix ++ target.suffix).toList =
        (stem ++ ['.', 't', 'm', 'p']) ++ '.' :: tail := by
      simp [parts, temporarySuffix]
    have front : (stem ++ ['.', 't', 'm', 'p']).dropWhile (· = '.') ≠ [] := by
      simp only [ne_eq, List.dropWhile_eq_nil_iff, not_forall]
      exact ⟨'t', by simp, by decide⟩
    unfold formatSuffix
    rw [named, spelled, List.dropWhile_append]
    simp only [List.isEmpty_iff, front, if_false]
    generalize (stem ++ ['.', 't', 'm', 'p']).dropWhile (· = '.') = dropped at *
    have back : ((dropped ++ '.' :: tail).reverse.takeWhile (· ≠ '.')).reverse = tail := by
      rw [List.reverse_append, List.reverse_cons, List.append_assoc, List.takeWhile_append_of_pos]
      · simp
      · intro c hc
        simp
        rintro rfl
        exact plain (List.mem_reverse.mp hc)
    simp only [back, parts]
    rw [if_neg]
    rw [List.length_append, List.length_cons]
    omega

theorem replaced_of_writeBytes {data : ByteArray} {device : Device}
    (h : before.writeBytes target data temporarySuffix device = (after, none)) :
    Replaced before after target (target.name ++ temporarySuffix) (.bytes data) := by
  unfold writeBytes at h
  split at h
  · cases h
  · rename_i hgrown
    split at h
    · cases h
    · rename_i temporary htemporary
      obtain ⟨named, rfl⟩ := Path.withSuffix_ok htemporary
      rw [← String.append_assoc, Path.stem_append_suffix] at h
      obtain ⟨grows, directory⟩ := ensureDirectory_ok hgrown
      obtain ⟨fresh, plain⟩ := temporary_apart (String.append_empty (s := target.name))
      rw [String.append_empty] at fresh plain
      exact replaced_of_replaceBy grows directory named fresh plain h

theorem replaced_of_savePicture {picture : Picture} {format : PictureFormat} {device : Device}
    (hformat : PictureFormat.ofSuffix? (Text.lowercase target.suffix) = some format)
    (h : before.savePicture target picture device = (after, none)) :
    Replaced before after target (target.stem ++ temporarySuffix ++ target.suffix)
      (.picture format picture) := by
  have hsuffix : target.suffix ≠ "" := by
    intro none
    rw [none] at hformat
    cases hformat
  unfold savePicture at h
  split at h
  · cases h
  · rename_i hgrown
    split at h
    · cases h
    · rename_i temporary htemporary
      obtain ⟨named, rfl⟩ := Path.withName_ok htemporary
      have kept : formatOf (target.rename (target.stem ++ temporarySuffix ++ target.suffix)) =
          .ok format := by
        simp [formatOf, formatSuffix_rename hsuffix, hformat, pure, Except.pure]
      rw [kept] at h
      dsimp only at h
      split at h
      · unfold startOnly at h
        split at h
        · exact absurd (congrArg Prod.snd h) giveUp_ne_none
        · cases h
        · cases h
      · obtain ⟨grows, directory⟩ := ensureDirectory_ok hgrown
        obtain ⟨fresh, plain⟩ := temporary_apart target.stem_append_suffix
        exact replaced_of_replaceBy grows directory named fresh plain h

theorem replaced_of_saveAmounts {kind : AmountKind} {picture : Picture} {format : PictureFormat}
    {device : Device}
    (hformat : PictureFormat.ofSuffix? (Text.lowercase target.suffix) = some format)
    (h : before.saveAmounts target kind picture device = (after, none)) :
    Replaced before after target (target.stem ++ temporarySuffix ++ target.suffix)
      (.picture format picture) := by
  unfold saveAmounts at h
  split at h
  · exact replaced_of_savePicture hformat h
  · split at h <;> cases h

/-- Writes of bytes, of text and of pictures replace their target and leave every other path as it
    was, save the one that the temporary name beside the target spells: what stood there is gone. -/
theorem writes_replace (before : FileTree) (target : Path) (device : Device) :
    (∀ data after, before.writeBytes target data temporarySuffix device = (after, none) →
      Replaced before after target (target.name ++ ".tmp") (.bytes data)) ∧
    (∀ text encoding after, before.writeText target text encoding device = (after, none) →
      ∃ data, Text.encode encoding text = .ok data ∧
        Replaced before after target (target.name ++ ".tmp") (.bytes data)) ∧
    ∀ kind picture format after, PictureFormat.ofSuffix? (Text.lowercase target.suffix) =
      some format →
      before.saveAmounts target kind picture device = (after, none) →
        Replaced before after target (target.stem ++ ".tmp" ++ target.suffix)
          (.picture format picture) := by
  refine ⟨fun _ _ => replaced_of_writeBytes, ?_, fun _ _ _ _ => replaced_of_saveAmounts⟩
  intro text encoding after h
  unfold writeText at h
  split at h
  · cases h
  · rename_i data hdata
    exact ⟨data, hdata, replaced_of_writeBytes h⟩

/-- All three at a path whose directory is missing. -/
theorem writes_replace_below_missing :
    let before : FileTree := { nodes := [(["a"], .file 0 (.bytes "old".toUTF8))], fresh := 1 }
    let target : Path := ⟨["c", "b.png"]⟩
    let dot : Picture := ⟨.gray, 1, 1, [[⟨0, 0, 0⟩]]⟩
    let after (content : Content) : FileTree := {
      nodes := [(["c", "b.png"], .file 1 content), (["c"], .directory),
        (["a"], .file 0 (.bytes "old".toUTF8))]
      fresh := 2
      paths_nodup := show [["c", "b.png"], ["c"], ["a"]].Nodup by decide
      serials_nodup := show [1, 0].Nodup by decide
      serials_lt := show ∀ serial ∈ [1, 0], serial < 2 by decide }
    (before.writeBytes target "new".toUTF8 temporarySuffix = (after (.bytes "new".toUTF8), none) ∧
      Replaced before (after (.bytes "new".toUTF8)) target (target.name ++ ".tmp")
        (.bytes "new".toUTF8)) ∧
    (before.writeText target "new" .latin1 = (after (.bytes "new".toUTF8), none) ∧
      ∃ data, Text.encode .latin1 "new" = .ok data ∧
        Replaced before (after (.bytes "new".toUTF8)) target (target.name ++ ".tmp")
          (.bytes data)) ∧
    PictureFormat.ofSuffix? (Text.lowercase target.suffix) = some .png ∧
      before.saveAmounts target (.real 53) dot = (after (.picture .png dot), none) ∧
        Replaced before (after (.picture .png dot)) target (target.stem ++ ".tmp" ++ target.suffix)
          (.picture .png dot) := by
  intro before target dot after
  obtain ⟨bytes, text, picture⟩ := writes_replace before target .endless
  have suffix : PictureFormat.ofSuffix? (Text.lowercase target.suffix) = some .png := by
    decide +kernel
  have hbytes : before.writeBytes target "new".toUTF8 temporarySuffix =
      (after (.bytes "new".toUTF8), none) := by
    decide +kernel
  have htext : before.writeText target "new" .latin1 = (after (.bytes "new".toUTF8), none) := by
    decide +kernel
  have hpicture : before.saveAmounts target (.real 53) dot = (after (.picture .png dot), none) := by
    decide +kernel
  exact ⟨⟨hbytes, bytes _ _ hbytes⟩, ⟨htext, text _ _ _ htext⟩, suffix, hpicture,
    picture _ _ _ _ suffix hpicture⟩

/-- The temporary name is taken even where a file has it. -/
theorem writeText_takes_neighbour :
    let before : FileTree := { nodes := [(["b.tmp"], .file 0 (.bytes "stale".toUTF8))], fresh := 1 }
    ∃ after, before.writeText ⟨["b"]⟩ "fresh" .utf8 = (after, none) ∧
      before.read ⟨["b.tmp"]⟩ = .ok (.bytes "stale".toUTF8) ∧ after.has ⟨["b.tmp"]⟩ = .ok false :=
  ⟨_, rfl, rfl, rfl⟩

end FileTree

end TurtleGraphics
