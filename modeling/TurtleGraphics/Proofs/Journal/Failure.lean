import TurtleGraphics.Proofs.Journal.Calls

/-! # Set-ups that fail

A set-up looks at the level first, and an unknown one stops it before anything is changed. The log
file comes last: a set-up that stops there has taken off what was installed and attached the
terminal, and only the new context is missing.
-/

namespace TurtleGraphics

namespace Journal

variable {journal : Journal}

/-- What is attached and was not installed here, so that a set-up leaves it alone. -/
def others (journal : Journal) : List Handler :=
  journal.attached.filter fun handler => journal.installed.all (handler.number ≠ ·.number)

theorem detachInstalled_eq :
    journal.detachInstalled = { journal with attached := journal.others, installed := [] } := by
  rw [detachInstalled, foldl_detach, others]

end Journal

namespace Workplace

variable {place after : Workplace} {options : JournalOptions}

/-- What a set-up leaves that stops at its log file: the handlers of others and the terminal that it
asks for, at the threshold that it asks for, and the context as it was. No other log file hears of a
record any more. -/
structure StoppedAtFile (place after : Workplace) (options : JournalOptions) (threshold : Nat) :
    Prop where
  context : after.journal.context = place.journal.context
  level : after.journal.threshold = threshold
  attached : after.journal.attached = place.journal.others ++ after.journal.installed
  installed : after.journal.installed.map Handler.outlet =
    ((place.terminalFor options).map Outlet.terminal).toList
  errors : after.errors = place.errors
  kept : place.Keeps after
  heard : ∀ color record line, place.terminalFor options = some color →
    threshold ≤ record.level.weight →
    record.named.written place.machine.nesting (.human color) place.pid place.journal.context =
      .ok line →
    line ++ Phrase.ofString "\n" <:+ (after.log [record]).errors
  unheard : ∀ records parts serial content,
    (∀ style, .file serial style ∉ place.journal.others.map Handler.outlet) →
    after.files.at? parts = some (.file serial content) →
    (after.log records).files.at? parts = some (.file serial content)

/-! ### The journal after the terminal was attached -/

theorem restart_eq (place : Workplace) (options : JournalOptions) (threshold : Nat) :
    (place.restart options threshold).journal.context = place.journal.context ∧
      (place.restart options threshold).journal.threshold = threshold ∧
      (place.restart options threshold).journal.attached =
        place.journal.others ++ (place.restart options threshold).journal.installed ∧
      (place.restart options threshold).journal.installed.map Handler.outlet =
        ((place.terminalFor options).map Outlet.terminal).toList := by
  cases hterminal : options.toTerminal <;>
    simp [restart, onJournal, Journal.detachInstalled_eq, Journal.attach, terminalFor, hterminal]

/-- What the terminal got before stays, and so do the process and the machine. -/
structure Undisturbed (place after : Workplace) : Prop where
  errors : after.errors = place.errors
  pid : after.pid = place.pid
  machine : after.machine = place.machine

theorem undisturbed_attachFile (path : Path) (json : Bool) :
    place.Undisturbed (place.attachFile path json).1 := by
  unfold attachFile
  split
  · exact ⟨rfl, rfl, rfl⟩
  · split <;> exact ⟨rfl, rfl, rfl⟩

theorem undisturbed_attachNamed (name : Phrase) (json : Bool) :
    place.Undisturbed (place.attachNamed name json).1 := by
  unfold attachNamed
  split
  · exact undisturbed_attachFile _ _
  · dsimp only
    split
    · exact ⟨rfl, rfl, rfl⟩
    · split <;> exact ⟨rfl, rfl, rfl⟩

theorem undisturbed_openFile (place : Workplace) (options : JournalOptions) :
    place.Undisturbed (place.openFile options).1 := by
  unfold openFile
  split
  · exact ⟨rfl, rfl, rfl⟩
  · exact ⟨rfl, rfl, rfl⟩
  · exact undisturbed_attachNamed _ _

theorem exists_name_of_openFile {fault : JournalFault}
    (h : place.openFile options = (after, some fault)) :
    ∃ name, options.file = some name ∧ name ≠ [] := by
  unfold openFile at h
  split at h
  · cases h
  · cases h
  · rename_i name hname hfile
    exact ⟨name, hfile, hname⟩

/-! ### Who hears of a record -/

theorem at?_foldl_deliver (lines : Outlet → List Phrase) {outlets : List Outlet}
    {parts : List String} {serial : Nat}
    {content : Content} (unattached : ∀ style, .file serial style ∉ outlets)
    (h : place.files.at? parts = some (.file serial content)) :
    (outlets.foldl (fun place outlet => place.deliver (lines outlet) outlet) place).files.at?
      parts =
      some (.file serial content) := by
  induction outlets generalizing place with
  | nil => exact h
  | cons outlet rest ih =>
      refine ih (fun style hmem => unattached style (List.mem_cons_of_mem _ hmem)) ?_
      cases outlet with
      | terminal color => exact h
      | file number style =>
          have other : serial ≠ number := by
            rintro rfl
            exact unattached style List.mem_cons_self
          simp [deliver, FileTree.at?_append, h, Node.append, other]

theorem at?_log {records : List Record} {parts : List String} {serial : Nat} {content : Content}
    (unattached : ∀ style, .file serial style ∉ place.journal.outlets)
    (h : place.files.at? parts = some (.file serial content)) :
    (place.log records).files.at? parts = some (.file serial content) := by
  unfold log
  dsimp only
  split
  · exact h
  · exact at?_foldl_deliver _ unattached h

theorem errors_log {record : Record} {color : Bool} {line : Phrase} {outlets : List Outlet}
    (last : place.journal.outlets = outlets ++ [.terminal color])
    (admitted : place.journal.admits record = true)
    (hline : record.named.written place.machine.nesting (.human color) place.pid
      place.journal.context = .ok line) :
    line ++ Phrase.ofString "\n" <:+ (place.log [record]).errors := by
  have lines :
      place.journal.linesFor place.machine.nesting place.pid [record.named] (.terminal color) =
      [line ++ Phrase.ofString "\n"] := linesFor_single admitted hline
  have some : place.journal.outlets.isEmpty = false := by simp [last]
  have logged : place.log [record] = place.journal.outlets.foldl (fun after outlet =>
      after.deliver (place.journal.linesFor place.machine.nesting place.pid [record.named] outlet)
        outlet)
      place := by
    simp [log, some]
  rw [logged, last, List.foldl_append, List.foldl_cons, List.foldl_nil, lines]
  simp [deliver, warn]

/-- What is left of a workplace whose set-up stopped at its log file. -/
theorem stoppedAtFile_of_openFile {threshold : Nat} {fault : JournalFault}
    (h : (place.restart options threshold).openFile options = (after, some fault)) :
    place.StoppedAtFile after options threshold := by
  obtain ⟨context, threshold', attached, installed⟩ := restart_eq place options threshold
  obtain ⟨kept, hjournal⟩ := openFile_some h
  obtain ⟨errors, pid, machine⟩ := undisturbed_openFile (place.restart options threshold) options
  rw [h] at errors pid machine
  rw [← hjournal] at context threshold' attached installed
  have outlets : after.journal.outlets =
      place.journal.others.map Handler.outlet ++
        ((place.terminalFor options).map Outlet.terminal).toList := by
    rw [Journal.outlets, attached, List.map_append, installed]
  refine ⟨context, threshold', attached, installed, errors, kept, ?_, ?_⟩
  · intro color record line asked weighty hline
    rw [asked] at outlets
    refine errors_log outlets ?_ ?_
    · rw [Journal.admits, threshold']
      exact decide_eq_true weighty
    · rw [context, pid, machine]
      exact hline
  · intro records parts serial content unattached hparts
    refine at?_log ?_ hparts
    intro style hmem
    rw [outlets, List.mem_append] at hmem
    obtain hmem | hmem := hmem
    · exact unattached style hmem
    · cases hterminal : place.terminalFor options <;> simp [hterminal] at hmem

/-- A set-up that fails leaves the context. An unknown level stops it before it changes anything, so
that records go where they went. It fails otherwise at the log file that it asks for, and then it
has the handlers of others and its own terminal attached, at its own threshold, and records go to
these. -/
theorem failed_setUp_leaves {fault : JournalFault} (h : place.setUp options = (after, some fault)) :
    after.journal.context = place.journal.context ∧
    match Level.threshold? (Text.uppercase options.level) with
    | none => fault = .unknownLevel options.level ∧ after = place
    | some threshold => (∃ name, options.file = some name ∧ name ≠ []) ∧
        place.StoppedAtFile after options threshold := by
  unfold setUp at h
  cases hlevel : Level.threshold? (Text.uppercase options.level) with
  | none =>
      rw [hlevel] at h
      cases h
      exact ⟨rfl, rfl, rfl⟩
  | some threshold =>
      rw [hlevel] at h
      dsimp only at h
      split at h
      · rename_i hopened
        cases h
        have stopped := stoppedAtFile_of_openFile hopened
        exact ⟨stopped.context, exists_name_of_openFile hopened, stopped⟩
      · cases h

/-- A directory stands where the log file should be. The handler of somebody else stays, the log
file of the set-up before does not. -/
theorem failed_setUp_leaves_others :
    let first : Workplace :=
      { pid := 7, now := .whole 0, files := { nodes := [(["d"], .directory)], fresh := 0 },
        journal := { attached := [⟨0, .terminal true⟩], fresh := 1 } }
    let place :=
      first.after [.push [("tool", .text "trace")],
        .setUp { file := some (Phrase.ofString "a.log") }]
    let options : JournalOptions := { level := "error", file := some (Phrase.ofString "d") }
    place.journal.outlets = [.terminal true, .terminal false, .file 0 (.human false)] ∧
      place.journal.others = [⟨0, .terminal true⟩] ∧
      ∃ after fault, place.setUp options = (after, some fault) ∧
      place.StoppedAtFile after options 40 := by
  intro first place options
  have fails : (place.setUp options).2.isSome = true := by
    simp only [place, first, options]
    cbv
  have level : Level.threshold? (Text.uppercase options.level) = some 40 := by
    simp only [options]
    cbv
  refine ⟨by simp only [place, first]; cbv, by simp only [place, first]; cbv, ?_⟩
  generalize hsetUp : place.setUp options = result at fails
  obtain ⟨after, fault⟩ := result
  obtain ⟨fault, rfl⟩ := Option.isSome_iff_exists.mp fails
  obtain ⟨-, leaves⟩ := failed_setUp_leaves hsetUp
  rw [level] at leaves
  exact ⟨after, fault, rfl, leaves.2⟩

/-- A set-up that fails takes the terminal off and raises the threshold, so that a record goes
nowhere that went to the terminal before. -/
theorem failed_setUp_silences :
    let first : Workplace :=
      { pid := 4242, now := .whole 0, files := { nodes := [(["d"], .directory)], fresh := 0 } }
    let place := first.after [.setUp {}]
    let options : JournalOptions :=
      { level := "ERROR", file := some (Phrase.ofString "d"), toTerminal := false }
    let record : Record :=
      { level := .info, speaker := "logo", template := "m", created := .whole 0 }
    (place.setUp options).2.isSome = true ∧
      (place.journal.outlets, place.journal.threshold) = ([.terminal false], 20) ∧
      ((place.setUp options).1.journal.outlets, (place.setUp options).1.journal.threshold) =
        ([], 40) ∧
      (place.log [record]).errors = Phrase.ofString "1970-01-01T00:00:00.000Z | INFO     | m\n" ∧
      ((place.setUp options).1.log [record]).errors = [] := by
  refine ⟨?_, ?_, ?_, ?_, ?_⟩ <;> cbv

end Workplace

end TurtleGraphics
