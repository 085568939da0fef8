import TurtleGraphics.Proofs.Files.Tree
import TurtleGraphics.Proofs.Text.Phrase
import TurtleGraphics.Workplace

/-! # Outlets of the journal

What one call does to the outlets: a set-up puts those that were asked for in the place of the old
ones, a log file that cannot be opened leaves the terminal alone, and a record goes to each outlet
once.
-/

namespace TurtleGraphics

namespace Record

variable {record : Record} {style : RecordStyle} {pid : ProcessId} {context : Entries}
  {moment : Moment} {message line : Phrase}

@[simp]
theorem level_named : record.named.level = record.level := by
  unfold named
  split <;> rfl

theorem written_of_printable {nesting : Nat} (h : record.printFault? nesting context = none) :
    record.written nesting style pid context =
      (record.write style pid context).mapError .fault := by
  unfold written
  split
  · rename_i hfault
    rw [h] at hfault
    cases hfault
  · rfl

/-- Names and values of a context that are text. -/
def PlainContext (context : Entries) : Prop :=
  ∀ entry ∈ context, entry.1.IsText ∧ entry.2.shown.IsText

end Record

/-- At most one terminal, and behind it at most one file. -/
def Outlet.arranged (terminal : Option Bool) (file : Option (Nat × RecordStyle)) : List Outlet :=
  (terminal.map Outlet.terminal).toList ++
    (file.map fun (serial, style) => Outlet.file serial style).toList

/-- What an outlet needs of a message and its context. A file for people is written in UTF-8, which
    has no bytes for half of a surrogate pair. -/
def Outlet.Covers (message : Phrase) (context : Entries) : Outlet → Prop
  | .terminal _ | .file _ .json => True
  | .file _ (.human _) => message.IsText ∧ Record.PlainContext context

namespace Journal

variable {journal : Journal}

@[simp]
theorem outlets_attach (outlet : Outlet) :
    (journal.attach outlet).outlets = journal.outlets ++ [outlet] := by
  simp [outlets, attach]

theorem foldl_detach (handlers : List Handler) (journal : Journal) :
    handlers.foldl detach journal =
      { journal with attached := journal.attached.filter fun handler =>
          handlers.all (handler.number ≠ ·.number) } := by
  induction handlers generalizing journal with
  | nil => simp
  | cons first rest ih =>
      rw [List.foldl_cons, ih]
      simp [detach, List.filter_filter, Bool.and_comm]

/-- What is attached is what was installed: at most one terminal, and behind it at most one file. -/
structure Tidy (journal : Journal) : Prop where
  same : journal.attached = journal.installed
  shape : ∃ terminal file, journal.outlets = Outlet.arranged terminal file

theorem Tidy.detachInstalled (h : journal.Tidy) :
    journal.detachInstalled = { journal with attached := [], installed := [] } := by
  have gone :
      journal.attached.filter (fun handler => journal.installed.all (handler.number ≠ ·.number)) =
        [] := by
    rw [List.filter_eq_nil_iff, h.same]
    intro handler hmem hall
    simpa using List.all_eq_true.mp hall handler hmem
  rw [Journal.detachInstalled, foldl_detach, gone]

theorem Tidy.close (h : journal.Tidy) :
    journal.close = { journal with attached := [], installed := [], context := [] } := by
  rw [Journal.close, h.detachInstalled]
  rfl

theorem tidy_nil {journal : Journal} (h : journal.attached = []) (h' : journal.installed = []) :
    journal.Tidy :=
  ⟨by rw [h, h'], none, none, by simp [outlets, h, Outlet.arranged]⟩

end Journal

namespace Workplace

variable {place after : Workplace} {options : JournalOptions} {path : Path} {name : Phrase}
  {json : Bool}

/-- Files and directories that were there are there. -/
def Keeps (place after : Workplace) : Prop :=
  ∀ parts node, place.files.at? parts = some node → after.files.at? parts = some node

theorem attachFile_some {fault : FileFault} (h : place.attachFile path json = (after, some fault)) :
    place.Keeps after ∧ after.journal = place.journal := by
  have grown := FileTree.grown_ensureDirectory place.files path.parent
  unfold attachFile at h
  split at h
  · rename_i hmade
    rw [hmade] at grown
    cases h
    exact ⟨grown.kept, rfl⟩
  · rename_i hmade
    rw [hmade] at grown
    split at h
    · cases h
      exact ⟨grown.kept, rfl⟩
    · cases h

theorem attachNamed_some {fault : JournalFault}
    (h : place.attachNamed name json = (after, some fault)) :
    place.Keeps after ∧ after.journal = place.journal := by
  unfold attachNamed at h
  split at h
  · rename_i text htext
    cases hattach : place.attachFile (Path.ofString text) json with
    | mk opened reason =>
        rw [hattach] at h
        cases reason with
        | none => cases h
        | some reason =>
            cases h
            exact attachFile_some hattach
  · dsimp only at h
    split at h
    · cases congrArg Prod.fst h
      exact ⟨fun _ _ => id, rfl⟩
    · rename_i text htext
      have grown := FileTree.grown_ensureDirectory place.files (Path.ofString text)
      split at h
      · rename_i hmade
        rw [hmade] at grown
        cases h
        exact ⟨grown.kept, rfl⟩
      · rename_i hmade
        rw [hmade] at grown
        cases congrArg Prod.fst h
        exact ⟨grown.kept, rfl⟩

theorem openFile_some {fault : JournalFault} (h : place.openFile options = (after, some fault)) :
    place.Keeps after ∧ after.journal = place.journal := by
  unfold openFile at h
  split at h
  · cases h
  · cases h
  · exact attachNamed_some h

def terminalFor (place : Workplace) (options : JournalOptions) : Option Bool :=
  if options.toTerminal then some (options.color && place.terminal) else none

theorem restart_journal (h : place.journal.Tidy) (options : JournalOptions) (threshold : Nat) :
    (place.restart options threshold).journal.attached =
      (place.restart options threshold).journal.installed ∧
      (place.restart options threshold).journal.outlets =
        Outlet.arranged (place.terminalFor options) none ∧
      (place.restart options threshold).journal.context = place.journal.context := by
  cases hterminal : options.toTerminal <;>
    simp [restart, onJournal, h.detachInstalled, Journal.attach, Journal.outlets, Outlet.arranged,
      terminalFor, hterminal]

/-- The outlet has taken a line once, behind what it had before. A file takes the bytes of the
    line. -/
def Takes (before after : Workplace) (line : Phrase) : Outlet → Prop
  | .terminal _ => after.errors = before.errors ++ line
  | .file serial _ => ∃ text, line.toString? = some text ∧
      ∀ parts content, before.files.at? parts = some (.file serial content) →
        ∃ content', after.files.at? parts = some (.file serial content') ∧
          content'.data = content.data ++ text.toUTF8

@[simp]
theorem journal_deliver (lines : List Phrase) (outlet : Outlet) :
    (place.deliver lines outlet).journal = place.journal := by
  cases outlet <;> rfl

theorem linesFor_single {journal : Journal} {nesting : Nat} {record : Record}
    {pid : Record.ProcessId}
    {outlet : Outlet} {line : Phrase} (admitted : journal.admits record = true)
    (hline : record.named.written nesting outlet.style pid journal.context = .ok line) :
    journal.linesFor nesting pid [record.named] outlet = [line ++ Phrase.ofString "\n"] := by
  have admitted' : journal.admits record.named = true := by simpa [Journal.admits] using admitted
  simp [Journal.linesFor, Journal.lines, admitted', hline]

end Workplace

end TurtleGraphics
