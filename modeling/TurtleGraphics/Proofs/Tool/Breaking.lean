import TurtleGraphics.Proofs.Settings.Fields
import TurtleGraphics.Proofs.Tool.Jobs

/-! # What can break a job off

With memory for what a job draws, only the printing of a number breaks it off. The numbers of the
text can be printed, so it is one of the settings, unless the text is extremely long.
-/

namespace TurtleGraphics

variable {settings : Settings} {machine : Machine} {text : String} {job : Job}
  {engine : Interpreter} {compiler : Compiler} {p : Program} {data : Datum} {fault : PrintFault}

namespace Job

/-- There is memory for the lines of an image, and its marker is no larger than moves are long. -/
def Fits (settings : Settings) (memory : Memory) : Job → Prop
  | .compile _ _ _ _ | .trace _ => True
  | .render _ marker _ =>
    Segment.Holds memory settings.canvas.width.toNat settings.canvas.height.toNat ∧
      (marker = true → settings.turtle.glyphSize ≤ 2 ^ 36)

/-- A job that draws needs no more commands than the turtle can go without being lost. -/
def Ends (p : Program) : Job → Prop
  | .compile _ _ _ _ | .trace _ => True
  | .render _ _ _ => p.workBound ≤ Program.workLimit

/-- A number of the settings cannot be printed, or the text is extremely long. -/
def Unprintable (settings : Settings) (text : String) : Prop :=
  text.length + 1 < 10 ^ mostDigits →
    ∃ field : Field .integer, PrintFault.ofInt? (settings.get field) ≠ none

theorem unprintable_of_limit
    (h : text.length + 1 < 10 ^ mostDigits → PrintFault.ofInt? settings.engine.maxRepeat ≠ none) :
    Unprintable settings text :=
  fun short => ⟨.maxRepeat, h short⟩

theorem unprintable_of_page {title compiled : String}
    (h : Page.print settings title compiled = .error fault) :
    fault = .tooManyDigits ∧ Unprintable settings text := by
  unfold Page.print at h
  split at h
  · rename_i shown
    cases h
    obtain ⟨number, hmem, hnumber⟩ := List.exists_of_findSome?_eq_some shown
    refine ⟨PrintFault.findSome?_ofInt? shown, fun _ => ?_⟩
    have unprinted : PrintFault.ofInt? number ≠ none := by
      rw [hnumber]
      exact Option.some_ne_none _
    simp only [Page.numbers, List.mem_cons, List.not_mem_nil, or_false] at hmem
    obtain rfl | rfl | rfl | rfl := hmem
    · exact ⟨.width, unprinted⟩
    · exact ⟨.height, unprinted⟩
    · exact ⟨.homeX, unprinted⟩
    · exact ⟨.homeY, unprinted⟩
  · cases h

theorem Starts.sound {lines : Bool} (h : (trace lines).Starts settings machine engine)
    (hbounded : machine.trigonometry.Bounded) : engine.Sound := by
  cases h with
  | intro hruns hstart =>
      cases hruns
      obtain ⟨stack, rfl⟩ := Interpreter.start_eq hstart
      exact ⟨hbounded.covers _ (lt_headingLimit (by decide)), .inl rfl, rfl⟩

theorem Starts.paints {output : Option String} {marker trace : Bool}
    (h : (render output marker trace).Starts settings machine engine)
    (hbounded : machine.trigonometry.Bounded) (hchecked : settings.Checked)
    (hfits : (render output marker trace).Fits settings machine.memory) :
    engine.Paints := by
  obtain ⟨holds, -⟩ := hfits
  have home : settings.turtle.homeX.natAbs ≤ 2 ^ 39 ∧ settings.turtle.homeY.natAbs ≤ 2 ^ 39 := by
    have x := hchecked.homeX
    have y := hchecked.homeY
    have narrow := holds.width_le
    have low := holds.height_le
    omega
  cases h with
  | intro hruns hstart =>
      cases hruns with
      | render hblank =>
          have extent := Canvas.extent_ofSettings hblank settings.palette
          obtain ⟨stack, rfl⟩ := Interpreter.start_eq hstart
          refine ⟨hbounded.covers _ (lt_headingLimit (by decide)), hbounded.short, .inl rfl, home,
            home, ?_⟩
          intro width height memory hextent
          cases extent.symm.trans hextent
          exact holds

theorem Starts.runProgram (h : job.Starts settings machine engine)
    (hbounded : machine.trigonometry.Bounded)
    (hchecked : settings.Checked) (hfits : job.Fits settings machine.memory) (hends : job.Ends p) :
    (engine.runProgram p).fault = none ∨
      ∃ d, (engine.runProgram p).fault = some (.run (.diagnostic d)) ∧
        p.Tells settings.engine.maxRepeat d := by
  have same := h.settings_eq
  cases job with
  | compile output raw title trace =>
      cases h with
      | intro hruns => cases hruns
  | trace lines =>
      obtain ⟨⟨hnone, -⟩ | ⟨d, hsome, -, hd⟩, -⟩ := (h.sound hbounded).runProgram p
      · exact .inl hnone
      · rw [same] at hd
        exact .inr ⟨d, hsome, hd⟩
  | render output marker trace =>
      obtain ⟨ended, -⟩ := (h.paints hbounded hchecked hfits).runProgram hends
      rwa [same] at ended

theorem Starts.marked {output : Option String} {trace : Bool}
    (h : (render output true trace).Starts settings machine engine)
    (hbounded : machine.trigonometry.Bounded)
    (hchecked : settings.Checked) (hfits : (render output true trace).Fits settings machine.memory)
    (hends : (render output true trace).Ends p) :
    ((engine.runProgram p).interpreter.drawTurtle none machine.trigonometry).2 = none := by
  obtain ⟨-, headed, close, roomy⟩ := (h.paints hbounded hchecked hfits).runProgram hends
  have small : settings.turtle.glyphSize.natAbs ≤ 2 ^ 36 := by
    have positive := hchecked.glyphSize
    have := hfits.2 rfl
    omega
  rw [← h.settings_eq, ← (engine.keeps_runProgram p).settings] at small
  exact Surface.drawTurtle_ok roomy close headed hbounded small

/-- Only a number that cannot be printed breaks off a job that fits the memory. -/
theorem Breaks.unprintable {fault : ToolFault} (h : job.Breaks settings machine text fault)
    (hdata : Settings.ofDatum data = .ok settings) (hbounded : machine.trigonometry.Bounded)
    (hchecked : settings.Checked) (hfits : job.Fits settings machine.memory)
    (hends : ∀ p, (settings.lexer.read text).program = .ok p → job.Ends p) :
    fault = .printing .tooManyDigits ∧ Unprintable settings text := by
  cases h with
  | lexing hread hprint =>
      obtain ⟨d, hd, -, told⟩ := LexerSettings.lexical_of_read hdata hread
      cases hd
      obtain rfl := PrintFault.findSome?_ofInt? hprint
      refine ⟨rfl, fun short => ?_⟩
      rw [told short] at hprint
      cases hprint
  | @compiling _ compiler p fault hcompiles hread hraised =>
      obtain ⟨hnone | ⟨d, hsome, -⟩ | ⟨hprinting, hlimit⟩, -⟩ :=
        compiler.raised_of_unfailing p (show ({} : Sink).failure = none from rfl)
      · cases hnone.symm.trans hraised
      · cases hsome.symm.trans hraised
      · cases hprinting.symm.trans hraised
        rw [hcompiles.settings_eq] at hlimit
        refine ⟨rfl, unprintable_of_limit fun short => ?_⟩
        obtain ⟨symbol, hbuild⟩ := LexerSettings.exists_build_of_read hread
        exact hlimit (LexerSettings.isPrintable_of_read hread short)
          (Nat.lt_of_le_of_lt (Program.size_le_of_build hbuild) (by omega))
  | page hcompiles hread hraised hpage =>
      obtain ⟨rfl, unprintable⟩ := unprintable_of_page hpage
      exact ⟨rfl, unprintable⟩
  | running hstarts hread hraised =>
      obtain hnone | ⟨d, hsome, hd⟩ := hstarts.runProgram hbounded hchecked hfits (hends _ hread)
      · rw [InterpreterRun.raised, hnone] at hraised
        cases hraised
      · obtain htold | ⟨htold, hlimit⟩ := InterpreterRun.raised_of_diagnostic hsome hd
        · cases htold.symm.trans hraised
        · cases htold.symm.trans hraised
          exact ⟨rfl, unprintable_of_limit fun short =>
            hlimit (LexerSettings.isPrintable_of_read hread short)⟩
  | number hstarts hread hfault | drawing hstarts hread hfault =>
      obtain hnone | ⟨d, hsome, -⟩ := hstarts.runProgram hbounded hchecked hfits (hends _ hread)
      · cases hnone.symm.trans hfault
      · cases hsome.symm.trans hfault
  | marker hstarts hread hfault hmarker =>
      cases (hstarts.marked hbounded hchecked hfits (hends _ hread)).symm.trans hmarker

end Job

end TurtleGraphics
