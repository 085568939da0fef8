import TurtleGraphics.Page
import TurtleGraphics.Proofs.Compiler.Output
import TurtleGraphics.Proofs.Interpreter.History
import TurtleGraphics.Proofs.Text.Lines

/-! # What a page holds

A page has its title and the statements of a script, indented, in between parts that depend on the
settings only. Only a title in which the marked line stands is changed: there the statements appear
a second time.
-/

namespace TurtleGraphics

/-! ## Statements as lines -/

namespace Statement

theorem visible_text (s : Statement) : Text.isBlankLine s.text.toList = false := by
  cases s with
  | home | closeLoop => exact Text.isBlankLine_ofList (by decide +kernel)
  | pen down => cases down <;> exact Text.isBlankLine_ofList (by decide +kernel)
  | paper | ink | forward | back | left | right | openLoop =>
      exact Text.isBlankLine_append _ (Text.isBlankLine_ofList (by decide +kernel))

theorem plain_text (s : Statement) : Text.Plain s.text.toList where
  unbroken c hc := by
    have ends : ∀ c ∈ Text.lineEnds, isScriptChar c = false :=
      List.all_iff_forall_prop.mp (by decide +kernel)
    cases hends : Text.lineEnds.contains c with
    | false => rfl
    | true => exact absurd (s.consists_text c hc) (by simp [ends c (by simpa using hends)])
  visible := s.visible_text

end Statement

/-- The lines of a script, without the newlines at their ends. -/
def Script.lines (script : Script) : List (List Char) :=
  script.map fun statement => statement.text.toList

theorem Script.plain_lines (script : Script) : ∀ line ∈ script.lines, Text.Plain line := by
  intro line hline
  obtain ⟨statement, -, rfl⟩ := List.mem_map.mp hline
  exact statement.plain_text

theorem Script.toList_text (script : Script) :
    script.text.toList = script.lines.flatMap (· ++ ['\n']) := by
  induction script with
  | nil => rfl
  | cons statement script ih =>
      rw [toList_text_cons, ih]
      simp [lines]

theorem Compiler.exists_script {compiler : Compiler} {source : String}
    (h : (compiler.compileTo source {}).fault = none) :
    ∃ script : Script, (compiler.compileTo source {}).sink.text = script.text := by
  cases hread : (compiler.settings.lexer.read source).program with
  | error fault =>
      rw [(compileTo_of_error {} hread).1] at h
      cases h
  | ok p =>
      obtain ⟨same, -, written⟩ := compileTo_of_ok {} hread
      rw [same] at h
      rw [written]
      exact ⟨_, (Compiler.compileProgram_accepted h).2.trans String.empty_append⟩

namespace Page

/-! ## Lines without the mark -/

/-- A character of the mark is missing in the line. -/
def Unmarked (line : String) : Prop :=
  Text.Consists (· ≠ '\x7b') line ∨ Text.Consists (· ≠ '/') line

theorem mark_ne_nil : mark ≠ [] := by
  decide

theorem replaceAll_join {lines : List String} (h : ∀ line ∈ lines, Unmarked line)
    (replacement rest : List Char) :
    Text.replaceAll mark replacement (join lines ++ rest) =
      join lines ++ Text.replaceAll mark replacement rest := by
  induction lines with
  | nil => rfl
  | cons line lines ih =>
      obtain ⟨unmarked, behind⟩ := List.forall_mem_cons.mp h
      have same : Text.replaceAll mark replacement line.toList = line.toList := by
        rcases unmarked with h | h
        · exact Text.replaceAll_of_notMem (by decide) (h.notMem (c := '\x7b') (by decide))
            replacement
        · exact Text.replaceAll_of_notMem (by decide) (h.notMem (c := '/') (by decide)) replacement
      have joined : join (line :: lines) ++ rest = line.toList ++ '\n' :: (join lines ++ rest) := by
        simp [join]
      rw [joined, Text.replaceAll_append_cons mark_ne_nil (by decide), same, ih behind]
      simp [join]

/-- A character that is written in no number and in no name of a color. -/
structure Foreign (c : Char) : Prop where
  isDigit : c.isDigit = false
  ne_sign : c ≠ '-'
  css : ∀ color : Color, Text.Consists (· ≠ c) color.css

theorem Foreign.number {c : Char} (h : Foreign c) (n : Int) :
    Text.Consists (· ≠ c) (toString n) := by
  refine .int (fun d hd => ?_) (by simpa using h.ne_sign.symm) n
  rw [decide_eq_true_eq]
  rintro rfl
  rw [h.isDigit] at hd
  cases hd

theorem foreign_brace : Foreign '\x7b' where
  isDigit := by decide
  ne_sign := by decide
  css color := by cases color <;> exact .ofList (by decide)

theorem foreign_slash : Foreign '/' where
  isDigit := by decide
  ne_sign := by decide
  css color := by cases color <;> exact .ofList (by decide)

theorem foreign_tag : Foreign '<' where
  isDigit := by decide
  ne_sign := by decide
  css color := by cases color <;> exact .ofList (by decide)

theorem consists_between {c : Char} {front back text : String}
    (hfront : Text.Consists (· ≠ c) front)
    (htext : Text.Consists (· ≠ c) text) (hback : Text.Consists (· ≠ c) back) :
    Text.Consists (· ≠ c) (front ++ text ++ back) :=
  (hfront.append htext).append hback

theorem consists_canvas (width height : Int) :
    Text.Consists (· ≠ '\x7b') ("    <canvas width=\"" ++ toString width ++ "\" height=\"" ++
      toString height ++
      "\" id=\"canvas\"></canvas>") :=
  consists_between
    (consists_between (.ofList (by decide)) (foreign_brace.number width) (.ofList (by decide)))
    (foreign_brace.number height) (.ofList (by decide))

theorem consists_place {c : Char} (hc : Foreign c) {front : String}
    (hfront : Text.Consists (· ≠ c) front)
    (hy : Text.Consists (· ≠ c) ", y: ") (hangle : Text.Consists (· ≠ c) ", angle: 0\x7d;")
    (x y : Int) :
    Text.Consists (· ≠ c) (front ++ toString x ++ ", y: " ++ toString y ++ ", angle: 0\x7d;") :=
  consists_between (consists_between hfront (hc.number x) hy) (hc.number y) hangle

theorem unmarked_definitions (settings : Settings) :
    ∀ line ∈ definitions settings, Unmarked line := by
  have width : Unmarked ("        width: " ++ toString settings.canvas.width ++ "px;") :=
    .inl (consists_between (.ofList (by decide)) (foreign_brace.number _) (.ofList (by decide)))
  have canvas : Unmarked _ := .inl (consists_canvas settings.canvas.width settings.canvas.height)
  have paper : Unmarked ("        var paper = '" ++ settings.turtle.paper.css ++ "';") :=
    .inl (consists_between (.ofList (by decide)) (foreign_brace.css _) (.ofList (by decide)))
  have ink : Unmarked ("        var ink = '" ++ settings.turtle.ink.css ++ "';") :=
    .inl (consists_between (.ofList (by decide)) (foreign_brace.css _) (.ofList (by decide)))
  have place (front : String) (hfront : Text.Consists (· ≠ '/') front) (x y : Int) :
      Unmarked (front ++ toString x ++ ", y: " ++ toString y ++ ", angle: 0\x7d;") :=
    .inr (consists_place foreign_slash hfront (.ofList (by decide)) (.ofList (by decide)) x y)
  have first := place "        var head = \x7bx: " (.ofList (by decide)) settings.turtle.homeX
    settings.turtle.homeY
  have again := place "            head = \x7bx: " (.ofList (by decide)) settings.turtle.homeX
    settings.turtle.homeY
  simp only [definitions, List.forall_mem_cons]
  and_intros
  all_goals first
    | with_reducible assumption
    | exact .inl (.ofList (by decide))
    | exact .inr (.ofList (by decide))
    | exact List.forall_mem_nil _

/-- The lines behind the tag that opens the script. -/
def functions (settings : Settings) : List String :=
  (definitions settings).drop 14

theorem untagged_functions (settings : Settings) : ∀ line ∈ functions settings,
    Text.Consists (· ≠ '<') line := by
  have paper :
      Text.Consists (· ≠ '<') ("        var paper = '" ++ settings.turtle.paper.css ++ "';") :=
    consists_between (.ofList (by decide)) (foreign_tag.css _) (.ofList (by decide))
  have ink : Text.Consists (· ≠ '<') ("        var ink = '" ++ settings.turtle.ink.css ++ "';") :=
    consists_between (.ofList (by decide)) (foreign_tag.css _) (.ofList (by decide))
  have place (front : String) (hfront : Text.Consists (· ≠ '<') front) (x y : Int) :
      Text.Consists (· ≠ '<') (front ++ toString x ++ ", y: " ++ toString y ++ ", angle: 0\x7d;") :=
    consists_place foreign_tag hfront (.ofList (by decide)) (.ofList (by decide)) x y
  have first := place "        var head = \x7bx: " (.ofList (by decide)) settings.turtle.homeX
    settings.turtle.homeY
  have again := place "            head = \x7bx: " (.ofList (by decide)) settings.turtle.homeX
    settings.turtle.homeY
  simp only [functions, definitions, List.drop_succ_cons, List.drop_zero, List.forall_mem_cons]
  and_intros
  all_goals first
    | with_reducible assumption
    | exact .ofList (by decide)
    | exact List.forall_mem_nil _

theorem join_append (lines rest : List String) : join (lines ++ rest) = join lines ++ join rest :=
  List.flatMap_append

theorem notMem_join {c : Char} (hc : c ≠ '\n') {lines : List String}
    (h : ∀ line ∈ lines, Text.Consists (· ≠ c) line) :
    c ∉ join lines := by
  rw [join, List.mem_flatMap]
  rintro ⟨line, hline, inside⟩
  have inside := List.mem_append.mp inside
  exact inside.elim ((h line hline).notMem (by simp)) (by simpa using hc)

/-! ## The parts of a page -/

/-- What stands before the title. -/
def beforeTitle : List Char :=
  join opening ++ "    <title>".toList

/-- What stands between the title and the statements. -/
def behindTitle (settings : Settings) : List Char :=
  "</title>\n".toList ++ join (definitions settings)

/-- What stands behind the statements. -/
def behindCode : List Char :=
  '\n' :: join closing

/-- The definitions depend on the canvas, the home of the turtle and its first colors only. -/
theorem definitions_congr {settings other : Settings} (hcanvas : other.canvas = settings.canvas)
    (hx : other.turtle.homeX = settings.turtle.homeX)
    (hy : other.turtle.homeY = settings.turtle.homeY)
    (hpaper : other.turtle.paper = settings.turtle.paper)
    (hink : other.turtle.ink = settings.turtle.ink) :
    definitions other = definitions settings := by
  let part (canvas : CanvasSettings) (homeX homeY : Int) (paper ink : Color) : Settings :=
    { canvas, turtle := { homeX, homeY, paper, ink } }
  have same :
      part other.canvas other.turtle.homeX other.turtle.homeY other.turtle.paper other.turtle.ink =
      part settings.canvas settings.turtle.homeX settings.turtle.homeY settings.turtle.paper
        settings.turtle.ink := by
    rw [hcanvas, hx, hy, hpaper, hink]
  have whole (settings : Settings) :
      definitions settings = definitions (part settings.canvas settings.turtle.homeX
      settings.turtle.homeY settings.turtle.paper settings.turtle.ink) := rfl
  exact (whole other).trans ((congrArg definitions same).trans (whole settings).symm)

/-- A title stands between two characters that are not in the mark. -/
theorem around_title (settings : Settings) (title rest : List Char) :
    beforeTitle ++ title ++ behindTitle settings ++ rest =
      join opening ++ ("    <title".toList ++ '>' :: (title ++ '<' ::
        ("/title>".toList ++ '\n' :: (join (definitions settings) ++ rest)))) := by
  have regroup (a b c d e f : List Char) (x y z : Char) :
      a ++ (b ++ [x]) ++ c ++ y :: (d ++ z :: e) ++ f =
        a ++ (b ++ x :: (c ++ y :: (d ++ z :: (e ++ f)))) := by
    simp
  exact regroup (join opening) "    <title".toList title "/title>".toList
    (join (definitions settings)) rest '>' '<' '\n'

theorem shell_eq (settings : Settings) (title : String) :
    shell settings title = beforeTitle ++ title.toList ++ behindTitle settings ++
      (mark ++ behindCode) := by
  have regroup (a b c d e : List Char) : a ++ b ++ c ++ d ++ e = a ++ (b ++ c) ++ (d ++ e) := by
    simp
  exact regroup (beforeTitle ++ title.toList) "</title>\n".toList (join (definitions settings)) mark
    behindCode

theorem unmarked_opening : ∀ line ∈ opening, Unmarked line := by
  simp only [opening, List.forall_mem_cons]
  and_intros
  all_goals first
    | exact .inl (.ofList (by decide))
    | exact List.forall_mem_nil _

theorem unmarked_closing : ∀ line ∈ "" :: closing, Unmarked line := by
  simp only [closing, List.forall_mem_cons]
  and_intros
  all_goals first
    | exact .inl (.ofList (by decide))
    | exact List.forall_mem_nil _

/-- Nothing is replaced but the marked line, and what reads like it in the title. -/
theorem toList_render (settings : Settings) (title compiled : String) :
    (render settings title compiled).toList =
      beforeTitle ++ Text.replaceAll mark (body compiled) title.toList ++ behindTitle settings ++
        body compiled ++
        behindCode := by
  refine Eq.trans ?_ (List.append_assoc _ _ _).symm
  have code : behindCode = join ("" :: closing) ++ [] := (List.append_nil _).symm
  have tag : Text.replaceAll mark (body compiled) "    <title".toList = "    <title".toList :=
    Text.replaceAll_of_notMem (c := '/') (by decide) (by decide) _
  have endTag : Text.replaceAll mark (body compiled) "/title>".toList = "/title>".toList :=
    Text.replaceAll_of_notMem (c := '\x7b') (by decide) (by decide) _
  rw [render, String.toList_ofList, shell_eq, around_title, around_title,
    replaceAll_join unmarked_opening,
    Text.replaceAll_append_cons mark_ne_nil (by decide), tag,
    Text.replaceAll_append_cons mark_ne_nil (by decide),
    Text.replaceAll_append_cons mark_ne_nil (by decide), endTag,
    replaceAll_join (unmarked_definitions settings),
    Text.replaceAll_mark mark_ne_nil, code, replaceAll_join unmarked_closing, Text.replaceAll_nil]

theorem behindTitle_eq (settings : Settings) : ∃ styles, behindTitle settings =
    styles ++ "<script>".toList ++ '\n' :: join (functions settings) := by
  let styles := (definitions settings).take 13
  have split : definitions settings = styles ++ (["    <script>"] ++ functions settings) := rfl
  have tag : join ["    <script>"] = "    ".toList ++ "<script>".toList ++ ['\n'] := rfl
  have joined : join (definitions settings) =
      join styles ++ ("    ".toList ++ "<script>".toList ++ ['\n'] ++ join (functions settings)) :=
    calc join (definitions settings)
      _ = join (styles ++ (["    <script>"] ++ functions settings)) := congrArg join split
      _ = join styles ++ (join ["    <script>"] ++ join (functions settings)) := by
        rw [join_append, join_append]
      _ = _ := congrArg (fun opened => join styles ++ (opened ++ join (functions settings))) tag
  have regroup (a b c d e : List Char) (x : Char) :
      a ++ (b ++ (c ++ d ++ [x] ++ e)) = a ++ (b ++ c) ++ d ++ x :: e := by
    simp
  exact ⟨_, (congrArg ("</title>\n".toList ++ ·) joined).trans (regroup _ _ _ _ _ _)⟩

theorem closes_behindCode : "\n    </script>".toList <+: behindCode :=
  ⟨'\n' :: join ["</body>", "</html>"], rfl⟩

theorem body_text (script : Script) :
    body script.text = ['\n'].intercalate (script.lines.map (margin ++ ·)) := by
  have plain := script.plain_lines
  rw [body, script.toList_text,
    Text.dropFinalNewlines_flatMap fun line hline =>
      ⟨(plain line hline).ne_nil, (plain line hline).newline_notMem⟩,
    Text.indent_intercalate margin plain]

theorem slash_notMem_body (script : Script) : '/' ∉ body script.text := by
  rw [body_text]
  refine Text.notMem_intercalate (by decide) fun line hline => ?_
  obtain ⟨_, hstatement, rfl⟩ := List.mem_map.mp hline
  obtain ⟨statement, -, rfl⟩ := List.mem_map.mp hstatement
  rw [List.mem_append, not_or]
  exact ⟨by decide, statement.consists_text.notMem (by decide)⟩

/-- The text of a script is found again in its place on the page. -/
theorem lines_body (script : Script) :
    Text.newlineLines (body script.text) = script.lines.map (margin ++ ·) := by
  rw [body_text]
  refine Text.newlineLines_intercalate fun line hline => ?_
  obtain ⟨statement, hstatement, rfl⟩ := List.mem_map.mp hline
  have plain := script.plain_lines statement hstatement
  refine ⟨by simp [plain.ne_nil], ?_⟩
  rw [List.mem_append, not_or]
  exact ⟨by decide, plain.newline_notMem⟩

/-- Every title and every text that the compiler returns, whatever settings it had: the text has one
statement on each line, and with the margin in front of each line it stands between parts that
depend on the canvas, the home of the turtle and its first colors only, inside the script. Without
the margin these lines are the text again. In the title the marked line is replaced as well; a title
in which it does not stand, and no other title, is on the page as it is. -/
theorem render_compiled (compiler : Compiler) (source : String) (settings : Settings)
    (title : String) (h : (compiler.compileTo source {}).fault = none) :
    let compiled := (compiler.compileTo source {}).sink.text
    let lines := Text.newlineLines compiled.toList
    let code := ['\n'].intercalate (lines.map (margin ++ ·))
    let page := (render settings title compiled).toList
    compiled.toList = lines.flatMap (· ++ ['\n']) ∧
    (Text.newlineLines code).flatMap (fun line => line.drop margin.length ++ ['\n']) =
      compiled.toList ∧
    page = beforeTitle ++ Text.replaceAll mark code title.toList ++ behindTitle settings ++ code ++
      behindCode ∧
    (page = beforeTitle ++ title.toList ++ behindTitle settings ++ code ++ behindCode ↔
      ¬ mark <:+: title.toList) ∧
    (∃ styles functions, behindTitle settings = styles ++ "<script>".toList ++ functions ∧
      ¬ "</script>".toList <:+: functions ++ code ∧ "\n    </script>".toList <+: behindCode) ∧
    ∀ other : Settings, other.canvas = settings.canvas →
      other.turtle.homeX = settings.turtle.homeX →
      other.turtle.homeY = settings.turtle.homeY → other.turtle.paper = settings.turtle.paper →
      other.turtle.ink = settings.turtle.ink → behindTitle other = behindTitle settings := by
  intro compiled lines code page
  obtain ⟨script, hscript⟩ := Compiler.exists_script h
  have hcompiled : compiled = script.text := hscript
  have unbroken : ∀ line ∈ script.lines, '\n' ∉ line :=
    fun line hline => (script.plain_lines line hline).newline_notMem
  have hlines : lines = script.lines := by
    rw [show lines = Text.newlineLines compiled.toList from rfl, hcompiled, script.toList_text,
      Text.newlineLines_flatMap unbroken]
  have hcode : code = body compiled := by
    rw [show code = ['\n'].intercalate (lines.map (margin ++ ·)) from rfl, hlines, hcompiled,
      body_text]
  have hpage : page = _ := toList_render settings title compiled
  rw [← hcode] at hpage
  have slashless : '/' ∉ code := by
    rw [hcode, hcompiled]
    exact slash_notMem_body script
  refine ⟨?_, ?_, hpage, ?_, ?_, ?_⟩
  · rw [hlines, hcompiled, script.toList_text]
  · rw [hcode, hcompiled, lines_body, script.toList_text]
    simp [List.flatMap_map]
  · rw [hpage, List.append_left_inj, List.append_left_inj, List.append_left_inj,
      List.append_right_inj]
    exact Text.replaceAll_eq_self_iff (by decide) slashless
  · obtain ⟨styles, hstyles⟩ := behindTitle_eq settings
    refine ⟨styles, _, hstyles, ?_, closes_behindCode⟩
    have untagged : '<' ∉ '\n' :: join (functions settings) := by
      rw [List.mem_cons, not_or]
      exact ⟨by decide, notMem_join (by decide) (untagged_functions settings)⟩
    have tag : "</script>".toList = '<' :: '/' :: "script>".toList := rfl
    rw [tag]
    exact Text.not_infix_append untagged slashless
  · intro other hcanvas hx hy hpaper hink
    exact congrArg ("</title>\n".toList ++ join ·) (definitions_congr hcanvas hx hy hpaper hink)

/-- The mark without its margin or its last character is no mark, and so this title stays. -/
theorem render_compiled_nearly :
    let compiler := Compiler.start {} none
    let title := "$title // \x7b\x7bcompiled-code\x7d\x7d        // \x7b\x7bcompiled-code\x7d"
    (compiler.compileTo "LOOP" {}).fault = none ∧
      (render {} title "\x7d\n").toList =
        beforeTitle ++ title.toList ++ behindTitle {} ++ "        \x7d".toList ++ behindCode := by
  intro compiler title
  have accepted : (compiler.compileTo "LOOP" {}).fault = none := by decide +kernel
  obtain ⟨-, -, -, kept, -⟩ := render_compiled compiler "LOOP" {} title accepted
  have compiled : (compiler.compileTo "LOOP" {}).sink.text = "\x7d\n" := by decide +kernel
  rw [compiled] at kept
  have unmarked : ¬ mark <:+: title.toList := by decide +kernel
  exact ⟨accepted, kept.mpr unmarked⟩

/-- With the marked line for its title, a page has the statements twice and not its title. -/
theorem render_mark :
    let run := (Compiler.start {} none).compileTo "HOME" {}
    let title := "        // \x7b\x7bcompiled-code\x7d\x7d"
    let code := "        home();".toList
    let page := (render {} title run.sink.text).toList
    run.fault = none ∧ page = beforeTitle ++ code ++ behindTitle {} ++ code ++ behindCode ∧
      page ≠ beforeTitle ++ title.toList ++ behindTitle {} ++ code ++ behindCode := by
  intro run title code page
  have compiled : body run.sink.text = code := by decide +kernel
  have replaced : Text.replaceAll mark code title.toList = code := by decide +kernel
  have other : code ≠ title.toList := by decide +kernel
  have shown : page = beforeTitle ++ code ++ behindTitle {} ++ code ++ behindCode := by
    have whole := toList_render {} title run.sink.text
    rw [compiled, replaced] at whole
    exact whole
  refine ⟨by decide +kernel, shown, ?_⟩
  rw [shown, Ne, List.append_left_inj, List.append_left_inj, List.append_left_inj,
    List.append_right_inj]
  exact other

end Page

end TurtleGraphics
