/-
The layout of code: a prelude, the lines of each step in order and a closing. Comments and blank
lines apart, the code is the same with comments and without.
-/

import PlainScript.Proofs.Render.Unbroken

namespace PlainScript

open Text

namespace Dialect

variable {dialect : Dialect} {options : RenderOptions} {heading : Heading} {timeout : String}

/-! Comments apart -/

/-- The line begins, blanks apart, with the comment mark. -/
def isCommentLine (dialect : Dialect) (line : String) : Bool :=
  dialect.comment.toList.isPrefixOf (Chars.trimLeft line.toList)

/-- The line is neither blank nor a comment. -/
def isLive (dialect : Dialect) (line : String) : Bool :=
  !line.toList.all isBlank && !dialect.isCommentLine line

theorem isCommentLine_blank_append (dialect : Dialect) {front : String}
    (blank : ∀ c ∈ front.toList, isBlank c = true) (text : String) :
    dialect.isCommentLine (front ++ dialect.comment ++ text) = true := by
  obtain ⟨c, mark, same, visible⟩ :
      ∃ c mark, dialect.comment.toList = c :: mark ∧ isBlank c = false := by
    cases dialect <;> simp [comment] <;> decide
  rw [isCommentLine, String.toList_append, String.toList_append, same, Chars.trimLeft,
    List.append_assoc, List.dropWhile_append_of_pos blank, List.cons_append,
    List.dropWhile_cons_of_neg (by simp [visible])]
  simp

theorem isBlank_indent (dialect : Dialect) : ∀ c ∈ dialect.indent.toList, isBlank c = true := by
  cases dialect <;> simp [indent] <;> decide

theorem isCommentLine_comment_append (dialect : Dialect) (text : String) :
    dialect.isCommentLine (dialect.comment ++ text) = true := by
  have blank : ∀ c ∈ "".toList, isBlank c = true := by simp
  simpa using isCommentLine_blank_append dialect blank text

theorem isCommentLine_stepComment (dialect : Dialect) (number : Nat) (step : Step) :
    dialect.isCommentLine (dialect.stepComment number step) = true := by
  rw [stepComment, String.append_assoc, String.append_assoc, String.append_assoc]
  exact isCommentLine_blank_append dialect (isBlank_indent dialect) _

theorem isCommentLine_of_mem_header :
    ∀ line ∈ dialect.header options heading, dialect.isCommentLine line = true := by
  have comment (label text : String) :
      dialect.isCommentLine (dialect.comment ++ label ++ text) = true := by
    rw [String.append_assoc]
    exact isCommentLine_comment_append dialect _
  rw [header]
  split
  · rw [List.forall_mem_cons, List.forall_mem_cons]
    refine ⟨comment _ _, comment _ _, ?_⟩
    split
    · exact List.forall_mem_nil _
    · exact List.forall_mem_singleton.mpr (comment _ _)
  · exact List.forall_mem_nil _

theorem isLive_eq_false_of_isCommentLine {line : String}
    (comment : dialect.isCommentLine line = true) : dialect.isLive line = false := by
  rw [isLive, comment, Bool.not_true, Bool.and_false]

theorem filter_isLive_header : (dialect.header options heading).filter dialect.isLive = [] := by
  rw [List.filter_eq_nil_iff]
  intro line member
  rw [isLive_eq_false_of_isCommentLine (isCommentLine_of_mem_header line member)]
  exact Bool.false_ne_true

/-- Comments in front of a Playwright script and in it are no live lines. -/
theorem filter_isLive_playwrightScriptPrelude (mark : dialect.comment = "//")
    (firstLine signatureEnd : String) :
    (playwrightScriptPrelude firstLine signatureEnd options heading
        (dialect.header options heading) timeout).filter dialect.isLive =
      ([firstLine, ""] ++
        ["", "test(" ++ Literal.quote heading.name ++ ", async (" ++ signatureEnd] ++
        ["  test.setTimeout(" ++ timeout ++ ");", ""]).filter dialect.isLive := by
  have remark : (if options.includeComments then ["  // Set timeout for the test"] else []).filter
      dialect.isLive = [] := by
    have comment : dialect.isCommentLine "  // Set timeout for the test" = true := by
      rw [isCommentLine, mark]
      rfl
    split
    · rw [List.filter_singleton, isLive_eq_false_of_isCommentLine comment, cond_false]
    · rfl
  simp only [playwrightScriptPrelude, List.filter_append, filter_isLive_header, remark,
    List.append_nil]

/-- The lines of the prelude that are live are the same with comments and without. -/
theorem filter_isLive_prelude (dialect : Dialect) (options : RenderOptions) (heading : Heading)
    (timeout : String) (comments : Bool) :
    (dialect.prelude { options with includeComments := comments } heading timeout).filter
        dialect.isLive =
      (dialect.prelude options heading timeout).filter dialect.isLive := by
  cases dialect with
  | playwrightTypeScript | playwrightJavaScript =>
      rw [prelude, prelude, filter_isLive_playwrightScriptPrelude rfl,
        filter_isLive_playwrightScriptPrelude rfl]
  | playwrightPython | seleniumPython | seleniumJava =>
      simp only [prelude, List.filter_append, filter_isLive_header]
  | cypressTypeScript | cypressJavaScript =>
      have blank (bare : Bool) (dialect : Dialect) :
          (if bare then [] else [""]).filter dialect.isLive = [] := by
        cases bare <;> rfl
      simp only [prelude, List.filter_append, filter_isLive_header, blank]

theorem filter_isLive_stepLines (dialect : Dialect) (options : RenderOptions) (base : String)
    (number : Nat) (step : Step) (comments : Bool) :
    (dialect.stepLines { options with includeComments := comments } base number step).filter
        dialect.isLive =
      (dialect.stepLines options base number step).filter dialect.isLive := by
  have comment := isLive_eq_false_of_isCommentLine (isCommentLine_stepComment dialect number step)
  rw [stepLines_eq, stepLines_eq]
  cases comments <;> cases options.includeComments <;> simp [comment]

/-- Comments and blank lines apart, code with comments and code without them is the same. -/
theorem filter_isLive_lines (dialect : Dialect) (options : RenderOptions) (case : TestCase)
    (timeout : String) (comments : Bool) :
    (dialect.lines { options with includeComments := comments } case timeout).filter
        dialect.isLive =
      (dialect.lines options case timeout).filter dialect.isLive := by
  rw [lines, lines, stepsLines, stepsLines]
  simp only [List.filter_append, List.filter_flatMap, filter_isLive_prelude,
    filter_isLive_stepLines]

end Dialect

/-- A case has code exactly if its timeout can be told. The code of a case with unbroken texts is a
prelude, for each step in order its comment, one line that carries it out and its picture, as far
as comments and pictures are asked for, and a closing; neither prelude nor closing depends on the
steps. With comments and without, its live lines are the same. -/
theorem exists_layout_of_render (options : RenderOptions) {dialect : Dialect}
    (supported : Dialect.find options.framework options.language = .ok dialect)
    {heading : Heading} (unbroken : heading.IsUnbroken) :
    ∃ before after : List String, ∀ steps : List Step, (∀ step ∈ steps, step.IsUnbroken) →
      ((∃ generated, render ⟨heading, steps⟩ options = .ok generated) ↔
        dialect.Tells options.timeout) ∧
      ∀ generated, render ⟨heading, steps⟩ options = .ok generated →
        feedLines generated.code =
          before ++
            ((steps.zipIdx 1).flatMap fun (step, number) =>
              (if options.includeComments then [dialect.stepComment number step] else []) ++
                [dialect.stepLine heading.baseUrl step] ++
                if options.includeScreenshots then [dialect.stepPicture number step] else []) ++
            after ∧
        ∀ comments, ∃ other,
          render ⟨heading, steps⟩ { options with includeComments := comments } = .ok other ∧
            (feedLines other.code).filter dialect.isLive =
              (feedLines generated.code).filter dialect.isLive := by
  -- The text of the timeout is the same for all steps; without one no case has code.
  cases told : dialect.timeoutText options.timeout with
  | error cause =>
      refine ⟨[], [], fun steps _ => ⟨exists_render_iff supported _, fun generated rendered => ?_⟩⟩
      obtain ⟨timeout, tells, -⟩ := exists_code_of_render supported rendered
      cases told.symm.trans tells
  | ok timeout =>
      have oneLine := Dialect.isOneLine_of_timeoutText told
      refine ⟨dialect.prelude options heading timeout, dialect.closing ++ [""],
        fun steps closed => ⟨exists_render_iff supported _, fun generated rendered => ?_⟩⟩
      obtain ⟨_, same, written⟩ := exists_code_of_render supported rendered
      obtain rfl := Except.ok.inj (told.symm.trans same)
      rw [written, Dialect.feedLines_code unbroken closed oneLine]
      refine ⟨List.append_assoc _ dialect.closing [""], fun comments => ?_⟩
      have alike : Dialect.find { options with includeComments := comments }.framework
          { options with includeComments := comments }.language = .ok dialect := supported
      refine ⟨_, (render_eq_ok_iff alike).mpr ⟨timeout, told, rfl⟩, ?_⟩
      rw [Dialect.feedLines_code unbroken closed oneLine, List.filter_append, List.filter_append,
        Dialect.filter_isLive_lines]

/-- Line feeds in a description, a path, a selector and a text add no lines. -/
theorem exists_layout_of_lineFeeds :
    ∃ before after : List String, ∃ generated,
      render ⟨⟨"case", "", some "a\nb", []⟩, [.goto "/a\nb", .fill (.css "a\nb") "c\nd"]⟩
          { includeScreenshots := true } = .ok generated ∧
        feedLines generated.code = before ++
          ["  // Step 1: goto", "  await page.goto('/a\\nb');",
            "  await page.screenshot(\x7b path: 'step-1-goto.png' \x7d);",
            "  // Step 2: fill", "  await page.locator('a\\nb').fill('c\\nd');",
            "  await page.screenshot(\x7b path: 'step-2-fill.png' \x7d);"] ++ after := by
  have heading : (⟨"case", "", some "a\nb", []⟩ : Heading).IsUnbroken :=
    ⟨by simp [IsOneLine], by simp [IsOneLine], List.forall_mem_nil _⟩
  have step {action : String} (oneLine : IsOneLine action) (path : Option String)
      (locator : Option Locator) (text : Option String) :
      Step.IsUnbroken ⟨action, path, locator, text, none⟩ :=
    ⟨oneLine, fun _ absurd => by cases absurd⟩
  have supported : Dialect.find "playwright" "typescript" = .ok .playwrightTypeScript := rfl
  obtain ⟨before, after, layout⟩ :=
    exists_layout_of_render { includeScreenshots := true } supported heading
  obtain ⟨written, shape⟩ :=
    layout [.goto "/a\nb", .fill (.css "a\nb") "c\nd"] (by
      rw [List.forall_mem_cons, List.forall_mem_singleton]
      exact ⟨step (by simp [IsOneLine]) _ _ _, step (by simp [IsOneLine]) _ _ _⟩)
  obtain ⟨generated, rendered⟩ :=
    written.mpr (Dialect.exists_timeoutText_iff.mp ⟨"30000", rfl⟩)
  exact ⟨before, after, generated, rendered, (shape generated rendered).1.trans rfl⟩

end PlainScript
