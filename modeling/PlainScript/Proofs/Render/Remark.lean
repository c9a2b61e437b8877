/-
Remarks: texts of a case that code shows in comments. The first line of a remark is commented out,
and so is the whole remark if its text is on one line; what follows a line feed is no comment unless
it begins with the comment mark itself.
-/

import PlainScript.Proofs.Render.Layout
import PlainScript.Proofs.TestCase.RoundTrip

namespace PlainScript

open Text

/-- A text of a case that code shows in a comment. -/
inductive Remark where
  | title (title : String)
  | baseUrl (url : String)
  | tags (names : List String)
  | step (number : Nat) (action : String)
  | unknown (part : Unknown)
  deriving DecidableEq, Repr

namespace Remark

/-- What names the text in its comment. -/
def label : Remark → String
  | title _ => " Test: "
  | baseUrl _ => " Base URL: "
  | tags _ => " Tags: "
  | step number _ => " Step " ++ toString number ++ ": "
  | unknown (.action _) => " Unknown action: "
  | unknown (.assertionType _) => " Unknown assertion type: "

/-- The text as the case has it. -/
def text : Remark → String
  | title text => text
  | baseUrl url => url
  | tags names => ", ".intercalate names
  | step _ action => action
  | unknown (.action name) | unknown (.assertionType name) => name

/-- Remarks on steps stand among the lines of the steps. -/
def indent (dialect : Dialect) : Remark → String
  | step _ _ | unknown _ => dialect.indent
  | title _ | baseUrl _ | tags _ => ""

/-- The comment that shows the text. -/
def comment (dialect : Dialect) (remark : Remark) : String :=
  remark.indent dialect ++ dialect.comment ++ remark.label ++ remark.text

end Remark

def Heading.remarks (heading : Heading) : List Remark :=
  .title heading.title :: .baseUrl heading.baseUrl ::
    if heading.tags.isEmpty then [] else [.tags heading.tags]

/-- Parts of a step that are unknown are shown even if no comments are asked for. -/
def Step.remarks (options : RenderOptions) (number : Nat) (step : Step) : List Remark :=
  (if options.includeComments then [.step number step.action] else []) ++
    step.unknown?.toList.map .unknown

/-- All remarks in the code of a case. -/
def TestCase.remarks (options : RenderOptions) (case : TestCase) : List Remark :=
  (if options.includeComments then case.heading.remarks else []) ++
    (case.steps.zipIdx 1).flatMap fun (step, number) => step.remarks options number

/-- A step is unknown for its action, or for the type of the assertion that it checks. -/
theorem Step.unknown?_eq_some_iff {step : Step} {part : Unknown} :
    step.unknown? = some part ↔
      (step.kind? = none ∧ part = .action step.action) ∨
        (step.kind? = some .check ∧ ∃ assertion, step.assertion = some assertion ∧
          assertion.kind? = none ∧ part = .assertionType assertion.type) := by
  rw [unknown?]
  cases step.kind? with
  | none => simp [eq_comm]
  | some action =>
      cases action with
      | check => simp [Option.bind_eq_some_iff, eq_comm (a := part)]
      | _ => simp

/-! Remarks are lines of the code -/

namespace Dialect

variable {dialect : Dialect} {options : RenderOptions} {heading : Heading} {step : Step}
  {timeout : String}

theorem header_eq_map_comment (dialect : Dialect) (options : RenderOptions) (heading : Heading) :
    dialect.header options heading =
      (if options.includeComments then heading.remarks else []).map (Remark.comment dialect) := by
  rw [header, Heading.remarks]
  split
  · split <;> simp [Remark.comment, Remark.indent, Remark.label, Remark.text]
  · rfl

theorem mem_prelude_of_mem_header {line : String} (member : line ∈ dialect.header options heading) :
    line ∈ dialect.prelude options heading timeout := by
  cases dialect <;> simp [prelude, playwrightScriptPrelude, member]

theorem stepComment_eq (dialect : Dialect) (number : Nat) (step : Step) :
    dialect.stepComment number step = (Remark.step number step.action).comment dialect := by
  simp [stepComment, Remark.comment, Remark.indent, Remark.label, Remark.text, String.append_assoc]

/-- The line of a note is a comment. -/
theorem line_note (dialect : Dialect) (text : String) :
    dialect.line (.note text) = dialect.comment ++ " " ++ text := by
  cases dialect <;> rfl

/-- The line of a step with an unknown part is the remark on it. -/
theorem stepLine_eq_of_unknown {part : Unknown} (unknown : step.unknown? = some part)
    (base : String) : dialect.stepLine base step = (Remark.unknown part).comment dialect := by
  rw [stepLine, statement]
  rcases Step.unknown?_eq_some_iff.mp unknown with
    ⟨kind, rfl⟩ | ⟨kind, assertion, given, typed, rfl⟩
  · have label : " Unknown action: " = " " ++ "Unknown action: " := rfl
    simp only [kind, line_note, Remark.comment, Remark.indent, Remark.label, Remark.text, label,
      String.append_assoc]
  · have label : " Unknown assertion type: " = " " ++ "Unknown assertion type: " := rfl
    simp only [kind, given, assertionStatement, typed, line_note, Remark.comment, Remark.indent,
      Remark.label, Remark.text, label, String.append_assoc]

theorem mem_stepLines_of_mem_remarks {remark : Remark} {number : Nat}
    (member : remark ∈ step.remarks options number) (base : String) :
    remark.comment dialect ∈ dialect.stepLines options base number step := by
  rw [stepLines_eq, List.mem_append, List.mem_append]
  rw [Step.remarks, List.mem_append, List.mem_map] at member
  rcases member with announced | ⟨part, unknown, rfl⟩
  · split at announced
    · rename_i comments
      obtain rfl := List.mem_singleton.mp announced
      rw [if_pos comments, ← stepComment_eq, List.mem_singleton]
      exact .inl (.inl rfl)
    · cases announced
  · rw [Option.mem_toList] at unknown
    rw [← stepLine_eq_of_unknown unknown base]
    exact .inl (.inr (List.mem_singleton_self _))

/-- Remarks are lines of the code. -/
theorem mem_lines_of_mem_remarks {case : TestCase} {remark : Remark}
    (member : remark ∈ case.remarks options) :
    remark.comment dialect ∈ dialect.lines options case timeout := by
  rw [lines, List.mem_append, List.mem_append]
  rw [TestCase.remarks, List.mem_append] at member
  rcases member with inHeader | inSteps
  · refine .inl (.inl (mem_prelude_of_mem_header ?_))
    rw [header_eq_map_comment]
    exact List.mem_map_of_mem inHeader
  · obtain ⟨⟨step, number⟩, numbered, inStep⟩ := List.mem_flatMap.mp inSteps
    exact .inl (.inr (List.mem_flatMap.mpr
      ⟨_, numbered, mem_stepLines_of_mem_remarks inStep _⟩))

/-- Between its line feeds the code has the lines of every remark in a row. -/
theorem feedLines_comment_infix {case : TestCase} {remark : Remark}
    (member : remark ∈ case.remarks options) :
    feedLines (remark.comment dialect) <:+: feedLines (dialect.code options case timeout) := by
  rw [code, feedLines_intercalate (lines_ne_nil dialect options case timeout)]
  exact (List.infix_flatMap_of_mem (mem_lines_of_mem_remarks member) feedLines).trans
    (List.prefix_append _ _).isInfix

end Dialect

/-! Remarks that are comments as a whole -/

namespace Remark

variable {dialect : Dialect} {remark : Remark}

theorem isOneLine_label (remark : Remark) : IsOneLine remark.label := by
  cases remark with
  | step number action =>
      have counted := isOneLine_of_isNumeral (Number.isNumeral_toString_nat number)
      simp only [label, isOneLine_append_iff, counted, and_true]
      simp [IsOneLine]
  | unknown part => cases part <;> simp [label, IsOneLine]
  | _ => simp [label, IsOneLine]

theorem isBlank_indent (dialect : Dialect) (remark : Remark) :
    ∀ c ∈ (remark.indent dialect).toList, isBlank c = true := by
  cases remark with
  | step _ _ | unknown _ => exact Dialect.isBlank_indent dialect
  | _ => simp [indent]

/-- The first line of a remark is a comment, and the others are those of its text. -/
theorem exists_feedLines_comment (dialect : Dialect) (remark : Remark) :
    ∃ first, feedLines (remark.comment dialect) = first :: (feedLines remark.text).tail ∧
      dialect.isCommentLine first = true := by
  have indent : IsOneLine (remark.indent dialect) := by
    cases remark with
    | step _ _ | unknown _ => exact Dialect.isOneLine_indent dialect
    | _ => simp [Remark.indent, IsOneLine]
  have front : IsOneLine (remark.indent dialect ++ dialect.comment ++ remark.label) := by
    simp only [isOneLine_append_iff, indent, Dialect.isOneLine_comment, isOneLine_label, and_self]
  obtain ⟨first, rest, same, whole⟩ := feedLines_append front remark.text
  refine ⟨remark.indent dialect ++ dialect.comment ++ remark.label ++ first, ?_, ?_⟩
  · rw [comment, whole, same, List.tail_cons]
  · rw [String.append_assoc]
    exact Dialect.isCommentLine_blank_append dialect (isBlank_indent dialect remark) _

/-- A remark is commented out as a whole if every line of its text after the first is a comment. -/
theorem forall_isCommentLine_iff (dialect : Dialect) (remark : Remark) :
    (∀ line ∈ feedLines (remark.comment dialect), dialect.isCommentLine line = true) ↔
      ∀ line ∈ (feedLines remark.text).tail, dialect.isCommentLine line = true := by
  obtain ⟨first, same, comment⟩ := exists_feedLines_comment dialect remark
  rw [same, List.forall_mem_cons, and_iff_right comment]

/-- The texts of an unbroken case are shown on one line each. -/
theorem isOneLine_text {options : RenderOptions} {case : TestCase}
    (heading : case.heading.IsUnbroken) (steps : ∀ step ∈ case.steps, step.IsUnbroken)
    (member : remark ∈ case.remarks options) : IsOneLine remark.text := by
  have header : ∀ remark ∈ case.heading.remarks, IsOneLine remark.text := by
    rw [Heading.remarks, List.forall_mem_cons, List.forall_mem_cons]
    refine ⟨Heading.isOneLine_title heading, heading.baseUrl, ?_⟩
    split
    · exact List.forall_mem_nil _
    · rw [List.forall_mem_singleton]
      exact isOneLine_intercalate (by simp [IsOneLine]) heading.tags
  rw [TestCase.remarks, List.mem_append] at member
  rcases member with inHeader | inSteps
  · split at inHeader
    · exact header remark inHeader
    · cases inHeader
  · obtain ⟨⟨step, number⟩, numbered, inStep⟩ := List.mem_flatMap.mp inSteps
    have unbroken : step.IsUnbroken := steps step (List.fst_mem_of_mem_zipIdx numbered)
    simp only [Step.remarks, List.mem_append, List.mem_map, Option.mem_toList] at inStep
    rcases inStep with announced | ⟨part, unknown, rfl⟩
    · split at announced
      · obtain rfl := List.mem_singleton.mp announced
        exact unbroken.action
      · cases announced
    · rcases Step.unknown?_eq_some_iff.mp unknown with ⟨-, rfl⟩ | ⟨-, assertion, given, -, rfl⟩
      · exact unbroken.action
      · exact unbroken.type assertion given

end Remark

/-- A case has code exactly if its timeout can be told. The lines of every remark stand in a row in
the code. All of them are comments if and only if every line of the remark's text after the first
begins with a comment mark itself, and so they are if no text that is shown as it is has a line
feed; descriptions may have some. -/
theorem exists_commented_of_render (case : TestCase) (options : RenderOptions) {dialect : Dialect}
    (supported : Dialect.find options.framework options.language = .ok dialect) :
    ((∃ generated, render case options = .ok generated) ↔ dialect.Tells options.timeout) ∧
      ∀ generated, render case options = .ok generated →
        (∀ remark ∈ case.remarks options,
          feedLines (remark.comment dialect) <:+: feedLines generated.code ∧
            ((∀ line ∈ feedLines (remark.comment dialect), dialect.isCommentLine line = true) ↔
              ∀ line ∈ (feedLines remark.text).tail, dialect.isCommentLine line = true)) ∧
        (case.heading.IsUnbroken → (∀ step ∈ case.steps, step.IsUnbroken) →
          ∀ remark ∈ case.remarks options, ∀ line ∈ feedLines (remark.comment dialect),
            dialect.isCommentLine line = true) := by
  refine ⟨exists_render_iff supported case, fun generated rendered => ?_⟩
  obtain ⟨timeout, -, written⟩ := exists_code_of_render supported rendered
  rw [written]
  refine ⟨fun remark member => ⟨?_, ?_⟩, ?_⟩
  · exact Dialect.feedLines_comment_infix member
  · exact Remark.forall_isCommentLine_iff dialect remark
  · intro heading steps remark member
    rw [Remark.forall_isCommentLine_iff,
      feedLines_eq_singleton (Remark.isOneLine_text heading steps member)]
    exact List.forall_mem_nil _

/-- A case of one step that does nothing but the action. -/
def TestCase.ofAction (action : String) : TestCase :=
  ⟨⟨"menu", "", some "open\nthe menu", []⟩, [⟨action, none, none, none, none⟩]⟩

/-- An unknown action on one line is commented out, and so is a description on two lines. -/
theorem exists_commented_hover :
    ∃ generated, render (.ofAction "hover") {} = .ok generated ∧
      ∀ remark ∈ (TestCase.ofAction "hover").remarks {},
        ∀ line ∈ feedLines (remark.comment .playwrightTypeScript),
          Dialect.playwrightTypeScript.isCommentLine line = true := by
  have supported : Dialect.find "playwright" "typescript" = .ok .playwrightTypeScript := rfl
  obtain ⟨written, remarks⟩ := exists_commented_of_render (.ofAction "hover") {} supported
  obtain ⟨generated, rendered⟩ :=
    written.mpr (Dialect.exists_timeoutText_iff.mp ⟨"30000", rfl⟩)
  refine ⟨generated, rendered,
    (remarks generated rendered).2 ⟨?_, ?_, List.forall_mem_nil _⟩ ?_⟩
  · simp [TestCase.ofAction, IsOneLine]
  · simp [TestCase.ofAction, IsOneLine]
  · rw [TestCase.ofAction, List.forall_mem_singleton]
    exact ⟨by simp [IsOneLine], fun _ absurd => by cases absurd⟩

/-- What follows a line feed in an unknown action of a document is a statement of the code. -/
theorem exists_statement_of_unknown_action :
    TestCase.read ((TestCase.ofAction "hover\nalert(1);").write 2) =
        .valid (.ofAction "hover\nalert(1);") ∧
      ∃ generated,
        render (.ofAction "hover\nalert(1);")
            { language := "javascript", includeComments := false } = .ok generated ∧
          .unknown (.action "hover\nalert(1);") ∈
            (TestCase.ofAction "hover\nalert(1);").remarks
              { language := "javascript", includeComments := false } ∧
          ∃ line ∈ feedLines
              (Remark.comment .playwrightJavaScript (.unknown (.action "hover\nalert(1);"))),
            line ∈ feedLines generated.code ∧
              Dialect.playwrightJavaScript.isCommentLine line = false := by
  have supported : Dialect.find "playwright" "javascript" = .ok .playwrightJavaScript := rfl
  have parsed : Json.parseChars TestCase.mostLevels
      ((TestCase.ofAction "hover\nalert(1);").write 2).toList =
        .ok (TestCase.ofAction "hover\nalert(1);").document :=
    Json.parseChars_write 2 (TestCase.isDocument_document _)
  have remark : .unknown (.action "hover\nalert(1);") ∈
      (TestCase.ofAction "hover\nalert(1);").remarks
        { language := "javascript", includeComments := false } :=
    List.mem_singleton_self _
  have line : "alert(1);" ∈
      feedLines (Remark.comment .playwrightJavaScript (.unknown (.action "hover\nalert(1);"))) := by
    decide +kernel
  refine ⟨by rw [TestCase.read, parsed]; exact TestCase.decode_document _ _, _,
    by rw [render, supported]; rfl, remark, _, line, ?_, by decide +kernel⟩
  exact (Dialect.feedLines_comment_infix remark).subset line

end PlainScript
