/-
The code of a case: an incomplete step leaves it unfinished, and without one it is as clean as
the texts of the case. The check catches every incomplete step and blames no complete one.
-/

import PlainScript.Proofs.Check.Strict
import PlainScript.Proofs.Render.Statement
import PlainScript.Proofs.Render.Timeout
import PlainScript.Proofs.TestCase.Name

namespace PlainScript

open Strict

/-- The texts of a heading. -/
def Heading.texts (heading : Heading) : List String :=
  heading.name :: heading.baseUrl :: (heading.description.toList ++ heading.tags)

/-- All texts of a case. -/
def TestCase.texts (case : TestCase) : List String :=
  case.heading.texts ++ case.steps.flatMap Step.texts

namespace Dialect

variable {dialect : Dialect} {options : RenderOptions} {heading : Heading} {timeout : String}

/-! Incomplete cases -/

/-- The line of every step stands among the lines of the code. -/
theorem exists_line_mem_lines (dialect : Dialect) (options : RenderOptions) {case : TestCase}
    (timeout : String) {step : Step} (member : step ∈ case.steps) :
    dialect.indent ++ dialect.line (dialect.statement case.heading.baseUrl step) ∈
      dialect.lines options case timeout := by
  obtain ⟨index, inside, here⟩ := List.getElem_of_mem member
  have numbered : (step, 1 + index) ∈ case.steps.zipIdx 1 := by
    rw [List.mk_mem_zipIdx_iff_le_and_getElem?_sub]
    simp [inside, here]
  rw [lines, List.mem_append, List.mem_append, stepsLines]
  refine .inl (.inr (List.mem_flatMap.mpr ⟨_, numbered, ?_⟩))
  simp [stepLines]

/-- The code of a case shows the texts of its statements. -/
theorem unfinished_code_of_shown {case : TestCase} {step : Step} (member : step ∈ case.steps)
    {text : String} (shown : text ∈ (dialect.statement case.heading.baseUrl step).shown)
    (unfinished : Unfinished text) : Unfinished (dialect.code options case timeout) := by
  have line : Unfinished (dialect.indent ++ dialect.line _) :=
    (unfinished_line dialect shown unfinished).append_right
  rw [code]
  exact (line.intercalate (exists_line_mem_lines dialect options timeout member)).append_left

/-- The code of a case with an incomplete step is unfinished. -/
theorem unfinished_code {case : TestCase} {step : Step} (member : step ∈ case.steps)
    (incomplete : step.IsIncomplete dialect.framework) :
    Unfinished (dialect.code options case timeout) := by
  obtain ⟨text, shown, unfinished⟩ :=
    exists_unfinished_statement case.heading.baseUrl incomplete
  exact unfinished_code_of_shown member shown unfinished

/-! Complete cases -/

/-- Neither digits nor other characters of numbers are part of a sign. -/
theorem foreign_of_isNumeral {c : Char} (numeral : Number.isNumeral c = true) :
    ∀ sign ∈ signs, c ∉ sign := by
  intro sign member inside
  have all : ∀ sign ∈ signs, (sign.all fun d => !Number.isNumeral d) = true := by decide
  have other := List.all_eq_true.mp (all sign member) c inside
  rw [numeral] at other
  exact absurd other (by decide)

theorem clean_of_isNumeral {text : String} (numeral : Number.IsNumeral text) : Clean text := by
  have absent (c : Char) (foreign : Number.isNumeral c = false) : c ∉ text.toList := by
    intro member
    rw [numeral c member] at foreign
    exact absurd foreign (by decide)
  exact clean_of_notMem (c := 'T') (d := 'U') (by decide)
    (absent 'T' (by decide)) (absent 'U' (by decide))

/-- A counted number separates what stands on its two sides. -/
theorem isBarrier_toString (number : Nat) : isBarrier (toString number) = true := by
  refine isBarrier_of_foreign ?_ fun c member =>
    foreign_of_isNumeral (Number.isNumeral_toString_nat number c member)
  simp [Nat.toString_eq_repr]

/-- A title is clean if the name and the description are unmarked. -/
theorem clean_title (unmarked : ∀ text ∈ heading.texts, IsUnmarked text) : Clean heading.title := by
  rw [Heading.title]
  split
  · exact (unmarked _ (by simp [Heading.texts])).clean
  · have description : IsUnmarked (heading.description.getD "") := by
      cases given : heading.description with
      | none => simp [IsUnmarked, Unresolved.tag]
      | some text => exact unmarked text (by simp [Heading.texts, given])
    have oneLine : IsUnmarked (Text.oneLine (heading.description.getD "")) :=
      ⟨fun inside => description.1 (Text.infix_of_infix_oneLine (by simp) (by simp) inside),
        fun inside => description.2 (Text.infix_of_infix_oneLine (by simp [Unresolved.tag])
          (by simp [Unresolved.tag]) inside)⟩
    exact oneLine.clean

theorem isFront_comment (dialect : Dialect) : isFront dialect.comment = true := by
  cases dialect <;> exact guarded_ofList (by decide)

theorem clean_header (dialect : Dialect) (options : RenderOptions)
    (unmarked : ∀ text ∈ heading.texts, IsUnmarked text) :
    ∀ line ∈ dialect.header options heading, Clean line := by
  have title := clean_title unmarked
  have baseUrl : Clean heading.baseUrl := (unmarked _ (by simp [Heading.texts])).clean
  have tags : Clean (", ".intercalate heading.tags) :=
    clean_intercalate (guarded_ofList (by decide)) fun tag member =>
      (unmarked tag (by simp [Heading.texts, member])).clean
  have mark := isFront_comment dialect
  rw [header]
  split
  · rw [List.forall_mem_cons, List.forall_mem_cons]
    refine ⟨?_, ?_, ?_⟩
    · rw [String.append_assoc, clean_front_append_iff mark,
        clean_front_append_iff (guarded_ofList (by decide))]
      exact title
    · rw [String.append_assoc, clean_front_append_iff mark,
        clean_front_append_iff (guarded_ofList (by decide))]
      exact baseUrl
    · split
      · simp
      · rw [List.forall_mem_singleton, String.append_assoc, clean_front_append_iff mark,
          clean_front_append_iff (guarded_ofList (by decide))]
        exact tags
  · simp

theorem clean_playwrightScriptPrelude {firstLine signatureEnd : String} {header : List String}
    (first : Clean firstLine) (last : Clean signatureEnd) (name : Clean heading.name)
    (comments : ∀ line ∈ header, Clean line) (clean : Clean timeout) :
    ∀ line ∈ playwrightScriptPrelude firstLine signatureEnd options heading header timeout,
      Clean line := by
  simp only [playwrightScriptPrelude, List.forall_mem_append, List.forall_mem_cons]
  refine ⟨⟨⟨⟨⟨first, clean_ofList (by decide), by simp⟩, comments⟩, clean_ofList (by decide), ?_,
    by simp⟩, ?_⟩, ?_, clean_ofList (by decide), by simp⟩
  · simp (disch := (apply guarded_ofList; decide)) only [clean_append_barrier_append_iff,
      clean_front_append_iff, clean_quote_iff, name, last, and_self]
  · split
    · simpa using clean_ofList (by decide)
    · simp
  · simp (disch := (apply guarded_ofList; decide)) only [clean_append_back_iff,
      clean_front_append_iff, clean]

/-! The lines that name the test -/

/-- A derived name has no capital letter. -/
theorem capital_notMem_name (derived : heading.HasDerivedName) :
    'T' ∉ heading.name.toList ∧ 'U' ∉ heading.name.toList :=
  ⟨fun member => absurd (derived 'T' member) (by decide),
    fun member => absurd (derived 'U' member) (by decide)⟩

/-- A class name made of a derived name has neither a colon nor an underscore. -/
theorem separator_notMem_camel (derived : heading.HasDerivedName) :
    ':' ∉ (Name.camel heading.name).toList ∧ '_' ∉ (Name.camel heading.name).toList :=
  ⟨fun member => absurd (Name.isAlphanum_camel derived ':' member) (by decide),
    fun member => absurd (Name.isAlphanum_camel derived '_' member) (by decide)⟩

theorem clean_testFunction (derived : heading.HasDerivedName) :
    Clean ("def test_" ++ heading.name ++ "(page: Page):") ∧
      Clean ("    def test_" ++ heading.name ++ "(self):") ∧
      Clean ("    public void test" ++ Name.camel heading.name ++ "() \x7b") := by
  have capital := capital_notMem_name derived
  have separator := separator_notMem_camel derived
  exact ⟨clean_append_name_append (by decide) (by decide) capital,
    clean_append_name_append (by decide) (by decide) capital,
    clean_append_name_append (by decide) (by decide) separator⟩

theorem clean_testClass (derived : heading.HasDerivedName) :
    Clean ("class " ++ className heading ++ "(unittest.TestCase):") ∧
      Clean ("public class " ++ className heading ++ " \x7b") := by
  have separator := separator_notMem_camel derived
  constructor
  · rw [clean_append_back_iff (guarded_ofList (by decide)), className, ← String.append_assoc]
    exact clean_append_name_append (by decide) (by decide) separator
  · have words : "Test" ++ " \x7b" = "Test \x7b" := rfl
    rw [className, ← String.append_assoc, String.append_assoc, words]
    exact clean_append_name_append (by decide) (by decide) separator

/-- Everything before the steps is clean. -/
theorem clean_prelude (dialect : Dialect) (options : RenderOptions)
    (derived : heading.HasDerivedName) (unmarked : ∀ text ∈ heading.texts, IsUnmarked text)
    (clean : Clean timeout) :
    ∀ line ∈ dialect.prelude options heading timeout, Clean line := by
  have comments := clean_header dialect options unmarked
  have name : Clean heading.name := (unmarked _ (by simp [Heading.texts])).clean
  have title := clean_title unmarked
  have blank : Clean "" := clean_ofList (by decide)
  cases dialect with
  | playwrightTypeScript =>
      exact clean_playwrightScriptPrelude (clean_ofList (by decide)) (clean_ofList (by decide)) name
        comments clean
  | playwrightJavaScript =>
      exact clean_playwrightScriptPrelude (clean_ofList (by decide)) (clean_ofList (by decide)) name
        comments clean
  | playwrightPython =>
      delta prelude
      dsimp only
      simp only [List.forall_mem_append, List.forall_mem_cons, List.not_mem_nil,
        IsEmpty.forall_iff, implies_true, and_true]
      and_intros <;> try (with_reducible apply clean_ofList; decide)
      · exact comments
      · exact (clean_testFunction derived).1
      · simpa (disch := (apply guarded_ofList; decide)) only [clean_append_back_iff,
          clean_front_append_iff] using clean
  | seleniumPython =>
      delta prelude
      dsimp only
      simp only [List.forall_mem_append, List.forall_mem_cons, List.not_mem_nil,
        IsEmpty.forall_iff, implies_true, and_true]
      and_intros <;> try (with_reducible apply clean_ofList; decide)
      · exact comments
      · exact (clean_testClass derived).1
      · simpa (disch := (apply guarded_ofList; decide)) only [clean_append_back_iff,
          clean_front_append_iff] using clean
      · exact (clean_testFunction derived).2.1
  | seleniumJava =>
      delta prelude
      dsimp only
      simp only [List.forall_mem_append, List.forall_mem_cons, List.not_mem_nil,
        IsEmpty.forall_iff, implies_true, and_true]
      and_intros <;> try (with_reducible apply clean_ofList; decide)
      · exact comments
      · exact (clean_testClass derived).2
      · simpa (disch := (apply guarded_ofList; decide)) only [clean_append_back_iff,
          clean_front_append_iff] using clean
      · exact (clean_testFunction derived).2.2
  | _ =>
      delta prelude
      dsimp only
      rw [List.forall_mem_append, List.forall_mem_append, List.forall_mem_append]
      refine ⟨⟨⟨?_, comments⟩, ?_⟩, ?_⟩
      · split
        · simpa using ⟨clean_ofList (by decide), blank⟩
        · simp
      · generalize List.isEmpty _ = bare
        cases bare <;> simp [blank]
      · simp (disch := (apply guarded_ofList; decide)) only [List.forall_mem_cons,
          List.not_mem_nil, IsEmpty.forall_iff, implies_true, and_true, clean_append_back_iff,
          clean_front_append_iff, clean_quote_iff, name, title, clean]

/-! The lines of the steps -/

theorem clean_screenshot (dialect : Dialect) {name : String} (clean : Clean name) :
    Clean (dialect.screenshot name) := by
  have file : Clean (name ++ ".png") :=
    (clean_append_back_iff (guarded_ofList (by decide))).mpr clean
  cases dialect with
  | playwrightTypeScript | playwrightJavaScript =>
      change Clean
        ("await page.screenshot(\x7b path: " ++ Literal.quote (name ++ ".png") ++ " \x7d);")
      rw [clean_append_barrier_append_iff (isBarrier_quote file)]
      exact ⟨clean_ofList (by decide), clean_ofList (by decide)⟩
  | _ =>
      delta screenshot
      dsimp only
      simpa (disch := (apply guarded_ofList; decide)) only [clean_append_back_iff,
        clean_front_append_iff, clean_quote_iff, clean_quoteDouble_iff] using by assumption

/-- The lines of a complete step are clean. -/
theorem clean_stepLines (dialect : Dialect) (options : RenderOptions) {base : String}
    (number : Nat) {step : Step} (complete : ¬ step.IsIncomplete dialect.framework)
    (cleanBase : Clean base) (unmarked : ∀ text ∈ step.texts, IsUnmarked text) :
    ∀ line ∈ dialect.stepLines options base number step, Clean line := by
  have counted := isBarrier_toString number
  have digits := clean_of_isNumeral (Number.isNumeral_toString_nat number)
  have action : Clean step.action := (unmarked _ (by simp [Step.texts])).clean
  have indent : isFront dialect.indent = true := by
    cases dialect <;> exact guarded_ofList (by decide)
  have comment : Clean (dialect.indent ++ dialect.comment ++ " Step ") := by
    rw [String.append_assoc, clean_front_append_iff indent,
      clean_front_append_iff (isFront_comment dialect)]
    exact clean_ofList (by decide)
  have line := clean_line dialect (clean_statement complete cleanBase unmarked)
  rw [stepLines, List.forall_mem_append, List.forall_mem_append]
  refine ⟨⟨?_, ?_⟩, ?_⟩
  · split
    · rw [List.forall_mem_singleton, String.append_assoc,
        clean_append_barrier_append_iff counted]
      exact ⟨comment, (clean_front_append_iff (guarded_ofList (by decide))).mpr action⟩
    · simp
  · rw [List.forall_mem_singleton, clean_front_append_iff indent]
    exact line
  · split
    · have name : Clean ("step-" ++ toString number ++ "-" ++ step.action) := by
        rw [clean_append_barrier_append_iff (guarded_ofList (by decide)),
          clean_front_append_iff (guarded_ofList (by decide))]
        exact ⟨digits, action⟩
      rw [List.forall_mem_singleton, clean_front_append_iff indent]
      exact clean_screenshot dialect name
    · simp

theorem clean_closing (dialect : Dialect) : ∀ line ∈ dialect.closing, Clean line := by
  cases dialect <;>
    simp only [closing, List.forall_mem_cons, List.not_mem_nil, IsEmpty.forall_iff, implies_true,
      and_true] <;>
    and_intros <;>
    exact clean_ofList (by decide)

/-- The code of a case without incomplete steps is clean. -/
theorem clean_code {case : TestCase}
    (complete : ∀ step ∈ case.steps, ¬ step.IsIncomplete dialect.framework)
    (derived : case.heading.HasDerivedName) (unmarked : ∀ text ∈ case.texts, IsUnmarked text)
    (clean : Clean timeout) : Clean (dialect.code options case timeout) := by
  have heading : ∀ text ∈ case.heading.texts, IsUnmarked text := fun text member =>
    unmarked text (List.mem_append_left _ member)
  have base : Clean case.heading.baseUrl := (heading _ (by simp [Heading.texts])).clean
  have lines : ∀ line ∈ dialect.lines options case timeout, Clean line := by
    rw [lines, List.forall_mem_append, List.forall_mem_append]
    refine ⟨⟨clean_prelude dialect options derived heading clean, ?_⟩, clean_closing dialect⟩
    intro line member
    obtain ⟨⟨step, number⟩, numbered, inStep⟩ := List.mem_flatMap.mp member
    have inCase : step ∈ case.steps := List.fst_mem_of_mem_zipIdx numbered
    exact clean_stepLines dialect options number (complete step inCase) base
      (fun text inTexts => unmarked text (List.mem_append_right _
        (List.mem_flatMap.mpr ⟨step, inCase, inTexts⟩))) line inStep
  rw [code, clean_append_back_iff (guarded_ofList (by decide))]
  exact clean_intercalate (guarded_ofList (by decide)) lines

end Dialect

/-! The check of the code -/

/-- A verdict has an error for every gap. -/
theorem Strict.errors_check_eq_nil_iff (instruction code : String) (values : List (String × String))
    (context : List String) :
    (check instruction code values context).errors = [] ↔ ¬ Unfinished code := by
  rw [Verdict.errors, List.map_eq_nil_iff, check, gaps_eq_nil_iff]

/-- A case has code exactly if its timeout can be told. The check of the code reports an error if a
step is incomplete, and reports none of a case with complete steps, a derived name and unmarked
texts. -/
theorem check_render (case : TestCase) (options : RenderOptions) {dialect : Dialect}
    (supported : Dialect.find options.framework options.language = .ok dialect) :
    ((∃ generated, render case options = .ok generated) ↔ dialect.Tells options.timeout) ∧
      ∀ generated, render case options = .ok generated →
        ((∃ step ∈ case.steps, step.IsIncomplete dialect.framework) →
          ∀ instruction values context,
            (check instruction generated.code values context).errors ≠ []) ∧
        ((∀ step ∈ case.steps, ¬ step.IsIncomplete dialect.framework) →
          case.heading.HasDerivedName → (∀ text ∈ case.texts, IsUnmarked text) →
          ∀ instruction values context,
            (check instruction generated.code values context).errors = []) := by
  refine ⟨exists_render_iff supported case, fun generated rendered => ?_⟩
  obtain ⟨timeout, told, written⟩ := exists_code_of_render supported rendered
  rw [written]
  constructor
  · rintro ⟨step, member, incomplete⟩ instruction values context none
    rw [errors_check_eq_nil_iff] at none
    exact none (Dialect.unfinished_code member incomplete)
  · intro complete derived unmarked instruction values context
    rw [errors_check_eq_nil_iff]
    have clean := Dialect.clean_of_isNumeral (Dialect.isNumeral_of_timeoutText told)
    exact (Dialect.clean_code complete derived unmarked clean).not_unfinished

/-- A click without a locator is caught, and a visit of a path is not blamed. -/
theorem check_render_click_and_goto :
    (∃ generated, render ⟨⟨"case", "", none, []⟩, [⟨"click", none, none, none, none⟩]⟩ {} =
        .ok generated ∧ (check "" generated.code [] []).errors ≠ []) ∧
      ∃ generated, render ⟨⟨"case", "", none, []⟩, [.goto "/"]⟩ {} = .ok generated ∧
        (check "" generated.code [] []).errors = [] := by
  have supported : Dialect.find "playwright" "typescript" = .ok .playwrightTypeScript := rfl
  have tells : Dialect.playwrightTypeScript.Tells 30000 :=
    Dialect.exists_timeoutText_iff.mp ⟨"30000", rfl⟩
  constructor
  · obtain ⟨written, checked⟩ :=
      check_render ⟨⟨"case", "", none, []⟩, [⟨"click", none, none, none, none⟩]⟩ {} supported
    obtain ⟨generated, rendered⟩ := written.mpr tells
    refine ⟨generated, rendered, (checked generated rendered).1 ⟨_, List.mem_singleton.mpr rfl, ?_⟩
      "" [] []⟩
    simp [Step.IsIncomplete, Step.kind?, Action.ofName?, Locator.IsLacking]
  · obtain ⟨written, checked⟩ := check_render ⟨⟨"case", "", none, []⟩, [.goto "/"]⟩ {} supported
    obtain ⟨generated, rendered⟩ := written.mpr tells
    refine ⟨generated, rendered, (checked generated rendered).2 ?_ (by decide +kernel) ?_ "" [] []⟩
    · simp [Step.IsIncomplete, Step.kind?, Step.goto, Action.ofName?, filled]
    · unfold IsUnmarked
      decide +kernel

end PlainScript
