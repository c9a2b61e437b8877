/-
What the compliance check finds missing in the code of a case. The check looks for names of calls
in the whole code, so apart from the calls themselves every text that the code shows counts: the
names of the test, its title and the instruction in it, the address, the tags and the values. Two
dialects have a name of a call that nothing asked for.
-/

import PlainScript.Proofs.Render.Calls
import PlainScript.Proofs.TestCase.Identifier

namespace PlainScript

open Literal Requirement

/-- The action that meets a requirement. -/
def Requirement.action : Requirement → Action
  | navigation => .goto
  | filling => .fill
  | clicking => .click
  | assertion => .check

namespace Dialect

/-- The names in the code that are made of the name of the case. -/
def testNames (dialect : Dialect) (heading : Heading) : List String :=
  match dialect with
  | seleniumPython => [Name.camel heading.name, heading.name]
  | seleniumJava => [Name.camel heading.name]
  | _ => [heading.name]

/-- The texts that the code shows in front of the steps. -/
def headingTexts (dialect : Dialect) (heading : Heading) : List String :=
  heading.title :: heading.baseUrl :: heading.tags ++ dialect.testNames heading

/-- The texts that the code of a case shows. -/
def shownTexts (dialect : Dialect) (case : TestCase) : List String :=
  dialect.headingTexts case.heading ++ case.steps.flatMap fun step =>
    step.action :: (dialect.statement case.heading.baseUrl step).shown

/-- The code of Playwright tests begins with the name of its assertions, used or not. -/
def presumes (dialect : Dialect) (requirement : Requirement) : Bool :=
  dialect.framework == .playwright && requirement == .assertion

/-- The words of the code meet the requirement, whether or not there is a step for it. -/
def pretends (dialect : Dialect) (requirement : Requirement) (case : TestCase) : Bool :=
  dialect.presumes requirement || case.steps.any fun step =>
    dialect.imitates requirement (dialect.statement case.heading.baseUrl step)

variable {requirement : Requirement} {heading : Heading}

/-! In front of the steps -/

theorem isMet_frame {front text back : String} (before : isFront front = true)
    (behind : isBack back = true) :
    requirement.isMet (front ++ text ++ back) = requirement.isMet text := by
  rw [isMet_append_back behind, isMet_front_append before]

/-- A number in a call is no name. -/
theorem isMet_numeral_frame {front number back : String} (numeral : Number.IsNumeral number)
    (before : isFront front = true) (behind : isBack back = true) :
    requirement.isMet (front ++ number ++ back) = false :=
  (isMet_frame before behind).trans (isMet_eq_false_of_isNumeral numeral)

theorem isMet_quote_frame {front text back : String} (before : isSilentBut none front = true)
    (behind : isSilentBut none back = true) :
    requirement.isMet (front ++ quote text ++ back) = requirement.isMet text := by
  have woven : front ++ quote text ++ back = .ofList (weave .single front [(text, back)]) := by
    rw [← String.toList_inj]
    simp [weave, quote]
  rw [woven, isMet_weave, isMet_eq_false_of_silent before]
  simp [isMet_eq_false_of_silent behind]

/-- A name without dots in front of an opening bracket. -/
theorem isMet_dotless_frame {front name back : String} (dotless : '.' ∉ name.toList)
    (before : isFront front = true)
    (opened : ((namesBut none).all fun name => Chars.opensWord name back.toList) = true)
    (silent : isSilentBut none back = true) :
    requirement.isMet (front ++ name ++ back) = requirement.isMet name := by
  rw [String.append_assoc, isMet_front_append before, isMet_dotless_append dotless opened,
    isMet_eq_false_of_silent silent, Bool.or_false]

/-- The comments in front show the title, the address and the tags. -/
theorem isMet_header (dialect : Dialect) :
    (dialect.header dialect.defaults heading).any requirement.isMet =
      (heading.title :: heading.baseUrl :: heading.tags).any requirement.isMet := by
  have marked {words : String} (text : String) (before : isFront words = true) :
      requirement.isMet (dialect.comment ++ words ++ text) = requirement.isMet text := by
    rw [String.append_assoc, isMet_comment_append, isMet_front_append before]
  rw [header, defaults, if_pos rfl, List.any_cons, List.any_cons, List.any_cons, List.any_cons,
    marked _ (front_ofList (by decide)), marked _ (front_ofList (by decide))]
  cases tagged : heading.tags with
  | nil => rfl
  | cons tag tags =>
      rw [List.isEmpty_cons, if_neg Bool.false_ne_true, List.any_cons, List.any_nil, Bool.or_false,
        marked _ (front_ofList (by decide)), isMet_intercalate (judged_ofList (by decide))]

/-! The lines that name the test -/

theorem dot_notMem_name (derived : heading.HasDerivedName) :
    '.' ∉ heading.name.toList ∧ '.' ∉ (Name.camel heading.name).toList :=
  ⟨fun member => absurd (derived '.' member) (by decide),
    fun member => absurd (Name.isAlphanum_camel derived '.' member) (by decide)⟩

theorem isMet_testFunction (requirement : Requirement) (derived : heading.HasDerivedName) :
    requirement.isMet ("def test_" ++ heading.name ++ "(page: Page):") =
        requirement.isMet heading.name ∧
      requirement.isMet ("    def test_" ++ heading.name ++ "(self):") =
        requirement.isMet heading.name ∧
      requirement.isMet ("    public void test" ++ Name.camel heading.name ++ "() \x7b") =
        requirement.isMet (Name.camel heading.name) := by
  have dotless := dot_notMem_name derived
  exact ⟨isMet_dotless_frame dotless.1 (front_ofList (by decide)) (judged_ofList (by decide))
      (silent_ofList (by decide)),
    isMet_dotless_frame dotless.1 (front_ofList (by decide)) (judged_ofList (by decide))
      (silent_ofList (by decide)),
    isMet_dotless_frame dotless.2 (front_ofList (by decide)) (judged_ofList (by decide))
      (silent_ofList (by decide))⟩

theorem isMet_testClass (requirement : Requirement) (heading : Heading) :
    requirement.isMet ("class " ++ className heading ++ "(unittest.TestCase):") =
        requirement.isMet (Name.camel heading.name) ∧
      requirement.isMet ("public class " ++ className heading ++ " \x7b") =
        requirement.isMet (Name.camel heading.name) := by
  -- The word behind the name is part of what follows.
  have parted (front back : String) : front ++ className heading ++ back =
      front ++ Name.camel heading.name ++ ("Test" ++ back) := by
    simp only [className, String.append_assoc]
  rw [parted, parted]
  exact ⟨isMet_frame (front_ofList (by decide)) (back_append_ofList (by decide)),
    isMet_frame (front_ofList (by decide)) (back_append_ofList (by decide))⟩

theorem isMet_testLiteral (requirement : Requirement) (heading : Heading) :
    requirement.isMet ("describe(" ++ quote heading.name ++ ", () => \x7b") =
        requirement.isMet heading.name ∧
      requirement.isMet ("  it(" ++ quote heading.title ++ ", () => \x7b") =
        requirement.isMet heading.title :=
  ⟨isMet_quote_frame (silent_ofList (by decide)) (silent_ofList (by decide)),
    isMet_quote_frame (silent_ofList (by decide)) (silent_ofList (by decide))⟩

/-- The lines that set the timeout. -/
theorem isMet_timeout (requirement : Requirement) {timeout : String}
    (numeral : Number.IsNumeral timeout) :
    requirement.isMet ("  test.setTimeout(" ++ timeout ++ ");") = false ∧
      requirement.isMet ("    page.set_default_timeout(" ++ timeout ++ ")") = false ∧
      requirement.isMet ("        self.driver.implicitly_wait(" ++ timeout ++ ")") = false ∧
      requirement.isMet ("        driver.manage().timeouts().implicitlyWait(Duration.ofMillis(" ++
        timeout ++ "));") = false ∧
      requirement.isMet ("    Cypress.config('defaultCommandTimeout', " ++ timeout ++ ");") =
        false := by
  exact ⟨isMet_numeral_frame numeral (front_ofList (by decide)) (back_ofList (by decide)),
    isMet_numeral_frame numeral (front_ofList (by decide)) (back_ofList (by decide)),
    isMet_numeral_frame numeral (front_ofList (by decide)) (back_ofList (by decide)),
    isMet_numeral_frame numeral (front_ofList (by decide)) (back_ofList (by decide)),
    isMet_numeral_frame numeral (front_ofList (by decide)) (back_ofList (by decide))⟩

/-! Everything in front of the steps -/

theorem isMet_playwrightScriptPrelude {firstLine signatureEnd : String} {header : List String}
    (options : RenderOptions) (first : requirement.isMet firstLine = (requirement == .assertion))
    (signature : isSilentBut none (", async (" ++ signatureEnd) = true) {timeout : String}
    (numeral : Number.IsNumeral timeout) :
    (playwrightScriptPrelude firstLine signatureEnd options heading header timeout).any
        requirement.isMet =
      (requirement == .assertion ||
        (header.any requirement.isMet || requirement.isMet heading.name)) := by
  have comment : (if options.includeComments then ["  // Set timeout for the test"] else []).any
      requirement.isMet = false := by
    split
    · rw [List.any_cons, isMet_eq_false_of_silent (silent_ofList (by decide)), Bool.false_or,
        List.any_nil]
    · rfl
  have name : requirement.isMet ("test(" ++ quote heading.name ++ ", async (" ++ signatureEnd) =
      requirement.isMet heading.name := by
    rw [String.append_assoc]
    exact isMet_quote_frame (silent_ofList (by decide)) signature
  have blank : requirement.isMet "" = false :=
    isMet_eq_false_of_silent (silent_ofList (by decide))
  simp only [playwrightScriptPrelude, List.any_append, List.any_cons, List.any_nil, comment, name,
    (isMet_timeout requirement numeral).1, blank, first, Bool.or_false, Bool.false_or,
    Bool.or_assoc]

/-- The lines in front of the steps meet what the texts in them meet. -/
theorem isMet_prelude (dialect : Dialect) (derived : heading.HasDerivedName) :
    (dialect.prelude dialect.defaults heading dialect.defaultTimeout).any requirement.isMet =
      (dialect.presumes requirement ||
        (dialect.headingTexts heading).any requirement.isMet) := by
  have header : (dialect.header dialect.defaults heading).any requirement.isMet = _ :=
    isMet_header dialect
  have function := isMet_testFunction requirement derived
  have cls := isMet_testClass requirement heading
  have literal := isMet_testLiteral requirement heading
  have numeral := isNumeral_of_timeoutText dialect.timeoutText_defaults
  have timeout := isMet_timeout requirement numeral
  have first : requirement.isMet "from playwright.sync_api import Page, expect" =
      (requirement == .assertion) := by
    cases requirement <;> rfl
  have blank : requirement.isMet "" = false :=
    isMet_eq_false_of_silent (silent_ofList (by decide))
  delta prelude
  cases dialect with
  | playwrightTypeScript | playwrightJavaScript =>
      dsimp only
      rw [isMet_playwrightScriptPrelude _ (by cases requirement <;> rfl)
        (silent_append_ofList (by decide)) numeral, header]
      simp [presumes, headingTexts, testNames, framework, Bool.or_assoc]
  | playwrightPython =>
      dsimp only
      simp only [List.any_append, header, List.any_cons, List.any_nil, first, function, timeout,
        blank]
      simp [presumes, headingTexts, testNames, framework, Bool.or_assoc]
  | seleniumPython | seleniumJava =>
      dsimp only
      simp only [List.any_append, header, List.any_cons, List.any_nil, cls, function, timeout]
      simp (disch := (apply silent_ofList; decide)) only [isMet_eq_false_of_silent]
      simp [presumes, headingTexts, testNames, framework, Bool.or_assoc]
  | cypressTypeScript | cypressJavaScript =>
      have parted (bare : Bool) : (if bare then [] else [""]).any requirement.isMet = false := by
        cases bare <;> simp [blank]
      have other : (Framework.cypress == .playwright) = false := rfl
      dsimp only
      simp only [List.any_append, header, List.any_cons, List.any_nil, literal, timeout, parted]
      simp (disch := (apply silent_ofList; decide)) [isMet_eq_false_of_silent, presumes,
        headingTexts, testNames, framework, other]
      -- The title stands in a comment and in a literal.
      cases requirement.isMet heading.title <;> simp [Bool.or_assoc]

/-! The whole code -/

/-- The statement of a step is there for the requirement that the action of the step meets. -/
theorem kind?_of_requirement?_statement (dialect : Dialect) {base : String} {step : Step}
    (asked : (dialect.statement base step).requirement? = some requirement) :
    step.kind? = some requirement.action := by
  revert asked
  rw [statement]
  cases step.kind? with
  | none =>
      intro asked
      cases asked
  | some action =>
      cases action with
      | goto =>
          dsimp only
          split
          · rintro ⟨⟩
            rfl
          · intro asked
            cases asked
      | fill | click =>
          rintro ⟨⟩
          rfl
      | check =>
          dsimp only
          split
          · rw [assertionStatement]
            split <;> intro asked
            · cases asked
              rfl
            · cases asked
              rfl
            · cases asked
          · intro asked
            cases asked

/-- The lines of the steps show their actions and the texts of their statements. -/
theorem isMet_stepsLines (dialect : Dialect) {case : TestCase}
    (others : ∀ step ∈ case.steps, step.kind? ≠ some requirement.action) :
    (dialect.stepsLines dialect.defaults case).any requirement.isMet =
      ((case.steps.any fun step =>
          dialect.imitates requirement (dialect.statement case.heading.baseUrl step)) ||
        (case.steps.flatMap fun step =>
          step.action :: (dialect.statement case.heading.baseUrl step).shown).any
            requirement.isMet) := by
  rw [stepsLines]
  -- The steps are numbered on, so the count is left open.
  generalize 1 = number
  revert others
  generalize case.steps = steps
  intro others
  induction steps generalizing number with
  | nil => rfl
  | cons step steps ih =>
      rw [List.forall_mem_cons] at others
      have own : (dialect.statement case.heading.baseUrl step).requirement? ≠ some requirement :=
        fun asked => others.1 (dialect.kind?_of_requirement?_statement asked)
      simp only [List.zipIdx_cons, List.flatMap_cons, List.any_append, ih _ others.2,
        isMet_stepLines dialect _ number step own, List.any_cons]
      ac_rfl

theorem isMet_closing (dialect : Dialect) :
    dialect.closing.any requirement.isMet = false := by
  cases dialect <;>
    simp (disch := (apply silent_ofList; decide)) only [closing, List.any_cons, List.any_nil,
      isMet_eq_false_of_silent, Bool.or_false]

/-- The code of a case without a step for a requirement meets it if the words of the code or a text
that it shows do. -/
theorem isMet_code (dialect : Dialect) {case : TestCase} (derived : case.heading.HasDerivedName)
    (others : ∀ step ∈ case.steps, step.kind? ≠ some requirement.action) :
    requirement.isMet (dialect.code dialect.defaults case dialect.defaultTimeout) =
      (dialect.pretends requirement case || (dialect.shownTexts case).any requirement.isMet) := by
  rw [code, isMet_append_back (back_ofList (by decide)),
    isMet_intercalate (judged_ofList (by decide)), lines, List.any_append, List.any_append,
    isMet_prelude dialect derived, isMet_stepsLines dialect others, isMet_closing, Bool.or_false,
    pretends, shownTexts, List.any_append]
  ac_rfl

end Dialect

/-! The check -/

/-- A title says what the description says, on one line. -/
theorem Heading.isMet_title {requirement : Requirement} {heading : Heading} {text : String}
    (described : heading.description = some text) (met : requirement.isMet text = true) :
    requirement.isMet heading.title = true := by
  obtain ⟨name, member, inside⟩ := (isMet_iff requirement text).mp met
  have unbroken : ∀ requirement : Requirement, ∀ name ∈ requirement.names, ∀ c ∈ name,
      Text.isBlank c = false := by
    intro requirement
    cases requirement <;> decide
  have nonempty := (plain_of_mem_names member).1
  have inLine := Text.infix_oneLine_of_infix nonempty (unbroken requirement name member) inside
  have filled : ¬ (Text.oneLine text).isEmpty = true := by
    rw [String.isEmpty_iff]
    intro empty
    rw [empty] at inLine
    exact nonempty (List.infix_nil.mp inLine)
  rw [title, described, Option.getD_some, if_neg filled]
  exact (isMet_iff _ _).mpr ⟨name, member, inLine⟩

namespace Compliance

theorem mem_missing_iff {requirement : Requirement} {text code : String}
    (asked : requirement ∈ (Request.ofText text).map Request.requirement) :
    requirement ∈ (check text code).missing ↔ requirement.isMet code = false := by
  rw [check, List.mem_filter, Bool.not_eq_true']
  exact and_iff_right asked

/-- The check of the code of a case against the instruction that it is named after. -/
theorem mem_missing_code_iff {requirement : Requirement} {text : String} {case : TestCase}
    (named : case.heading.name = Name.derive text)
    (asked : requirement ∈ (Request.ofText text).map Request.requirement)
    (others : ∀ step ∈ case.steps, step.kind? ≠ some requirement.action) (dialect : Dialect) :
    requirement ∈
        (check text (dialect.code dialect.defaults case dialect.defaultTimeout)).missing ↔
      dialect.pretends requirement case = false ∧
        ∀ shown ∈ dialect.shownTexts case, requirement.isMet shown = false := by
  have derived : case.heading.HasDerivedName := by
    rw [Heading.HasDerivedName, named]
    exact (Name.isSnake_derive text).isNameChar_or_eq
  rw [mem_missing_iff asked, dialect.isMet_code derived others, Bool.or_eq_false_iff,
    List.any_eq_false]
  simp only [Bool.not_eq_true]

/-- An instruction that holds a name of a call itself is never found to lack it. -/
theorem notMem_missing_code {requirement : Requirement} {text : String} {case : TestCase}
    (named : case.heading.name = Name.derive text)
    (described : case.heading.description = some text)
    (asked : requirement ∈ (Request.ofText text).map Request.requirement)
    (others : ∀ step ∈ case.steps, step.kind? ≠ some requirement.action) (dialect : Dialect)
    (met : requirement.isMet text = true) :
    requirement ∉
      (check text (dialect.code dialect.defaults case dialect.defaultTimeout)).missing := by
  intro reported
  have silent := ((mem_missing_code_iff named asked others dialect).mp reported).2
  have title := silent case.heading.title List.mem_cons_self
  rw [Heading.isMet_title described met] at title
  cases title

/-- Where a case has no step for what the instruction asks for, the check of its code says so
exactly if neither the words of the code nor the texts that it shows hold a name of a call for it;
so it never does if the instruction itself holds one. -/
theorem missing_iff_of_render {requirement : Requirement} {text : String} {case : TestCase}
    (named : case.heading.name = Name.derive text)
    (described : case.heading.description = some text)
    (asked : requirement ∈ (Request.ofText text).map Request.requirement)
    (others : ∀ step ∈ case.steps, step.kind? ≠ some requirement.action) (dialect : Dialect) :
    ∃ generated, render case dialect.defaults = .ok generated ∧
      (requirement ∈ (check text generated.code).missing ↔
        dialect.pretends requirement case = false ∧
          ∀ shown ∈ dialect.shownTexts case, requirement.isMet shown = false) ∧
      (requirement.isMet text = true → requirement ∉ (check text generated.code).missing) :=
  ⟨_, render_defaults case dialect, mem_missing_code_iff named asked others dialect,
    notMem_missing_code named described asked others dialect⟩

/-! Samples: instructions to press a button, and cases that only visit a page -/

def pressText : String := "press \"Save\""

def clickText : String := "click \"Save\""

def visitOnly (name text : String) : TestCase := ⟨⟨name, "", some text, []⟩, [.goto "/"]⟩

/-- The check finds that the button is not pressed. -/
theorem clicking_mem_missing_pressText :
    ∃ generated,
      render (visitOnly "press_save" pressText) Dialect.cypressJavaScript.defaults =
        .ok generated ∧
      .clicking ∈ (check pressText generated.code).missing := by
  obtain ⟨generated, rendered, missing, -⟩ :=
    @missing_iff_of_render .clicking pressText (visitOnly "press_save" pressText)
      (by decide) rfl (by decide) (by decide) .cypressJavaScript
  exact ⟨generated, rendered, missing.mpr (by decide)⟩

/-- The button is not clicked, but the code tells in a comment that it is to be. -/
theorem exists_render_not_missing :
    ∃ generated,
      (visitOnly "click_save" clickText).heading.name = Name.derive clickText ∧
      (visitOnly "click_save" clickText).heading.description = some clickText ∧
      .clicking ∈ (Request.ofText clickText).map Request.requirement ∧
      (∀ step ∈ (visitOnly "click_save" clickText).steps, step.kind? ≠ some .click) ∧
      render (visitOnly "click_save" clickText) Dialect.playwrightTypeScript.defaults =
        .ok generated ∧
      .clicking ∉ (check clickText generated.code).missing := by
  have named : (visitOnly "click_save" clickText).heading.name = Name.derive clickText := by decide
  have asked : .clicking ∈ (Request.ofText clickText).map Request.requirement := by decide
  have others : ∀ step ∈ (visitOnly "click_save" clickText).steps, step.kind? ≠ some .click := by
    decide
  exact ⟨_, named, rfl, asked, others, render_defaults _ _,
    notMem_missing_code named rfl asked others .playwrightTypeScript (by decide)⟩

end Compliance

end PlainScript
