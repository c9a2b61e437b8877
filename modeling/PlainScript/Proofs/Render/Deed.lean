/-
What complete steps of known action do, without the code around it: an address that is visited, or
an element that is looked up, and the texts that are typed or expected.
-/

import PlainScript.Proofs.Render.Statement
import PlainScript.Proofs.Run.Precheck

namespace PlainScript

/-! What an element is looked up by -/

/-- A selector, for Selenium together with the strategy that reads it. -/
abbrev Framework.Handle : Framework → Type
  | .playwright | .cypress => String
  | .selenium => Lookup × String

/-- What a locator is looked up by, if it lacks nothing. -/
def Locator.handle? : (framework : Framework) → Locator → Option framework.Handle
  | .playwright, locator => locator.target.toOption.map Target.playwright
  | .selenium, locator => locator.target.toOption.map Target.selenium
  | .cypress, locator => (locator.target.bind Target.cypress).toOption

/-- The argument of the code that looks the element up. -/
def Dialect.argument : (dialect : Dialect) → dialect.framework.Handle → String
  | .playwrightTypeScript, selector | .playwrightJavaScript, selector
  | .playwrightPython, selector | .cypressTypeScript, selector
  | .cypressJavaScript, selector => selector
  | .seleniumPython, found => seleniumArgument true found
  | .seleniumJava, found => seleniumArgument false found

/-- Every other locator of Cypress has a selector. -/
theorem Target.exists_cypress_eq_ok {target : Target} (other : ∀ value, target ≠ .plain .xpath value) :
    ∃ selector, target.cypress = .ok selector := by
  cases target with
  | role ariaRole name => exact ⟨_, rfl⟩
  | plain kind value =>
      cases kind with
      | xpath => exact absurd rfl (other value)
      | _ => exact ⟨_, rfl⟩

/-- A locator that lacks nothing is looked up by a handle, which its argument is made of. -/
theorem Dialect.exists_handle (dialect : Dialect) (user : String) {locator : Option Locator}
    (present : ¬ Locator.IsLacking dialect.framework locator) :
    ∃ handle, locator.bind (Locator.handle? dialect.framework) = some handle ∧
      dialect.target user locator = dialect.argument handle := by
  obtain ⟨found, rfl, resolvable⟩ := exists_of_not_isLacking present
  obtain ⟨target, resolved, -⟩ := Locator.exists_target_eq_ok resolvable
  rw [Option.bind_some]
  cases dialect with
  | playwrightTypeScript | playwrightJavaScript | playwrightPython =>
      refine ⟨target.playwright, ?_, ?_⟩
      · simp [framework, Locator.handle?, resolved, Except.toOption]
      · simp [framework, Dialect.target, argument, Locator.playwright, resolved]
  | seleniumPython | seleniumJava =>
      refine ⟨target.selenium, ?_, ?_⟩
      · simp [framework, Locator.handle?, resolved, Except.toOption]
      · simp [framework, Dialect.target, argument, Locator.selenium, resolved]
  | cypressTypeScript | cypressJavaScript =>
      obtain ⟨selector, known⟩ := target.exists_cypress_eq_ok fun value same =>
        Locator.ne_xpath_of_target_eq_ok resolvable (same ▸ resolved)
      refine ⟨selector, ?_, ?_⟩
      · simp [framework, Locator.handle?, resolved, Except.bind, known, Except.toOption]
      · simp [framework, Dialect.target, argument, Locator.cypress, resolved, Except.bind, known]

/-! Deeds -/

/-- What a check compares with. -/
abbrev ElementCheck.Expected : ElementCheck → Type
  | containsText | exactText | hasValue => String
  | visible | isEnabled | isDisabled => Unit

/-- The expected text of a check that compares with one. -/
def ElementCheck.expected? (text : Option String) : (check : ElementCheck) → Option check.Expected
  | containsText | exactText | hasValue => filled text
  | visible | isEnabled | isDisabled => some ()

/-- The text that a check compares with, where it compares with one. -/
def ElementCheck.text : (check : ElementCheck) → check.Expected → String
  | containsText, text | exactText, text | hasValue, text => text
  | visible, _ | isEnabled, _ | isDisabled, _ => ""

/-- What a complete step of known action does. -/
inductive Deed (framework : Framework) where
  | goto (url : String)
  | fill (element : framework.Handle) (text : String)
  | click (element : framework.Handle)
  | checkUrl (value : String)
  | checkElement (check : ElementCheck) (element : framework.Handle) (expected : check.Expected)

/-- What an assertion checks, if its kind is known and it lacks nothing. -/
def Assertion.deed? (framework : Framework) (assertion : Assertion) : Option (Deed framework) :=
  match assertion.kind? with
  | some .urlContains => (filled assertion.value).map .checkUrl
  | some (.element check) => do
      let element ← assertion.locator.bind (Locator.handle? framework)
      return .checkElement check element (← check.expected? assertion.value)
  | none => none

/-- What a step does in a case with the given base address, if its action is known and it lacks
nothing. -/
def Step.deed? (framework : Framework) (base : String) (step : Step) : Option (Deed framework) :=
  match step.kind? with
  | some .goto => (filled step.path).map fun path => .goto (targetUrl base path)
  | some .fill => do
      let element ← step.locator.bind (Locator.handle? framework)
      return .fill element (← filled step.text)
  | some .click => (step.locator.bind (Locator.handle? framework)).map .click
  | some .check => step.assertion.bind (Assertion.deed? framework)
  | none => none

/-- The statement of a deed. -/
def Deed.statement {framework : Framework} (argument : framework.Handle → String) :
    Deed framework → Statement
  | goto url => .goto url
  | fill element text => .fill (argument element) text
  | click element => .click (argument element)
  | checkUrl value => .checkUrl value
  | checkElement check element expected =>
      .checkElement check (argument element) (check.text expected)

namespace Dialect

variable (dialect : Dialect)

/-- The line of a check that compares with nothing is the same for all texts. -/
theorem line_checkElement_of_free {check : ElementCheck} (free : check.needsValue = false)
    (target first second : String) :
    dialect.line (.checkElement check target first) =
      dialect.line (.checkElement check target second) := by
  cases check with
  | containsText | exactText | hasValue => cases free
  | visible | isEnabled | isDisabled =>
      cases dialect with
      | playwrightTypeScript | playwrightJavaScript =>
          dsimp only [line, Statement.playwrightScript, ElementCheck.playwrightScript]
      | playwrightPython =>
          dsimp only [line, Statement.playwrightPython, ElementCheck.playwrightPython]
      | seleniumPython => dsimp only [line, Statement.seleniumPython, ElementCheck.seleniumPython]
      | seleniumJava => dsimp only [line, Statement.seleniumJava, ElementCheck.seleniumJava]
      | cypressTypeScript | cypressJavaScript =>
          dsimp only [line, Statement.cypress, ElementCheck.cypress]

/-- The line of a check shows the text that the check compares with, and no other. -/
theorem line_checkElement (check : ElementCheck) (target : String) {text : Option String}
    {marker : String} (complete : check.needsValue = true → filled text ≠ none) :
    ∃ expected, check.expected? text = some expected ∧
      dialect.line (.checkElement check target ((filled text).getD marker)) =
        dialect.line (.checkElement check target (check.text expected)) := by
  cases check with
  | containsText | exactText | hasValue =>
      obtain ⟨value, present⟩ := Option.ne_none_iff_exists'.mp (complete rfl)
      exact ⟨value, present, by rw [present]; rfl⟩
  | visible | isEnabled | isDisabled =>
      exact ⟨(), rfl, dialect.line_checkElement_of_free rfl target _ _⟩

/-- A complete assertion of known kind has a deed, and its line is the line of the deed. -/
theorem exists_deed_assertion {assertion : Assertion} {kind : AssertionKind}
    (known : assertion.kind? = some kind)
    (complete : ¬ assertion.IsIncomplete dialect.framework) :
    ∃ deed, assertion.deed? dialect.framework = some deed ∧
      dialect.line (dialect.assertionStatement assertion) =
        dialect.line (deed.statement dialect.argument) := by
  rw [Assertion.IsIncomplete, known] at complete
  rw [Assertion.deed?, assertionStatement, known]
  cases kind with
  | urlContains =>
      obtain ⟨value, present⟩ := Option.ne_none_iff_exists'.mp complete
      exact ⟨.checkUrl value, by simp [present], by simp [present, Deed.statement]⟩
  | element check =>
      rw [not_or, not_and] at complete
      obtain ⟨handle, found, argument⟩ := dialect.exists_handle "assertion" complete.1
      obtain ⟨expected, given, line⟩ :=
        dialect.line_checkElement check (dialect.argument handle) complete.2
      exact ⟨.checkElement check handle expected, by simp [found, given], by rw [argument, line]; rfl⟩

/-- A complete step of known action has a deed, and its line is the line of the deed. -/
theorem exists_deed (base : String) {step : Step} (known : step.IsKnown)
    (complete : ¬ step.IsIncomplete dialect.framework) :
    ∃ deed, step.deed? dialect.framework base = some deed ∧
      dialect.line (dialect.statement base step) = dialect.line (deed.statement dialect.argument) := by
  obtain ⟨action, named, kinds⟩ := known
  rw [Step.IsIncomplete, named] at complete
  rw [Step.deed?, statement, named]
  cases action with
  | goto =>
      obtain ⟨path, present⟩ := Option.ne_none_iff_exists'.mp complete
      exact ⟨.goto (targetUrl base path), by simp [present], by simp [present, Deed.statement]⟩
  | fill =>
      rw [not_or] at complete
      obtain ⟨handle, found, argument⟩ := dialect.exists_handle "fill" complete.1
      obtain ⟨text, present⟩ := Option.ne_none_iff_exists'.mp complete.2
      exact ⟨.fill handle text, by simp [found, present],
        by simp [argument, present, Deed.statement]⟩
  | click =>
      obtain ⟨handle, found, argument⟩ := dialect.exists_handle "click" complete
      exact ⟨.click handle, by simp [found], by simp [argument, Deed.statement]⟩
  | check =>
      obtain ⟨assertion, given, whole⟩ : ∃ assertion, step.assertion = some assertion ∧
          ¬ assertion.IsIncomplete dialect.framework := by simpa using complete
      obtain ⟨kind, kindKnown⟩ := kinds rfl assertion given
      rw [given, Option.bind_some]
      exact dialect.exists_deed_assertion kindKnown whole

end Dialect

end PlainScript
