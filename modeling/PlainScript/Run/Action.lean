/-
What a step does on a page, and how it fails.
-/

import PlainScript.Locator.Selector
import PlainScript.Render.Statement
import PlainScript.Run.Page
import PlainScript.TestCase.Basic

namespace PlainScript

/-- What was found otherwise than expected. -/
inductive Mismatch where
  | noAssertion
  | unknownAction (action : String)
  | unknownType (type : String)
  | url (actual expected : String)
  | text (expected actual : String)
  | exactText (expected : Option String) (actual : String)
  | inputValue (expected : Option String) (actual : String)
  | isDisabled
  | isEnabled
  deriving DecidableEq, Repr

def Mismatch.message : Mismatch → String
  | noAssertion => "missing assertion"
  | unknownAction action => "unknown action '" ++ action ++ "'"
  | unknownType type => "unknown assertion type '" ++ type ++ "'"
  | url actual expected => "URL '" ++ actual ++ "' does not contain '" ++ expected ++ "'"
  | text expected actual => "expected text '" ++ expected ++ "' not found in '" ++ actual ++ "'"
  | exactText expected actual =>
      "expected '" ++ shownField expected ++ "', got '" ++ actual ++ "'"
  | inputValue expected actual =>
      "expected value '" ++ shownField expected ++ "', got '" ++ actual ++ "'"
  | isDisabled => "element is disabled"
  | isEnabled => "element is enabled"

/-- The first line of what a page says, or the kind of its fault if it says nothing. -/
def PageFault.summary (fault : PageFault) : String :=
  if fault.message.isEmpty then if fault.isTimeout then "TimeoutError" else "Error"
  else ((Text.lines fault.message).head?).getD ""

/-- Why a step fails. -/
inductive StepFault where
  | page (fault : PageFault)
  | notFound (selector : String)
  | mismatch (mismatch : Mismatch)
  deriving DecidableEq, Repr

def StepFault.message : StepFault → String
  | page fault => if fault.isTimeout then "Timeout: " ++ fault.summary else fault.summary
  | notFound selector => "Element not found: " ++ selector
  | .mismatch found => "Assertion failed: " ++ found.message

/-- What ends a step before its time: it fails, or an expected value that it needs is missing. -/
inductive StepEnd where
  | fault (fault : StepFault)
  | noValue
  deriving DecidableEq, Repr

abbrev StepAct (σ : Type) := ExceptT StepEnd (StateM σ)

namespace Run

variable {σ : Type}

/-- An operation of the page as part of a step. -/
def onPage {α : Type} (act : PageAct σ α) : StepAct σ α :=
  ExceptT.adapt (fun fault => .fault (.page fault)) act

def fail {α : Type} (fault : StepFault) : StepAct σ α := throw (.fault fault)

def failWith {α : Type} (mismatch : Mismatch) : StepAct σ α := fail (.mismatch mismatch)

/-- The selector of a locator; what is unresolved is never found. -/
def selectorOf (locator : Option Locator) : Except StepFault String :=
  let selector := match locator with
    | some locator => locator.playwright
    | none => Unresolved.tag
  if Text.startsWith selector Unresolved.tag then .error (.notFound selector) else .ok selector

/-- The selector of an element that is there. -/
def locate (page : Page σ) (locator : Option Locator) : StepAct σ String := do
  match selectorOf locator with
  | .error fault => fail fault
  | .ok selector =>
      if (← onPage (page.count selector)) == 0 then fail (.notFound selector)
      else return selector

/-- The address that a path leads to. -/
def visitedUrl (base path : String) : String :=
  if isWebAddress path then path else joinUrl base path

def checkUrl (page : Page σ) (timeout : Int) (expected : String) : StepAct σ Unit :=
  tryCatch (onPage (page.waitForUrl (fun url => Text.contains url expected) timeout)) fun ended =>
    match ended with
    | .fault (.page ⟨true, _⟩) => do failWith (.url (← onPage page.url) expected)
    | other => throw other

/-- Checks an element that is there. -/
def checkElement (page : Page σ) (check : ElementCheck) (selector : String)
    (expected : Option String) : StepAct σ Unit :=
  match check with
  | .containsText => do
      let actual ← onPage (page.innerText selector)
      match expected with
      | none => throw .noValue
      | some expected =>
          if Text.contains actual expected then return () else failWith (.text expected actual)
  | .exactText => do
      let actual := Text.trim (← onPage (page.innerText selector))
      if some actual == expected then return () else failWith (.exactText expected actual)
  | .hasValue => do
      let actual ← onPage (page.inputValue selector)
      if some actual == expected then return () else failWith (.inputValue expected actual)
  | .isEnabled => do
      if ← onPage (page.isEnabled selector) then return () else failWith .isDisabled
  | .isDisabled => do
      if ← onPage (page.isEnabled selector) then failWith .isEnabled else return ()
  | .visible => return ()

def check (page : Page σ) (timeout : Int) (assertion : Assertion) : StepAct σ Unit :=
  match assertion.kind? with
  | some .urlContains =>
      match assertion.value with
      | none => throw .noValue
      | some expected => checkUrl page timeout expected
  | some (.element .visible) =>
      match selectorOf assertion.locator with
      | .error fault => fail fault
      | .ok selector => onPage (page.waitVisible selector timeout)
  | some (.element kind) => do
      let selector ← locate page assertion.locator
      checkElement page kind selector assertion.value
  | none => do
      let _ ← locate page assertion.locator
      failWith (.unknownType assertion.type)

/-- Does what a step says. -/
def act (page : Page σ) (timeout : Int) (baseUrl : String) (step : Step) : StepAct σ Unit :=
  match step.kind? with
  | some .goto => onPage (page.goto (visitedUrl baseUrl ((filled step.path).getD "/")))
  | some .fill => do
      let selector ← locate page step.locator
      onPage (page.fill selector (step.text.getD ""))
  | some .click => do
      let selector ← locate page step.locator
      onPage (page.click selector)
  | some .check =>
      match step.assertion with
      | none => failWith .noAssertion
      | some assertion => check page timeout assertion
  | none => failWith (.unknownAction step.action)

end Run

end PlainScript
