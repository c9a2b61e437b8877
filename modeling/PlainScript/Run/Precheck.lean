/-
The check before a run: a case with markers, or without an address to visit, is not run.
-/

import PlainScript.Locator.Basic
import PlainScript.Run.Address
import PlainScript.TestCase.Basic
import PlainScript.TestCase.Marker

namespace PlainScript

/-- Why a case is not run; steps are counted from one. -/
inductive CaseError where
  | noBaseUrl
  | badBaseUrl
  | noSteps
  | fillTarget (step : Nat)
  | fillText (step : Nat)
  | clickTarget (step : Nat)
  | noAssertion (step : Nat)
  | assertionTarget (step : Nat)
  | assertionValue (step : Nat)
  | unknownAction (step : Nat) (action : String)
  deriving DecidableEq, Repr

namespace CaseError

/-- A message that names its step. -/
def atStep (step : Nat) (text : String) : String := "Step " ++ toString step ++ ": " ++ text

def message : CaseError → String
  | noBaseUrl => "Base URL is required for real URL testing"
  | badBaseUrl => "Base URL must be a valid URL (include http:// or https://)"
  | noSteps => "Test case must have at least one step"
  | fillTarget step =>
      atStep step "Fill action needs specific locator (label text, ID, or CSS selector)"
  | fillText step => atStep step "Fill action needs actual text value (no TODO placeholders)"
  | clickTarget step =>
      atStep step "Click action needs specific locator (button text, ID, or CSS selector)"
  | noAssertion step => atStep step "Assert action requires assertion"
  | assertionTarget step => atStep step "Assert action needs a locator"
  | assertionValue step =>
      atStep step "Assert action needs specific expected value (no TODO placeholders)"
  | unknownAction step action => atStep step ("Unknown action '" ++ action ++ "'")

end CaseError

/-- What a case had better have. -/
inductive CaseWarning where
  | noNavigation
  | noCheck
  deriving DecidableEq, Repr

def CaseWarning.message : CaseWarning → String
  | noNavigation => "Test case should include a navigation step"
  | noCheck => "Test case should include at least one assertion"

structure Precheck where
  errors : List CaseError
  warnings : List CaseWarning
  deriving DecidableEq, Repr

namespace Precheck

def isValid (check : Precheck) : Bool := check.errors.isEmpty

/-- Whether a text is missing, or a marker of something that is. -/
def isPlaceholder (text : Option String) : Bool :=
  match filled text with
  | none => true
  | some text => Marker.occursIn text || Text.contains text Unresolved.tag

/-- Whether a locator is missing, or what it names is. -/
def lacksTarget (locator : Option Locator) : Bool :=
  match locator with
  | none => true
  | some (.role _ name) => isPlaceholder name
  | some (.plain _ _ value) => isPlaceholder value

/-- Whether an assertion of a type compares with an expected value. -/
def needsValue (assertion : Assertion) : Bool :=
  match assertion.kind? with
  | some .urlContains => true
  | some (.element check) => check.needsValue
  | none => false

def assertionErrors (number : Nat) : Option Assertion → List CaseError
  | none => [.noAssertion number]
  | some assertion =>
      if assertion.kind? != some .urlContains && assertion.locator.isNone then
        [.assertionTarget number]
      else if needsValue assertion && isPlaceholder assertion.value then [.assertionValue number]
      else []

def stepErrors (number : Nat) (step : Step) : List CaseError :=
  match step.kind? with
  | some .goto => []
  | some .fill =>
      (if lacksTarget step.locator then [.fillTarget number] else []) ++
        if isPlaceholder step.text then [.fillText number] else []
  | some .click => if lacksTarget step.locator then [.clickTarget number] else []
  | some .check => assertionErrors number step.assertion
  | none => [.unknownAction number step.action]

def addressErrors (baseUrl : String) : Except Address.Fault (List CaseError) :=
  if baseUrl.isEmpty then .ok [.noBaseUrl]
  else (Address.read baseUrl).map fun address =>
    if address.isReachable then [] else [.badBaseUrl]

def warningsOf (steps : List Step) : List CaseWarning :=
  (if steps.any fun step => step.kind? == some .goto then [] else [.noNavigation]) ++
    if steps.any fun step => step.kind? == some .check then [] else [.noCheck]

/-- Checks a case; an address that cannot be taken apart is a fault of its own. -/
def ofCase (case : TestCase) : Except Address.Fault Precheck :=
  (addressErrors case.heading.baseUrl).map fun addressErrors =>
    ⟨addressErrors ++ (if case.steps.isEmpty then [.noSteps] else []) ++
        (case.steps.zipIdx 1).flatMap fun (step, number) => stepErrors number step,
      warningsOf case.steps⟩

end Precheck

end PlainScript
