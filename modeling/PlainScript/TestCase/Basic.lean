/-
Test cases: what a case is called and where it runs, and its steps in order, also as a checklist for
people.
-/

import PlainScript.Locator.Basic

namespace PlainScript

/-- What can be checked of an element. -/
inductive ElementCheck where
  | containsText
  | exactText
  | visible
  | hasValue
  | isEnabled
  | isDisabled
  deriving DecidableEq, Repr

/-- The kinds of assertion that can be checked. -/
inductive AssertionKind where
  | urlContains
  | element (check : ElementCheck)
  deriving DecidableEq, Repr

/-- Whether the check compares with an expected value. -/
def ElementCheck.needsValue : ElementCheck → Bool
  | containsText | exactText | hasValue => true
  | visible | isEnabled | isDisabled => false

namespace AssertionKind

def all : List AssertionKind :=
  [element .containsText, element .exactText, element .visible, urlContains,
    element .hasValue, element .isEnabled, element .isDisabled]

def name : AssertionKind → String
  | urlContains => "urlContains"
  | element .containsText => "containsText"
  | element .exactText => "exactText"
  | element .visible => "visible"
  | element .hasValue => "hasValue"
  | element .isEnabled => "isEnabled"
  | element .isDisabled => "isDisabled"

def ofName? (name : String) : Option AssertionKind := all.find? (·.name == name)

end AssertionKind

/-- A type outside the known kinds is kept as it was written. -/
structure Assertion where
  type : String
  locator : Option Locator
  value : Option String
  deriving DecidableEq, Repr

/-- The known kind, if the type names one. -/
def Assertion.kind? (assertion : Assertion) : Option AssertionKind :=
  AssertionKind.ofName? assertion.type

/-- The actions that can be carried out. -/
inductive Action where
  | goto
  | fill
  | click
  | check
  deriving DecidableEq, Repr

namespace Action

def name : Action → String
  | goto => "goto"
  | fill => "fill"
  | click => "click"
  | check => "assert"

def ofName? : String → Option Action
  | "goto" => some goto
  | "fill" => some fill
  | "click" => some click
  | "assert" => some check
  | _ => none

end Action

/-- An action outside the known ones is kept as it was written, and so are fields that the
action does not use. -/
structure Step where
  action : String
  path : Option String
  locator : Option Locator
  text : Option String
  assertion : Option Assertion
  deriving DecidableEq, Repr

namespace Step

/-- The known action, if the step names one. -/
def kind? (step : Step) : Option Action := Action.ofName? step.action

def goto (path : String) : Step := ⟨"goto", some path, none, none, none⟩

def fill (locator : Locator) (text : String) : Step :=
  ⟨"fill", none, some locator, some text, none⟩

def click (locator : Locator) : Step := ⟨"click", none, some locator, none, none⟩

def check (assertion : Assertion) : Step := ⟨"assert", none, none, none, some assertion⟩

end Step

structure Heading where
  name : String
  baseUrl : String
  description : Option String
  tags : List String
  deriving DecidableEq, Repr

structure TestCase where
  heading : Heading
  steps : List Step
  deriving DecidableEq, Repr

/-- A field of a step; one that is absent shows as such. -/
def shownField (field : Option String) : String := field.getD "None"

def Assertion.place (assertion : Assertion) : String :=
  match assertion.locator with
  | some locator => locator.describe
  | none => "page"

def Assertion.summary (assertion : Assertion) : String :=
  if assertion.kind? = some .urlContains then
    "Assert: URL contains '" ++ shownField assertion.value ++ "'"
  else match filled assertion.value with
    | some value => "Assert: " ++ assertion.type ++ " '" ++ value ++ "' in " ++ assertion.place
    | none => "Assert: " ++ assertion.place ++ " is " ++ assertion.type

def Step.summary (step : Step) : String :=
  match step.kind?, step.locator, step.assertion with
  | some .goto, _, _ => "Navigate to " ++ shownField step.path
  | some .fill, some locator, _ =>
      "Fill " ++ locator.describe ++ " field with \"" ++ shownField step.text ++ "\""
  | some .click, some locator, _ => "Click " ++ locator.describe
  | some .check, _, some assertion => assertion.summary
  | _, _, _ => "Unknown step: " ++ step.action

def TestCase.checklist (case : TestCase) : List String := case.steps.map Step.summary

end PlainScript
