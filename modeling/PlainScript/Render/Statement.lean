/-
Dialects are a framework together with a language that it has code in. Statements are what a step does
in code, whatever the dialect: a step that cannot be carried out becomes a comment, and a value that is
missing becomes a marker.
-/

import PlainScript.Locator.Selector
import PlainScript.TestCase.Basic
import PlainScript.TestCase.Marker

namespace PlainScript

inductive Dialect where
  | playwrightTypeScript
  | playwrightJavaScript
  | playwrightPython
  | seleniumPython
  | seleniumJava
  | cypressTypeScript
  | cypressJavaScript
  deriving DecidableEq, Repr

namespace Dialect

def framework : Dialect → Framework
  | playwrightTypeScript | playwrightJavaScript | playwrightPython => .playwright
  | seleniumPython | seleniumJava => .selenium
  | cypressTypeScript | cypressJavaScript => .cypress

def language : Dialect → String
  | playwrightTypeScript | cypressTypeScript => "typescript"
  | playwrightJavaScript | cypressJavaScript => "javascript"
  | playwrightPython | seleniumPython => "python"
  | seleniumJava => "java"

/-- The dialects of a framework in the order in which they are offered. -/
def ofFramework : Framework → List Dialect
  | .playwright => [playwrightTypeScript, playwrightJavaScript, playwrightPython]
  | .selenium => [seleniumPython, seleniumJava]
  | .cypress => [cypressTypeScript, cypressJavaScript]

/-- The dialect with the given names. -/
def find (framework language : String) : Except Unsupported Dialect :=
  match Framework.ofName? framework with
  | none => .error (.framework framework)
  | some known =>
      match (ofFramework known).find? (·.language == language) with
      | some dialect => .ok dialect
      | none => .error (.language framework language ((ofFramework known).map Dialect.language))

/-- What comments begin with. -/
def comment : Dialect → String
  | playwrightPython | seleniumPython => "#"
  | _ => "//"

/-- The extension of the files of a dialect, with its dot. -/
def extension : Dialect → String
  | playwrightTypeScript => ".spec.ts"
  | playwrightJavaScript => ".spec.js"
  | playwrightPython | seleniumPython => ".py"
  | seleniumJava => ".java"
  | cypressTypeScript => ".cy.ts"
  | cypressJavaScript => ".cy.js"

end Dialect

inductive Statement where
  | note (text : String)
  | goto (url : String)
  | fill (target text : String)
  | click (target : String)
  | checkUrl (value : String)
  | checkElement (check : ElementCheck) (target value : String)
  deriving DecidableEq, Repr

/-- Whether a text is an address with its scheme. -/
def isWebAddress (text : String) : Bool :=
  Text.startsWith text "http://" || Text.startsWith text "https://"

def dropSlashes (text : String) : String := .ofList (text.toList.dropWhile (· == '/'))

def dropLastSlashes (text : String) : String :=
  .ofList (Chars.trimRightWhere (· == '/') text.toList)

/-- A path below a base address, with one slash between them. -/
def joinUrl (base path : String) : String := dropLastSlashes base ++ "/" ++ dropSlashes path

/-- Where a path leads: it may be an address of its own, and without a base address it stays
as it is. -/
def targetUrl (base path : String) : String :=
  if isWebAddress path then path
  else if isWebAddress base then joinUrl base path
  else path

namespace Dialect

/-- The argument that finds an element; `user` says what lacks a locator. -/
def target (dialect : Dialect) (user : String) (locator : Option Locator) : String :=
  let missing := (Unresolved.noLocator user).marker
  match dialect.framework with
  | .playwright => (locator.map Locator.playwright).getD missing
  | .cypress => (locator.map Locator.cypress).getD missing
  | .selenium =>
      let python := dialect = .seleniumPython
      (locator.map (Locator.selenium python)).getD (seleniumArgument python (.css, missing))

def assertionStatement (dialect : Dialect) (assertion : Assertion) : Statement :=
  match assertion.kind? with
  | some .urlContains =>
      .checkUrl ((filled assertion.value).getD (Marker.unspecified "expected url"))
  | some (.element check) =>
      .checkElement check (dialect.target "assertion" assertion.locator)
        ((filled assertion.value).getD (Marker.unspecified "expected value"))
  | none => .note ("Unknown assertion type: " ++ assertion.type)

/-- The statement of a step of a case with the given base address. -/
def statement (dialect : Dialect) (base : String) (step : Step) : Statement :=
  match step.kind? with
  | some .goto =>
      match filled step.path with
      | some path => .goto (targetUrl base path)
      | none => .note (Marker.unspecified "url")
  | some .fill =>
      .fill (dialect.target "fill" step.locator)
        ((filled step.text).getD (Marker.unspecified "text"))
  | some .click => .click (dialect.target "click" step.locator)
  | some .check =>
      match step.assertion with
      | some assertion => dialect.assertionStatement assertion
      | none => .note (Marker.unspecified "assertion")
  | none => .note ("Unknown action: " ++ step.action)

end Dialect

end PlainScript
