/-
The selectors of complete locators in each framework.
-/

import PlainScript.Literal.Quoted
import PlainScript.Literal.Selector
import PlainScript.Locator.Basic

namespace PlainScript

inductive Framework where
  | playwright
  | selenium
  | cypress
  deriving DecidableEq, Repr

namespace Framework

def name : Framework → String
  | playwright => "playwright"
  | selenium => "selenium"
  | cypress => "cypress"

def ofName? : String → Option Framework
  | "playwright" => some playwright
  | "selenium" => some selenium
  | "cypress" => some cypress
  | _ => none

end Framework

/-- A framework or a language that no code can be written for. -/
inductive Unsupported where
  | framework (name : String)
  | language (framework language : String) (expected : List String)
  deriving DecidableEq, Repr

def Unsupported.message : Unsupported → String
  | framework name => "Unsupported framework: " ++ name
  | language owner spoken expected =>
      "Unsupported language for " ++ owner ++ ": " ++ spoken ++
        " (expected one of " ++ ", ".intercalate expected ++ ")"

namespace Target

/-- The selector of the Playwright engine. -/
def playwright : Target → String
  | role ariaRole name => "role=" ++ ariaRole ++ "[name=" ++ Literal.css name ++ "]"
  | plain .label value => "label:has-text(" ++ Literal.css value ++ ")"
  | plain .id value => "#" ++ value
  | plain .text value => "text=" ++ value
  | plain .css value => value
  | plain .xpath value => "xpath=" ++ value

/-- The selector of Cypress, which has none for XPath. -/
def cypress : Target → Except Unresolved String
  | role ariaRole name =>
      .ok (ariaRole ++ ":contains(" ++ Literal.css name ++ "), [role=\"" ++ ariaRole ++
        "\"]:contains(" ++ Literal.css name ++ ")")
  | plain .label value => .ok ("label:contains(" ++ Literal.css value ++ ") + input")
  | plain .id value => .ok ("#" ++ value)
  | plain .text value => .ok ("[data-cy=" ++ Literal.css value ++ "]")
  | plain .css value => .ok value
  | plain .xpath _ => .error .xpathUnsupported

end Target

/-- The strategies by which a Selenium driver looks elements up. -/
inductive Lookup where
  | id
  | css
  | xpath
  deriving DecidableEq, Repr

def Lookup.pythonName : Lookup → String
  | id => "By.ID"
  | css => "By.CSS_SELECTOR"
  | xpath => "By.XPATH"

def Lookup.javaName : Lookup → String
  | id => "By.id"
  | css => "By.cssSelector"
  | xpath => "By.xpath"

/-- The strategy and its text; labels, roles and texts are looked up by XPath. -/
def Target.selenium : Target → Lookup × String
  | role ariaRole name =>
      (.xpath, "//*[(self::" ++ ariaRole ++ " or @role='" ++ ariaRole ++
        "') and normalize-space()=" ++ Literal.xpath name ++ "]")
  | plain .label value =>
      (.xpath, "//label[normalize-space()=" ++ Literal.xpath value ++ "]/following::input[1]")
  | plain .id value => (.id, value)
  | plain .text value => (.xpath, "//*[contains(text(), " ++ Literal.xpath value ++ ")]")
  | plain .css value => (.css, value)
  | plain .xpath value => (.xpath, value)

/-- The argument that finds an element, in Python or in Java. -/
def seleniumArgument (python : Bool) (found : Lookup × String) : String :=
  if python then found.1.pythonName ++ ", " ++ Literal.quoteDouble found.2
  else found.1.javaName ++ "(" ++ Literal.quoteDouble found.2 ++ ")"

namespace Locator

/-- The selector, or the marker of what is missing. -/
def playwright (locator : Locator) : String :=
  match locator.target with
  | .ok target => target.playwright
  | .error cause => cause.marker

def cypress (locator : Locator) : String :=
  match locator.target.bind Target.cypress with
  | .ok selector => selector
  | .error cause => cause.marker

/-- A marker is looked up as if it were a CSS selector. -/
def selenium (python : Bool) (locator : Locator) : String :=
  match locator.target with
  | .ok target => seleniumArgument python target.selenium
  | .error cause => seleniumArgument python (.css, cause.marker)

/-- The selector for a framework given by name; only Selenium's depends on the language. -/
def selector (locator : Locator) (framework : String) (language : Option String) :
    Except Unsupported String :=
  match Framework.ofName? framework with
  | some .playwright => .ok locator.playwright
  | some .selenium => .ok (locator.selenium (language == some "python"))
  | some .cypress => .ok locator.cypress
  | none => .error (.framework framework)

end Locator

end PlainScript
