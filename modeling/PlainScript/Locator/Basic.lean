/-
Locators name an element of a page. A role locator carries a role and a name; a locator of any
other type carries a value. In the place of a selector that a locator lacks stands a marker.
-/

namespace PlainScript

inductive Locator where
  | role (role name : Option String)
  | plain (type : String) (notRole : type ≠ "role") (value : Option String)
  deriving DecidableEq, Repr

/-- The types whose value has a meaning. -/
inductive LocatorKind where
  | label
  | id
  | text
  | css
  | xpath
  deriving DecidableEq, Repr

def LocatorKind.ofName? : String → Option LocatorKind
  | "label" => some label
  | "id" => some id
  | "text" => some text
  | "css" => some css
  | "xpath" => some xpath
  | _ => none

namespace Locator

def label (value : String) : Locator := .plain "label" (by decide) value

def id (value : String) : Locator := .plain "id" (by decide) value

def text (value : String) : Locator := .plain "text" (by decide) value

def css (value : String) : Locator := .plain "css" (by decide) value

def xpath (value : String) : Locator := .plain "xpath" (by decide) value

def type : Locator → String
  | .role _ _ => "role"
  | .plain type _ _ => type

def value? : Locator → Option String
  | .role _ _ => none
  | .plain _ _ value => value

def name? : Locator → Option String
  | .role _ name => name
  | .plain _ _ _ => none

end Locator

/-- The text unless there is none or it is empty. -/
def filled (text : Option String) : Option String := text.filter (!·.isEmpty)

/-- The locator in words. -/
def Locator.describe : Locator → String
  | .role ariaRole name => (filled name).getD "?" ++ " " ++ (filled ariaRole).getD "element"
  | .plain _ _ value => (filled value).getD "?"

inductive Unresolved where
  | noLocator (user : String)
  | roleMissing
  | nameMissing (role : String)
  | valueMissing (type : String)
  | unknownType (type : String)
  | xpathUnsupported
  deriving DecidableEq, Repr

namespace Unresolved

/-- The word that every marker begins with. -/
def tag : String := "UNRESOLVED_SELECTOR"

def reason : Unresolved → String
  | noLocator user => user ++ " has no locator"
  | roleMissing => "role locator requires a role"
  | nameMissing role => "role=" ++ role ++ " locator requires a name"
  | valueMissing type => type ++ " locator requires a value"
  | unknownType type => "unknown locator type '" ++ type ++ "'"
  | xpathUnsupported => "xpath locators need the cypress-xpath plugin"

def marker (cause : Unresolved) : String := tag ++ ": " ++ cause.reason

end Unresolved

/-- A locator with all that its type needs. -/
inductive Target where
  | role (role name : String)
  | plain (kind : LocatorKind) (value : String)
  deriving DecidableEq, Repr

/-- The complete locator, or what it lacks. -/
def Locator.target : Locator → Except Unresolved Target
  | .role ariaRole name =>
      match filled ariaRole with
      | none => .error .roleMissing
      | some ariaRole =>
          match filled name with
          | none => .error (.nameMissing ariaRole)
          | some name => .ok (.role ariaRole name)
  | .plain type _ value =>
      match filled value with
      | none => .error (.valueMissing type)
      | some value =>
          match LocatorKind.ofName? type with
          | none => .error (.unknownType type)
          | some kind => .ok (.plain kind value)

end PlainScript
