/-
Elements of analyzed pages as their files define them. A definition is looked at only where it
is needed, so that what is wrong with it may never show.
-/

import PlainScript.File.Directory
import PlainScript.Literal.Selector
import PlainScript.Schema.Decoder
import PlainScript.TestCase.Document
import PlainScript.Text.Search

namespace PlainScript.Catalog

/-- Why a definition is of no use. -/
inductive Fault where
  /-- Something without fields, or a field that should be text. -/
  | unfit
  /-- Something without items. -/
  | noItems
  | invalid (faults : List Schema.Fault)
  /-- A file that is not settled here. -/
  | file (fault : File.DocumentFault)
  deriving DecidableEq, Repr

def Fault.severity : Fault → Severity
  | .invalid faults => .reported (Schema.report faults)
  | .unfit | .noItems => .breaking
  | .file fault => fault.severity

structure Element where
  definition : Value

def textOf : Value → Except Fault String
  | .text content => .ok content
  | _ => .error .unfit

namespace Element

/-- A field of the definition, whatever it holds. -/
def field? (element : Element) (name : String) : Except Fault (Option Value) :=
  match element.definition with
  | .record _ => .ok (element.definition.field? name)
  | _ => .error .unfit

/-- A field that is neither left out nor empty. -/
def filled? (element : Element) (name : String) : Except Fault (Option Value) :=
  (element.field? name).map (Option.filter Value.isPresent)

/-- The text of a field in lower case, empty if there is none. -/
def lowered (element : Element) (name : String) : Except Fault String := do
  match ← element.filled? name with
  | none => return ""
  | some value => return Text.lower (← textOf value)

/-- A locator with the given fields. -/
def locate (type : String) (fields : List (String × Value)) : Except Fault Locator :=
  match Locator.decode .memory (.ofFields (("type", .text type) :: fields)) with
  | .valid locator => .ok locator
  | .faulty faults => .error (.invalid faults)

/-- The role and the name, if the role is not that of a plain field. -/
def roleAndName? (element : Element) : Except Fault (Option (Value × Value)) := do
  match ← element.filled? "role", ← element.filled? "name" with
  | some ariaRole, some name =>
      if ariaRole.same (.text "input") || ariaRole.same (.text "textarea") then return none
      else return some (ariaRole, name)
  | _, _ => return none

/-- The last resort: the tag and the name, even an empty one. -/
def tagLocator (element : Element) : Except Fault Locator := do
  let tag := (← element.field? "tag").getD (.text "*")
  let name ← textOf ((← element.field? "name").getD (.text ""))
  return .css (tag.shown ++ "[name=" ++ Literal.css name ++ "]")

/-- The locator without test id, id and label. -/
def looseLocator (element : Element) : Except Fault Locator := do
  match ← element.roleAndName?, ← element.filled? "placeholder", ← element.filled? "class" with
  | some (ariaRole, name), _, _ => locate "role" [("role", ariaRole), ("name", name)]
  | none, some placeholder, _ =>
      return .css ("[placeholder=" ++ Literal.css (← textOf placeholder) ++ "]")
  | none, none, some classes =>
      return .css ("." ++ ".".intercalate (Text.words (← textOf classes)))
  | none, none, none => element.tagLocator

/-- The most stable locator that the definition allows. -/
def locator (element : Element) : Except Fault Locator := do
  match ← element.filled? "data-testid", ← element.filled? "id", ← element.filled? "label" with
  | some testId, _, _ => return .css ("[data-testid=" ++ Literal.css (← textOf testId) ++ "]")
  | none, some id, _ => locate "id" [("value", id)]
  | none, none, some label => locate "label" [("value", label)]
  | none, none, none => element.looseLocator

end Element

/-- How well a text fits a target: in full, in part or not at all. -/
def fit (full part : Nat) (target value : String) : Nat :=
  if value.isEmpty then 0
  else if target == value then full
  else if Text.contains value target || (Text.contains target value && 1 < value.length) then part
  else 0

/-- How well an element fits a target; names and labels count most. -/
def Element.score (target : String) (element : Element) : Except Fault Nat := do
  let target := Text.lower target
  let name ← element.lowered "name"
  let label ← element.lowered "label"
  let placeholder ← element.lowered "placeholder"
  let ariaRole ← element.lowered "role"
  return fit 10 5 target name + fit 10 5 target label + fit 8 4 target placeholder +
    (if Text.contains ariaRole target then 2 else 0)

/-- Takes an element in place of the best one so far if it fits better. -/
def better (target : String) (best : Option Element × Nat) (element : Element) :
    Except Fault (Option Element × Nat) := do
  let score ← element.score target
  return if best.2 < score then (some element, score) else best

/-- The first of the elements that fit best, with its score; none if no element fits at all. -/
def best (target : String) (elements : List Element) : Except Fault (Option Element × Nat) :=
  elements.foldlM (better target) (none, 0)

/-- Kinds of field by the words that name them. -/
def synonyms : List (List String) := [
  ["username", "user", "login", "userid", "user_name"],
  ["password", "pass", "pwd", "secret"],
  ["email", "e-mail", "mail", "email_address"],
  ["name", "full_name", "fullname", "first_name", "last_name"],
  ["phone", "telephone", "mobile", "cell"],
  ["address", "street", "location"],
  ["city", "town"],
  ["zip", "postal", "zipcode", "postcode"],
  ["country", "nation"],
  ["state", "province", "region"]]

namespace Element

/-- All text that may name the kind of field. -/
def searchable (element : Element) : Except Fault String := do
  let texts ← ["name", "id", "label", "placeholder"].mapM element.lowered
  return " ".intercalate texts

/-- Whether the element is a field that one of the words names. -/
def isNamedBy (words : List String) (element : Element) : Except Fault Bool := do
  let tag := (← element.field? "tag").getD .null
  if tag.same (.text "input") || tag.same (.text "textarea") then
    let text ← element.searchable
    return words.any (Text.contains text)
  else return false

end Element

/-- The first field named by the first group of synonyms that the target belongs to and that
names some field. -/
def namesake? (target : String) (elements : List Element) : Except Fault (Option Element) :=
  let target := Text.trim (Text.lower target)
  (synonyms.filter fun words => words.any (Text.contains target)).findSomeM? fun words =>
    elements.findM? (Element.isNamedBy words)

end PlainScript.Catalog
