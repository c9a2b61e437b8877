/-
Pages as a browser shows them, sites as the pages behind addresses, and what a survey records of the
elements of a page.
-/

import PlainScript.Json.Writer
import PlainScript.Run.Page
import PlainScript.Text.Blank

namespace PlainScript

/-- An element of a page. -/
structure PageElement where
  attributes : List (String × String) := []
  text : Option String := none
  isVisible : Bool := true
  isEnabled : Bool := true
  /-- Whether it is gone when it is looked at. -/
  isDetached : Bool := false
  deriving DecidableEq, Repr

namespace PageElement

/-- The value of an attribute; an empty one counts as none. -/
def get? (element : PageElement) (name : String) : Option String :=
  (element.attributes.lookup name).filter (!·.isEmpty)

def get (element : PageElement) (name : String) : String :=
  (element.get? name).getD ""

/-- Whether a user can work with the element, and it does not ask to be left alone. -/
def isUsable (element : PageElement) : Bool :=
  (element.get? "data-crawler-ignore").isNone && !element.isDetached && element.isVisible &&
    element.isEnabled

end PageElement

structure LoadedPage where
  url : String
  title : String := ""
  buttons : List PageElement := []
  /-- The fields of one line, without those that are hidden or buttons. -/
  inputs : List PageElement := []
  links : List PageElement := []
  textAreas : List PageElement := []
  /-- The texts of labels, by the ids of their fields. -/
  labels : List (String × String) := []
  deriving DecidableEq, Repr

/-- What an address leads to. -/
abbrev Site := (url : String) → Except PageFault LoadedPage

/-- What comes of an address that no page is known for. -/
def Site.unknown (url : String) : PageFault := ⟨false, "net::ERR_NAME_NOT_RESOLVED at " ++ url⟩

end PlainScript

namespace PlainScript.Survey

inductive ElementKind where
  | button
  | input
  | link
  | textArea
  deriving DecidableEq, Repr

namespace ElementKind

def name : ElementKind → String
  | button => "button"
  | input => "input"
  | link => "link"
  | textArea => "textarea"

/-- Whether elements of the kind have labels. -/
def hasLabel : ElementKind → Bool
  | input | textArea => true
  | button | link => false

end ElementKind

structure Element where
  kind : ElementKind
  id : String
  name : String
  text : String
  label : String
  role : String
  testId : String
  styles : String
  placeholder : String
  /-- The type of a field of one line. -/
  inputType : Option String
  deriving DecidableEq, Repr

namespace Element

/-- The label of an element: its own, or that which names its id. -/
def labelOf (page : LoadedPage) (element : PageElement) : String :=
  let own := element.get "aria-label"
  Text.oneLine <|
    if own.isEmpty then
      match element.get? "id" with
      | some id => (page.labels.lookup id).getD ""
      | none => ""
    else own

/-- The text of an element, at most fifty characters. -/
def textOf (element : PageElement) : String :=
  .ofList ((Text.trim (element.text.getD "")).toList.take 50)

/-- The first text that is not empty. -/
def firstFilled (texts : List String) (default : String) : String :=
  (texts.find? (!·.isEmpty)).getD default

def ofPage (page : LoadedPage) (kind : ElementKind) (element : PageElement) : Element :=
  let text := textOf element
  let label := if kind.hasLabel then labelOf page element else ""
  let placeholder := element.get "placeholder"
  let id := element.get "id"
  let testId := element.get "data-testid"
  { kind
    id
    name := firstFilled [text, label, placeholder, element.get "name", id, testId]
      "Unnamed Element"
    text
    label
    role := (element.get? "role").getD kind.name
    testId
    styles := element.get "class"
    placeholder
    inputType :=
      if kind == .input then some ((element.get? "type").getD "text") else none }

/-- What tells elements apart. -/
def signature (element : Element) : List String :=
  [element.kind.name, element.name, element.testId, element.role]

def document (element : Element) : Value :=
  .ofFields ([
    ("id", .text element.id),
    ("name", .text element.name),
    ("tag", .text element.kind.name),
    ("text", .text element.text),
    ("label", .text element.label),
    ("role", .text element.role),
    ("data-testid", .text element.testId),
    ("class", .text element.styles),
    ("placeholder", .text element.placeholder)] ++
    element.inputType.toList.map fun type => ("type", .text type))

end Element

/-- Leaves out what has the signature of something before it. -/
def distinct {α : Type} (same : α → α → Bool) (items : List α) : List α := items.eraseDupsBy same

/-- The usable elements of a page, each once: buttons, fields, links with text, text areas. -/
def elementsOf (page : LoadedPage) : List Element :=
  let read (kind : ElementKind) (elements : List PageElement) :=
    (elements.filter PageElement.isUsable).map (Element.ofPage page kind)
  let links := page.links.filter fun link => !(Text.trim (link.text.getD "")).isEmpty
  distinct (fun first second => first.signature == second.signature) <|
    read .button page.buttons ++ read .input page.inputs ++ read .link links ++
      read .textArea page.textAreas

/-- What is recorded of a page. -/
def pageDocument (page : LoadedPage) : Value :=
  .ofFields [
    ("url", .text page.url),
    ("title", .text page.title),
    ("elements", .list ((elementsOf page).map Element.document))]

def pageText (page : LoadedPage) : String := Json.readable.write (pageDocument page)

/-- Why definitions of elements cannot be told apart. -/
inductive DefinitionFault where
  | noRecord
  | fieldMissing (name : String)
  | unfit
  deriving DecidableEq, Repr

/-- Whether a value can be part of a signature. -/
def isKey : Value → Bool
  | .list _ | .set _ | .record _ => false
  | _ => true

/-- What tells the definitions of elements apart. -/
def definitionSignature (definition : Value) : Except DefinitionFault (List Value) :=
  match definition with
  | .record _ => do
      let parts ← ["tag", "name", "data-testid", "role"].mapM fun name =>
        match definition.field? name with
        | some part => .ok part
        | none => .error (.fieldMissing name)
      if parts.all isKey then return parts else throw .unfit
  | _ => .error .noRecord

/-- Definitions of elements, each once. -/
def distinctDefinitions (definitions : List Value) : Except DefinitionFault (List Value) := do
  let signed ← definitions.mapM fun definition =>
    (definitionSignature definition).map fun signature => (definition, signature)
  return (distinct (fun first second => Value.sameItems first.2 second.2) signed).map (·.1)

end PlainScript.Survey
