/-
Test cases as documents. Fields without a value are left out; reading a written case gives the
case back.
-/

import PlainScript.Json.Writer
import PlainScript.Schema.Decoder
import PlainScript.TestCase.Basic

namespace PlainScript

open Schema

/-- A field of a document, unless it has no value. -/
def documentField (name : String) (value : Option String) : List (String × Value) :=
  match value with
  | some content => [(name, .text content)]
  | none => []

namespace Locator

/-- The locator with the given fields; role and name belong to role locators only, and a value
to the others only. -/
def build (type : String) (value ariaRole name : Option String) : Checked Locator :=
  if isRole : type = "role" then
    match value with
    | some _ => .fault (.invalid "role locator carries role/name, not value")
    | none => .valid (.role ariaRole name)
  else
    match ariaRole, name with
    | none, none => .valid (.plain type isRole value)
    | _, _ => .fault (.invalid (type ++ " locator cannot carry role/name"))

def decode (source : Source) : Decoder Locator :=
  model source "Locator" fun document =>
    ((fun type value ariaRole name => (type, value, ariaRole, name)) <$>
      required ["type"] plainText document <*>
      possible ["value"] plainText document <*>
      possible ["role"] plainText document <*>
      possible ["name"] plainText document).andThen fun (type, value, ariaRole, name) =>
        build type value ariaRole name

def fields : Locator → List (String × Value)
  | .role ariaRole name =>
      ("type", .text "role") :: documentField "role" ariaRole ++ documentField "name" name
  | .plain type _ value => ("type", .text type) :: documentField "value" value

def document (locator : Locator) : Value := .ofFields locator.fields

end Locator

namespace Assertion

def decode (source : Source) : Decoder Assertion :=
  model source "Assertion" fun document =>
    Assertion.mk <$>
      required ["type"] plainText document <*>
      possible ["locator"] (Locator.decode source) document <*>
      possible ["value"] plainText document

def fields (assertion : Assertion) : List (String × Value) :=
  ("type", .text assertion.type) ::
    (assertion.locator.toList.map fun locator => ("locator", locator.document)) ++
    documentField "value" assertion.value

def document (assertion : Assertion) : Value := .ofFields assertion.fields

end Assertion

namespace Step

def decode (source : Source) : Decoder Step :=
  model source "TestStep" fun document =>
    Step.mk <$>
      required ["action"] plainText document <*>
      possible ["path"] plainText document <*>
      possible ["locator"] (Locator.decode source) document <*>
      possible ["text"] plainText document <*>
      possible ["assertion"] (Assertion.decode source) document

def fields (step : Step) : List (String × Value) :=
  ("action", .text step.action) ::
    documentField "path" step.path ++
    (step.locator.toList.map fun locator => ("locator", locator.document)) ++
    documentField "text" step.text ++
    step.assertion.toList.map fun assertion => ("assertion", assertion.document)

def document (step : Step) : Value := .ofFields step.fields

end Step

namespace Heading

def decode (source : Source) : Decoder Heading :=
  model source "TestMeta" fun document =>
    Heading.mk <$>
      required ["name"] plainText document <*>
      defaulted ["baseUrl", "base_url"] plainText "" document <*>
      possible ["description"] plainText document <*>
      defaulted ["tags"] (listOf source plainText) [] document

def fields (heading : Heading) : List (String × Value) :=
  ("name", .text heading.name) :: ("baseUrl", .text heading.baseUrl) ::
    documentField "description" heading.description ++ [("tags", .texts heading.tags)]

def document (heading : Heading) : Value := .ofFields heading.fields

end Heading

namespace TestCase

def decode (source : Source) : Decoder TestCase :=
  model source "TestCase" fun document =>
    TestCase.mk <$>
      required ["meta"] (Heading.decode source) document <*>
      defaulted ["steps"] (listOf source (Step.decode source)) [] document

def document (case : TestCase) : Value :=
  .ofFields [
    ("meta", case.heading.document),
    ("steps", .list (case.steps.map Step.document))]

/-- The written document, with so many spaces per level. -/
def write (case : TestCase) (indent : Nat) : String :=
  Json.Layout.write ⟨indent, Json.escapeRaw⟩ case.document

/-- The levels of a document that is read. -/
def mostLevels : Nat := 200

/-- Reads a written document. -/
def read (content : String) : Checked TestCase :=
  match Json.parseChars mostLevels content.toList with
  | .ok document => decode .json document
  | .error _ => .fault .malformed

end TestCase

end PlainScript
