/-
A test case is its document: the document is a record of distinct names, and decoding it, or
reading it from its written form, gives the case back.
-/

import PlainScript.Proofs.Json.RoundTrip
import PlainScript.Proofs.Schema.Decoder
import PlainScript.TestCase.Document

namespace PlainScript

open Json Schema

/-- A field of text is a field that is written when it has a value. -/
@[simp]
theorem documentField_eq_map (name : String) (value : Option String) :
    documentField name value = value.toList.map fun content => (name, .text content) := by
  cases value <;> rfl

section

variable {levels : Nat}

theorem holdsDocuments_documentField (name : String) (value : Option String) :
    HoldsDocuments levels [name] (documentField name value) := by
  rw [documentField_eq_map]
  exact .toList name .text value

/-! Documents and their levels -/

theorem Locator.isDocument_document (locator : Locator) :
    IsDocument (levels + 1) locator.document := by
  cases locator with
  | role ariaRole name =>
      exact (((holdsDocuments_documentField "role" ariaRole).cons "type" (.text "role")).append
        (holdsDocuments_documentField "name" name)).isDocument (by decide)
  | plain type notRole value =>
      exact ((holdsDocuments_documentField "value" value).cons "type" (.text type)).isDocument
        (by decide)

theorem Assertion.isDocument_document (assertion : Assertion) :
    IsDocument (levels + 2) assertion.document :=
  (((HoldsDocuments.toList "locator" Locator.isDocument_document assertion.locator).cons
    "type" (.text assertion.type)).append
      (holdsDocuments_documentField "value" assertion.value)).isDocument (by decide)

theorem Step.isDocument_document (step : Step) : IsDocument (levels + 3) step.document :=
  (((((holdsDocuments_documentField "path" step.path).cons "action" (.text step.action)).append
    (.toList "locator" Locator.isDocument_document step.locator)).append
      (holdsDocuments_documentField "text" step.text)).append
        (.toList "assertion" Assertion.isDocument_document step.assertion)).isDocument (by decide)

theorem Heading.isDocument_document (heading : Heading) :
    IsDocument (levels + 2) heading.document :=
  ((((holdsDocuments_documentField "description" heading.description).cons
    "baseUrl" (.text heading.baseUrl)).cons "name" (.text heading.name)).append
      (HoldsDocuments.nil.cons "tags" (isDocument_map fun tag _ => .text tag))).isDocument
        (by decide)

theorem TestCase.isDocument_document (case : TestCase) :
    IsDocument (levels + 5) case.document :=
  ((HoldsDocuments.nil.cons "steps"
    (isDocument_map fun step _ => step.isDocument_document)).cons
      "meta" case.heading.isDocument_document).isDocument (by decide)

end

namespace Locator

theorem decode_document (source : Source) (locator : Locator) :
    decode source locator.document = .valid locator := by
  rw [decode, document, model_ofFields]
  cases locator with
  | role ariaRole name =>
      have hasType : required ["type"] plainText (.ofFields (role ariaRole name).fields) =
          .valid "role" :=
        required_plainText (by simp [fields])
      have noValue : possible ["value"] plainText (.ofFields (role ariaRole name).fields) =
          .valid none :=
        possible_plainText (by simp [fields, List.lookup_cons, List.lookup_append])
      have hasRole : possible ["role"] plainText (.ofFields (role ariaRole name).fields) =
          .valid ariaRole :=
        possible_plainText (by simp [fields, List.lookup_cons, List.lookup_append])
      have hasName : possible ["name"] plainText (.ofFields (role ariaRole name).fields) =
          .valid name :=
        possible_plainText (by simp [fields, List.lookup_cons, List.lookup_append])
      rw [hasType, noValue, hasRole, hasName]
      rfl
  | plain type notRole value =>
      have hasType : required ["type"] plainText (.ofFields (plain type notRole value).fields) =
          .valid type :=
        required_plainText (by simp [fields])
      have hasValue : possible ["value"] plainText (.ofFields (plain type notRole value).fields) =
          .valid value :=
        possible_plainText (by simp [fields, List.lookup_cons])
      have noRole : possible ["role"] plainText (.ofFields (plain type notRole value).fields) =
          .valid none :=
        possible_plainText (by simp [fields, List.lookup_cons])
      have noName : possible ["name"] plainText (.ofFields (plain type notRole value).fields) =
          .valid none :=
        possible_plainText (by simp [fields, List.lookup_cons])
      rw [hasType, hasValue, noRole, noName]
      simp [map_valid, seq_valid, Checked.andThen, build, notRole]

/-- A field with a locator that may be left out. -/
theorem possible_decode {source : Source} {value : Value} {name : String}
    {locator : Option Locator} (found : value.field? name = locator.map document) :
    possible [name] (decode source) value = .valid locator :=
  possible_of_field? document found (fun _ => nofun) (decode_document source)

end Locator

namespace Assertion

theorem decode_document (source : Source) (assertion : Assertion) :
    decode source assertion.document = .valid assertion := by
  have hasType : required ["type"] plainText assertion.document = .valid assertion.type :=
    required_plainText (by simp [document, fields])
  have hasLocator : possible ["locator"] (Locator.decode source) assertion.document =
      .valid assertion.locator :=
    Locator.possible_decode (by simp [document, fields, List.lookup_cons, List.lookup_append])
  have hasValue : possible ["value"] plainText assertion.document = .valid assertion.value :=
    possible_plainText (by simp [document, fields, List.lookup_cons, List.lookup_append])
  change _ <$> required _ _ assertion.document <*> possible _ _ assertion.document <*>
    possible _ _ assertion.document = _
  rw [hasType, hasLocator, hasValue]
  rfl

/-- A field with an assertion that may be left out. -/
theorem possible_decode {source : Source} {value : Value} {name : String}
    {assertion : Option Assertion} (found : value.field? name = assertion.map document) :
    possible [name] (decode source) value = .valid assertion :=
  possible_of_field? document found (fun _ => nofun) (decode_document source)

end Assertion

namespace Step

theorem decode_document (source : Source) (step : Step) :
    decode source step.document = .valid step := by
  have hasAction : required ["action"] plainText step.document = .valid step.action :=
    required_plainText (by simp [document, fields])
  have hasPath : possible ["path"] plainText step.document = .valid step.path :=
    possible_plainText (by simp [document, fields, List.lookup_cons, List.lookup_append])
  have hasLocator : possible ["locator"] (Locator.decode source) step.document =
      .valid step.locator :=
    Locator.possible_decode (by simp [document, fields, List.lookup_cons, List.lookup_append])
  have hasText : possible ["text"] plainText step.document = .valid step.text :=
    possible_plainText (by simp [document, fields, List.lookup_cons, List.lookup_append])
  have hasAssertion : possible ["assertion"] (Assertion.decode source) step.document =
      .valid step.assertion :=
    Assertion.possible_decode (by simp [document, fields, List.lookup_cons, List.lookup_append])
  change _ <$> required _ _ step.document <*> possible _ _ step.document <*>
    possible _ _ step.document <*> possible _ _ step.document <*> possible _ _ step.document = _
  rw [hasAction, hasPath, hasLocator, hasText, hasAssertion]
  rfl

end Step

namespace Heading

theorem decode_document (source : Source) (heading : Heading) :
    decode source heading.document = .valid heading := by
  have hasName : required ["name"] plainText heading.document = .valid heading.name :=
    required_plainText (by simp [document, fields])
  have hasBaseUrl : defaulted ["baseUrl", "base_url"] plainText "" heading.document =
      .valid heading.baseUrl :=
    defaulted_plainText (by simp [document, fields, List.lookup_cons])
  have hasDescription : possible ["description"] plainText heading.document =
      .valid heading.description :=
    possible_plainText (by simp [document, fields, List.lookup_cons, List.lookup_append])
  have hasTags : defaulted ["tags"] (listOf source plainText) [] heading.document =
      .valid heading.tags :=
    defaulted_of_field?
      (by simp [document, fields, Value.texts, List.lookup_cons, List.lookup_append])
      (listOf_map source .text (fun _ => rfl) heading.tags)
  change _ <$> required _ _ heading.document <*> defaulted _ _ _ heading.document <*>
    possible _ _ heading.document <*> defaulted _ _ _ heading.document = _
  rw [hasName, hasBaseUrl, hasDescription, hasTags]
  rfl

end Heading

namespace TestCase

theorem decode_document (source : Source) (case : TestCase) :
    decode source case.document = .valid case := by
  have hasHeading : required ["meta"] (Heading.decode source) case.document =
      .valid case.heading :=
    required_of_field? (by simp [document])
      (case.heading.decode_document source)
  have hasSteps : defaulted ["steps"] (listOf source (Step.decode source)) [] case.document =
      .valid case.steps :=
    defaulted_of_field? (by simp [document, List.lookup_cons])
      (listOf_map source Step.document (Step.decode_document source) case.steps)
  change _ <$> required _ _ case.document <*> defaulted _ _ _ case.document = _
  rw [hasHeading, hasSteps]
  rfl

/-- Every case comes back from its document, and from its written form with any indent. -/
theorem decode_and_read_eq (case : TestCase) :
    (∀ source, decode source case.document = .valid case) ∧
      ∀ indent, read (case.write indent) = .valid case := by
  refine ⟨fun source => case.decode_document source, fun indent => ?_⟩
  have parsed : parseChars mostLevels (case.write indent).toList = .ok case.document :=
    parseChars_write indent case.isDocument_document
  rw [read, parsed]
  exact case.decode_document .json

end TestCase

end PlainScript
