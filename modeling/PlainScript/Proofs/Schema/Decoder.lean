/-
Decoders on documents that encode values: a field is found under its name, and what it encodes
comes back.
-/

import PlainScript.Schema.Decoder

namespace PlainScript.Schema

/-! Fields -/

/-- A field of a record is looked up among the given ones. -/
@[simp]
theorem field?_ofFields (fields : List (String × Value)) (name : String) :
    (Value.ofFields fields).field? name = fields.lookup name := by
  rw [Value.ofFields, Value.field?]
  induction fields with
  | nil => rfl
  | cons first fields ih =>
      rw [List.map_cons, List.find?_cons, List.lookup_cons]
      by_cases same : first.1 = name
      · simp only [same, beq_self_eq_true, Option.map_some]
      · have otherwise : (name == first.1) = false := beq_false_of_ne (Ne.symm same)
        simp only [beq_false_of_ne same, otherwise]
        exact ih

section Optional

variable {α : Type} (name : String) (encode : α → Value) (value : Option α)

/-- A field that is written when it has a value is found when it has one. -/
@[simp]
theorem lookup_toList_self :
    (value.toList.map fun content => (name, encode content)).lookup name = value.map encode := by
  cases value <;> simp

/-- Another name is not found there. -/
@[simp]
theorem lookup_toList_of_ne {other : String} (differs : other ≠ name) :
    (value.toList.map fun content => (name, encode content)).lookup other = none := by
  cases value with
  | none => rfl
  | some content =>
      simp only [Option.toList_some, List.map_cons, List.lookup_cons, beq_false_of_ne differs]
      rfl

end Optional

/-! Decoders -/

theorem map_valid {α β : Type} (f : α → β) (value : α) :
    f <$> Checked.valid value = .valid (f value) :=
  rfl

theorem seq_valid {α β : Type} (f : α → β) (value : α) :
    Checked.valid f <*> Checked.valid value = .valid (f value) :=
  rfl

theorem model_ofFields {α : Type} (source : Source) (name : String) (decode : Value → Checked α)
    (fields : List (String × Value)) :
    model source name decode (.ofFields fields) = decode (.ofFields fields) :=
  rfl

section Fields

variable {α : Type} {decoder : Decoder α} {document : Value} {name : String} {others : List String}

/-- What a field holds is decoded, where the field has to be there. -/
theorem required_of_field? {held : Value} {value : α} (found : document.field? name = some held)
    (decodes : decoder held = .valid value) :
    required (name :: others) decoder document = .valid value := by
  simp [required, found, decodes, Checked.under]

/-- What a field holds is decoded, where there is a default. -/
theorem defaulted_of_field? {held : Value} {value default : α}
    (found : document.field? name = some held) (decodes : decoder held = .valid value) :
    defaulted (name :: others) decoder default document = .valid value := by
  simp [defaulted, found, decodes, Checked.under]

/-- Null apart, an optional value is decoded as the value. -/
theorem optional_of_ne_null {decoder : Decoder α} {held : Value} (notNull : held ≠ .null) :
    optional decoder held = (decoder held).map some := by
  cases held with
  | null => exact absurd rfl notNull
  | _ => rfl

/-- What a field may hold is decoded, and so is its absence. -/
theorem possible_of_field? (encode : α → Value) {value : Option α}
    (found : document.field? name = value.map encode)
    (notNull : ∀ content, encode content ≠ .null)
    (decodes : ∀ content, decoder (encode content) = .valid content) :
    possible [name] decoder document = .valid value := by
  cases value with
  | none => simp [possible, defaulted, found]
  | some content =>
      refine defaulted_of_field? found ?_
      rw [optional_of_ne_null (notNull content), decodes]
      rfl

/-- A field of text that has to be there. -/
theorem required_plainText {content : String}
    (found : document.field? name = some (.text content)) :
    required (name :: others) plainText document = .valid content :=
  required_of_field? found rfl

/-- A field of text with a default. -/
theorem defaulted_plainText {content default : String}
    (found : document.field? name = some (.text content)) :
    defaulted (name :: others) plainText default document = .valid content :=
  defaulted_of_field? found rfl

/-- A field of text that may be left out. -/
theorem possible_plainText {value : Option String}
    (found : document.field? name = value.map .text) :
    possible [name] plainText document = .valid value :=
  possible_of_field? .text found (by simp) fun _ => rfl

/-- A whole number that has to be there. -/
theorem required_wholeNumber {number : Int} (found : document.field? name = some (.int number)) :
    required (name :: others) wholeNumber document = .valid number :=
  required_of_field? found rfl

/-- A whole number that may be left out. -/
theorem possible_wholeNumber {value : Option Int}
    (found : document.field? name = value.map .int) :
    possible [name] wholeNumber document = .valid value :=
  possible_of_field? .int found (by simp) fun _ => rfl

end Fields

/-- The items of a list of encoded values come back. -/
theorem listOf_map {α : Type} {decoder : Decoder α} (source : Source) (encode : α → Value)
    (decodes : ∀ value, decoder (encode value) = .valid value)
    (items : List α) : listOf source decoder (.list (items.map encode)) = .valid items := by
  have all : ∀ start, Checked.all (((items.map encode).zipIdx start).map fun item =>
      (decoder item.1).under (toString item.2)) = .valid items := by
    induction items with
    | nil => exact fun _ => rfl
    | cons first items ih =>
        intro start
        rw [List.map_cons, List.zipIdx_cons, List.map_cons, Checked.all, ih, decodes]
        rfl
  exact all 0

/-- The texts of a record come back. -/
theorem mapping_ofTexts (source : Source) (entries : List (String × String)) :
    mapping source (.ofTexts entries) = .valid entries := by
  rw [Value.ofTexts, Value.ofFields, mapping, List.map_map, List.map_map]
  induction entries with
  | nil => rfl
  | cons entry entries ih =>
      rw [List.map_cons, Checked.all, ih]
      rfl

end PlainScript.Schema
