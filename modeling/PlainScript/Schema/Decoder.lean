/-
Reading typed values out of documents. Numbers and truth values may be written as text.
-/

import PlainScript.Number.Integer
import PlainScript.Schema.Checked
import PlainScript.Text.Case
import PlainScript.Value.Display

namespace PlainScript.Schema

/-- Where a document comes from; the wording for containers differs. -/
inductive Source where
  | memory
  | json
  deriving DecidableEq, Repr

abbrev Decoder (α : Type) := Value → Checked α

/-- The text that bytes encode. -/
def utf8? (bytes : List UInt8) : Option String :=
  String.fromUTF8? ⟨bytes.toArray⟩

def plainText : Decoder String
  | .text content => .valid content
  | .bytes content =>
      match utf8? content with
      | some content => .valid content
      | none => .fault .notText
  | _ => .fault .notText

/-- The range of whole numbers that a float may be taken for. -/
def fitsWord (number : Int) : Bool :=
  -0x8000000000000000 < number && number < 0x8000000000000000

def wholeNumber : Decoder Int
  | .int number => .valid number
  | .bool truth => .valid (if truth then 1 else 0)
  | .float (.finite negative significand exponent) =>
      match (Number.Double.finite negative significand exponent).toInt? with
      | some number => if fitsWord number then .valid number else .fault .oversizedInt
      | none => .fault .fractionalInt
  | .float _ => .fault .infiniteInt
  | .text content =>
      match Number.readWhole? content with
      | some number => .valid number
      | none => .fault .unreadableInt
  | _ => .fault .notInt

def truths : List String := ["1", "on", "t", "true", "y", "yes"]

def untruths : List String := ["0", "off", "f", "false", "n", "no"]

def boolOfInt (number : Int) : Checked Bool :=
  if number == 1 then .valid true
  else if number == 0 then .valid false
  else .fault .unreadableBool

def truth : Decoder Bool
  | .bool truth => .valid truth
  | .int number => if fitsWord number then boolOfInt number else .fault .notBool
  | .float number =>
      match number.toInt? with
      | some number => if fitsWord number then boolOfInt number else .fault .notBool
      | none => .fault .notBool
  | .text content =>
      if truths.contains (Text.lower content) then .valid true
      else if untruths.contains (Text.lower content) then .valid false
      else .fault .unreadableBool
  | _ => .fault .notBool

/-- Null or a value. -/
def optional {α : Type} (decoder : Decoder α) : Decoder (Option α)
  | .null => .valid none
  | value => (decoder value).map some

/-- A list; the way to an item is its index. -/
def listOf {α : Type} (source : Source) (decoder : Decoder α) : Decoder (List α)
  | .list items =>
      .all (items.zipIdx.map fun item => (decoder item.1).under (toString item.2))
  | _ => .fault (match source with
      | .memory => .notList
      | .json => .notArray)

/-- How a key is named in the way to a fault. -/
def keyName : Value → String
  | .text content => content
  | .int number => toString number
  | key => key.display

/-- One entry of a mapping from text to text. -/
def textEntry (entry : Value × Value) : Checked (String × String) :=
  let name := keyName entry.1
  let key := ((plainText entry.1).under "[key]").under name
  (key.map Prod.mk).apply ((plainText entry.2).under name)

/-- A mapping from text to text in the order of the document. -/
def mapping (source : Source) : Decoder (List (String × String))
  | .record entries => .all (entries.map textEntry)
  | _ => .fault (match source with
      | .memory => .notMapping
      | .json => .notObject)

/-- A record of a named model. -/
def model {α : Type} (source : Source) (name : String) (fields : Value → Checked α) :
    Decoder α
  | .record entries => fields (.record entries)
  | _ => .fault (match source with
      | .memory => .notModel name
      | .json => .notObject)

/-- A field that has to be there; the first of its names that is there counts, and faults lie
under the first name. -/
def required {α : Type} (names : List String) (decoder : Decoder α) (value : Value) :
    Checked α :=
  (match names.findSome? value.field? with
    | some field => decoder field
    | none => .fault .missing).under (names.head?.getD "")

/-- A field with a default. -/
def defaulted {α : Type} (names : List String) (decoder : Decoder α) (default : α)
    (value : Value) : Checked α :=
  match names.findSome? value.field? with
  | some field => (decoder field).under (names.head?.getD "")
  | none => .valid default

/-- A field that may be null or left out. -/
def possible {α : Type} (names : List String) (decoder : Decoder α) (value : Value) :
    Checked (Option α) :=
  defaulted names (optional decoder) none value

end PlainScript.Schema
