/-
Placeholders, which are names between doubled braces, and the test data that stand in for them.
-/

import PlainScript.TestData.Basic

namespace PlainScript

namespace Placeholder

def opening : List Char := ['{', '{']

def closing : List Char := ['}', '}']

/-- The name of a placeholder that begins here: all up to the first closing brace. -/
def nameAt? (chars : List Char) : Option (List Char) :=
  if opening.isPrefixOf chars then
    let name := (chars.drop 2).takeWhile (· != '}')
    if !name.isEmpty && closing.isPrefixOf (chars.drop (2 + name.length)) then some name else none
  else none

/-- The names in a text; the first `skip` characters belong to the placeholder before. -/
def namesFrom : (skip : Nat) → List Char → List (List Char)
  | _, [] => []
  | skip + 1, _ :: rest => namesFrom skip rest
  | 0, c :: rest =>
      match nameAt? (c :: rest) with
      | some name => name :: namesFrom (name.length + 3) rest
      | none => namesFrom 0 rest

/-- The names of the placeholders in a text, from left to right. -/
def names (text : String) : List String := (namesFrom 0 text.toList).map .ofList

/-- The placeholder of a key, which stands there in capitals. -/
def ofKey (key : String) : String :=
  .ofList (opening ++ (Text.upper key).toList ++ closing)

end Placeholder

namespace TestData

/-- Puts in the values of entries, one key after another. -/
def fillFrom (text : String) (entries : List (String × String)) : String :=
  entries.foldl (fun text entry => Text.replace text (Placeholder.ofKey entry.1) entry.2) text

/-- Puts in values for placeholders. The variables come first, so that no data set hides them. -/
def fill (data : TestData) (kind : DataKind) (text : String) : String :=
  fillFrom (fillFrom text data.globals) (data.entries kind)

/-- The keys that a placeholder may name. -/
def keys (data : TestData) : List String :=
  (data.entries .valid ++ data.entries .invalid ++ data.globals).map (·.1)

/-- Whether a key is the name in small letters or in capitals. -/
def knows (data : TestData) (name : String) : Bool :=
  data.keys.contains (Text.lower name) || data.keys.contains (Text.upper name)

/-- The placeholders that no key is for. -/
def missing (data : TestData) (text : String) : List String :=
  (Placeholder.names text).filter fun name => !data.knows name

/-- The field that a key is for: the key in small letters, without the word of its kind. -/
def fieldOf (key : String) : String :=
  let lowered := Text.lower key
  ((Text.after? lowered "test_").or (Text.after? lowered "invalid_")).getD lowered

/-- Whether a value is ready for use. -/
def isReady (value : String) : Bool := !value.isEmpty && (Placeholder.names value).isEmpty

/-- The values that are ready for use, by field. -/
def credentials (data : TestData) (kind : DataKind) : List (String × String) :=
  ((data.entries kind).filter fun entry => isReady entry.2).foldl
    (fun found entry => putText found (fieldOf entry.1) entry.2) []

end TestData

end PlainScript
