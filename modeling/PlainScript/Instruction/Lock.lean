/-
Locks: annotations of the form `[LOCK TYPE] value` that fix a value of the test. The value runs
to the end of its line.
-/

import PlainScript.Text.Alphabet
import PlainScript.Text.Blank
import PlainScript.Text.Case

namespace PlainScript

inductive LockType where
  | url
  | selector
  | value
  | assertionText
  | assertionType
  deriving DecidableEq, Repr

namespace LockType

def name : LockType → String
  | url => "URL"
  | selector => "SELECTOR"
  | value => "VALUE"
  | assertionText => "ASSERTION_TEXT"
  | assertionType => "ASSERTION_TYPE"

def all : List LockType := [url, selector, value, assertionText, assertionType]

def ofName? (name : String) : Option LockType := all.find? (·.name == name)

end LockType

structure Lock where
  type : LockType
  key : String
  value : String
  isLocked : Bool
  deriving DecidableEq, Repr

namespace Lock

/-- An annotation as it is written: the words of its type and the rest of its line. -/
structure Entry where
  first : List Char
  second : Option (List Char)
  value : List Char
  deriving DecidableEq, Repr

namespace Entry

/-- The words of the type with an underscore between them. -/
def typeName (entry : Entry) : String :=
  match entry.second with
  | none => .ofList entry.first
  | some second => .ofList (entry.first ++ '_' :: second)

def type? (entry : Entry) : Option LockType :=
  LockType.ofName? (Text.upper entry.typeName)

def lock? (entry : Entry) : Option Lock :=
  entry.type?.map fun type =>
    ⟨type, Text.lower entry.typeName, .ofList (Chars.trim entry.value), true⟩

end Entry

/-- One or more blanks and then a word, and the text after it. -/
def readWord? (chars : List Char) : Option (List Char × List Char) :=
  let rest := Chars.trimLeft chars
  let word := rest.takeWhile Text.isWord
  if rest.length == chars.length || word.isEmpty then none
  else some (word, rest.dropWhile Text.isWord)

/-- The value after the closing bracket: blanks, even line feeds, are passed over first. -/
def readValue (chars : List Char) : List Char × List Char :=
  let rest := Chars.trimLeft chars
  (rest.takeWhile (· != '\n'), rest.dropWhile (· != '\n'))

def opening : List Char := "[LOCK".toList

/-- An annotation that begins here, and the text after it. -/
def entryAt? (chars : List Char) : Option (Entry × List Char) :=
  if !opening.isPrefixOf chars then none
  else match readWord? (chars.drop opening.length) with
    | none => none
    | some (first, ']' :: rest) =>
        let (value, rest) := readValue rest
        some (⟨first, none, value⟩, rest)
    | some (first, rest) =>
        match readWord? rest with
        | some (second, ']' :: rest) =>
            let (value, rest) := readValue rest
            some (⟨first, some second, value⟩, rest)
        | _ => none

/-- The annotations of a text; the first `skip` characters belong to the one before. -/
def entriesFrom : (skip : Nat) → List Char → List Entry
  | _, [] => []
  | skip + 1, _ :: rest => entriesFrom skip rest
  | 0, c :: rest =>
      match entryAt? (c :: rest) with
      | some (entry, after) => entry :: entriesFrom (rest.length - after.length) rest
      | none => entriesFrom 0 rest

def entries (text : String) : List Entry := entriesFrom 0 text.toList

/-- The text between the annotations. -/
def withoutFrom : (skip : Nat) → List Char → List Char
  | _, [] => []
  | skip + 1, _ :: rest => withoutFrom skip rest
  | 0, c :: rest =>
      match entryAt? (c :: rest) with
      | some (_, after) => withoutFrom (rest.length - after.length) rest
      | none => c :: withoutFrom 0 rest

def stripChars (chars : List Char) : List Char := Chars.trim (withoutFrom 0 chars)

/-- The text without its annotations and without blanks around it. -/
def strip (text : String) : String := .ofList (stripChars text.toList)

/-- The locks of a text in order; annotations of an unknown type count for nothing. -/
def ofText (text : String) : List Lock := (entries text).filterMap Entry.lock?

/-- The types that no lock is made of. -/
def unknownTypes (text : String) : List String :=
  ((entries text).filter (·.type?.isNone)).map Entry.typeName

end Lock

end PlainScript
