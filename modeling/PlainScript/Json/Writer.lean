/-
Writing JSON on several lines. Layouts differ in the width of a level and in the characters
that are escaped.
-/

import PlainScript.Json.Parser
import PlainScript.Number.Text
import PlainScript.Text.Printable

namespace PlainScript.Json

/-- The escape of a unit of sixteen bits. -/
def unitEscape (unit : Nat) : List Char := '\\' :: 'u' :: Text.hexDigits 4 unit

/-- The escape of any character, as two surrogates beyond the basic plane. -/
def codeEscape (c : Char) : List Char :=
  if c.toNat < 0x10000 then unitEscape c.toNat
  else
    let offset := c.toNat - 0x10000
    unitEscape (0xD800 + offset / 0x400) ++ unitEscape (0xDC00 + offset % 0x400)

/-- The escapes that every layout makes. -/
def escapeRaw (c : Char) : List Char :=
  match c with
  | '"' => ['\\', '"']
  | '\\' => ['\\', '\\']
  | '\n' => ['\\', 'n']
  | '\r' => ['\\', 'r']
  | '\t' => ['\\', 't']
  | '\x08' => ['\\', 'b']
  | '\x0c' => ['\\', 'f']
  | c => if c.toNat < 0x20 then unitEscape c.toNat else [c]

/-- Escapes all but the printable characters of the basic alphabet. -/
def escapeAscii (c : Char) : List Char :=
  if c.toNat < 0x7F then escapeRaw c else codeEscape c

/-- A number with places; those that are not finite go by their names. -/
def floatChars : Number.Double → List Char
  | .infinite negative => (if negative then "-Infinity" else "Infinity").toList
  | .undefined => "NaN".toList
  | number@(.finite _ _ _) => number.text.toList

structure Layout where
  /-- Spaces per level. -/
  indent : Nat
  escape : Char → List Char

/-- Two spaces per level and only the needed escapes. -/
def readable : Layout := ⟨2, escapeRaw⟩

/-- Two spaces per level and basic characters only. -/
def portable : Layout := ⟨2, escapeAscii⟩

namespace Layout

def quoted (layout : Layout) (text : String) : List Char :=
  '"' :: text.toList.flatMap layout.escape ++ ['"']

def lineStart (layout : Layout) (depth : Nat) : List Char :=
  '\n' :: List.replicate (layout.indent * depth) ' '

mutual

def valueChars (layout : Layout) (depth : Nat) : Value → List Char
  | .null => "null".toList
  | .bool truth => (if truth then "true" else "false").toList
  | .int number => (toString number).toList
  | .float number => floatChars number
  | .text content => layout.quoted content
  | .list [] => ['[', ']']
  | .list (item :: items) =>
      '[' :: layout.lineStart (depth + 1) ++ valueChars layout (depth + 1) item ++
        itemsChars layout (depth + 1) items ++ layout.lineStart depth ++ [']']
  | .record [] => ['{', '}']
  | .record ((key, value) :: entries) =>
      '{' :: layout.lineStart (depth + 1) ++ valueChars layout (depth + 1) key ++ [':', ' '] ++
        valueChars layout (depth + 1) value ++
        entriesChars layout (depth + 1) entries ++ layout.lineStart depth ++ ['}']
  | _ => "null".toList

def itemsChars (layout : Layout) (depth : Nat) : List Value → List Char
  | [] => []
  | item :: items =>
      ',' :: layout.lineStart depth ++ valueChars layout depth item ++
        itemsChars layout depth items

def entriesChars (layout : Layout) (depth : Nat) : List (Value × Value) → List Char
  | [] => []
  | (key, value) :: entries =>
      ',' :: layout.lineStart depth ++ valueChars layout depth key ++ [':', ' '] ++
        valueChars layout depth value ++ entriesChars layout depth entries

end

def write (layout : Layout) (value : Value) : String := .ofList (layout.valueChars 0 value)

end Layout

end PlainScript.Json
