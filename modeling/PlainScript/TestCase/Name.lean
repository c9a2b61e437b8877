/-
Names that code can use, derived from the text of an instruction.
-/

import PlainScript.Text.Alphabet
import PlainScript.Text.Blank
import PlainScript.Text.Case

namespace PlainScript

namespace Name

/-- The characters of a derived name, the underscore apart. -/
def isNameChar (c : Char) : Bool := c.isLower || c.isDigit

/-- The lower-case words without all other characters, joined by underscores. -/
def deriveChars (chars : List Char) : List Char :=
  let kept := (Chars.lower chars).filter fun c => isNameChar c || Text.isBlank c
  match Chars.words kept with
  | [] => "untitled_test".toList
  | words => ['_'].intercalate words

/-- The name of a test from its description. -/
def derive (description : String) : String := .ofList (deriveChars description.toList)

/-- The parts between underscores, each with a capital. -/
def capitalizedParts (chars : List Char) : List Char :=
  (Chars.splitAt (· == '_') chars).flatMap Chars.capitalize

def startsWithDigit : List Char → Bool
  | [] => false
  | c :: _ => Text.isDigitLike c

def camelChars (chars : List Char) : List Char :=
  let joined := capitalizedParts chars
  if joined.isEmpty || startsWithDigit joined then "Generated".toList ++ joined else joined

/-- A class name: the parts run together, never empty and never with a digit in front. -/
def camel (name : String) : String := .ofList (camelChars name.toList)

/-- The parts run together as they are. -/
def joined (name : String) : String := .ofList (capitalizedParts name.toList)

end Name

end PlainScript
