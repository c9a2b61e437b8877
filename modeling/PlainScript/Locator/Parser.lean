/-
Reading a Playwright selector back into a locator. Whatever has no form of its own is CSS.
-/

import PlainScript.Literal.Selector
import PlainScript.Locator.Basic
import PlainScript.Text.Alphabet
import PlainScript.Text.Search

namespace PlainScript

namespace Locator

/-- Reads a CSS string that is not empty, followed by exactly `tail`. -/
def readString? (tail : List Char) : List Char → Option String
  | '"' :: rest =>
      match Literal.readCss rest with
      | some (inside, after) =>
          if inside.isEmpty || after != tail then none
          else some (.ofList (Literal.unescapeCss inside))
      | none => none
  | _ => none

/-- The rest of the text after a given start. -/
def dropStart? (start : String) (chars : List Char) : Option (List Char) :=
  if start.toList.isPrefixOf chars then some (chars.drop start.toList.length) else none

def readRole? (chars : List Char) : Option Locator := do
  let rest ← dropStart? "role=" chars
  let role := rest.takeWhile Text.isWord
  if role.isEmpty then none
  else
    let quoted ← dropStart? "[name=" (rest.dropWhile Text.isWord)
    let name ← readString? [']'] quoted
    some (.role (some (.ofList role)) (some name))

def readLabel? (chars : List Char) : Option Locator := do
  let quoted ← dropStart? "label:has-text(" chars
  let value ← readString? [')'] quoted
  some (.label value)

def readId? : List Char → Option Locator
  | '#' :: rest =>
      if !rest.isEmpty && rest.all (fun c => Text.isWord c || c == '-') then
        some (.id (.ofList rest))
      else none
  | _ => none

def readText? (chars : List Char) : Option Locator :=
  (dropStart? "text=" chars).map fun rest => .text (.ofList rest)

def readXPath? (chars : List Char) : Option Locator :=
  match dropStart? "xpath=" chars with
  | some rest => some (.xpath (.ofList rest))
  | none => if ['/', '/'].isPrefixOf chars then some (.xpath (.ofList chars)) else none

def parseChars (chars : List Char) : Locator :=
  (readRole? chars <|> readLabel? chars <|> readId? chars <|> readText? chars <|>
    readXPath? chars).getD (.css (.ofList chars))

/-- Reads a selector with any blanks around it. -/
def parse (selector : String) : Locator := parseChars (Chars.trim selector.toList)

end Locator

end PlainScript
