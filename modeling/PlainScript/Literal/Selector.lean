/-
Strings inside selectors: CSS strings with backslash escapes and XPath expressions, which have
no escapes and join pieces instead.
-/

import PlainScript.Text.Blank

namespace PlainScript.Literal

def cssChar (c : Char) : List Char := if c = '\\' ∨ c = '"' then ['\\', c] else [c]

def cssChars (chars : List Char) : List Char := '"' :: chars.flatMap cssChar ++ ['"']

/-- A double-quoted CSS string. -/
def css (text : String) : String := .ofList (cssChars text.toList)

/-- Reads the inside of a CSS string up to its closing quote, escapes as they stand. A backslash
escapes any one character but a line feed. -/
def readCss : List Char → Option (List Char × List Char)
  | [] => none
  | '"' :: rest => some ([], rest)
  | '\\' :: rest =>
      match rest with
      | [] => none
      | c :: rest =>
          if c = '\n' then none
          else (readCss rest).map fun read => ('\\' :: c :: read.1, read.2)
  | c :: rest => (readCss rest).map fun read => (c :: read.1, read.2)

/-- Drops each backslash that escapes a character. -/
def unescapeCss : List Char → List Char
  | '\\' :: c :: rest =>
      if c = '\n' then '\\' :: c :: unescapeCss rest else c :: unescapeCss rest
  | c :: rest => c :: unescapeCss rest
  | [] => []

/-- A string expression of XPath. -/
inductive XPath where
  | single (piece : List Char)
  | double (piece : List Char)
  | concat (pieces : List XPath)

namespace XPath

/-- The function that joins its arguments. -/
def joining : List Char := ['c', 'o', 'n', 'c', 'a', 't', '(']

mutual

def chars : XPath → List Char
  | single piece => '\'' :: piece ++ ['\'']
  | double piece => '"' :: piece ++ ['"']
  | concat pieces => joining ++ joinChars pieces ++ [')']

/-- The arguments of a joining expression, with commas between them. -/
def joinChars : List XPath → List Char
  | [] => []
  | [piece] => chars piece
  | piece :: pieces => chars piece ++ [',', ' '] ++ joinChars pieces

end

mutual

/-- The string that an expression stands for. -/
def value : XPath → List Char
  | single piece => piece
  | double piece => piece
  | concat pieces => joinValue pieces

def joinValue : List XPath → List Char
  | [] => []
  | piece :: pieces => value piece ++ joinValue pieces

end

/-- Pieces in single quotes with a quoted single quote between them. -/
def interleave : List (List Char) → List XPath
  | [] => []
  | [piece] => [single piece]
  | piece :: pieces => single piece :: double ['\''] :: interleave pieces

/-- The expression for a text: one literal where a quote is free, otherwise a joined one. -/
def ofChars (text : List Char) : XPath :=
  if '\'' ∉ text then single text
  else if '"' ∉ text then double text
  else concat (interleave (Chars.splitAt (· == '\'') text))

end XPath

/-- The XPath expression of a text. -/
def xpath (text : String) : String := .ofList (XPath.ofChars text.toList).chars

end PlainScript.Literal
