/-
Patterns of paths. A star stands for any characters of a name, a question mark for any one character,
and brackets for one of the characters that they list.
-/

import PlainScript.File.Directory

namespace PlainScript.File

/-- The path without slashes at its end, unless it is all slashes. -/
def trimSlashes (path : String) : String :=
  let kept := Chars.trimRightWhere (· == '/') path.toList
  if kept.isEmpty then path else .ofList kept

namespace Glob

def isMark (c : Char) : Bool := c == '*' || c == '?' || c == '['

def isPattern (text : String) : Bool := text.toList.any isMark

/-- What a pattern asks of a name from left to right. -/
inductive Part where
  | many
  /-- One character in the ranges, or one outside of them. -/
  | one (outside : Bool) (ranges : List (Char × Char))
  deriving DecidableEq, Repr

/-- The ranges that brackets list: a hyphen between two characters makes a range of them. -/
def ranges : List Char → List (Char × Char)
  | first :: '-' :: last :: rest => (first, last) :: ranges rest
  | c :: rest => (c, c) :: ranges rest
  | [] => []

/-- A list without the empty ranges in front. -/
def dropEmpty : List Char → List Char
  | first :: '-' :: last :: rest =>
      if last < first then dropEmpty rest else first :: '-' :: last :: rest
  | listed => listed

/-- What brackets around the characters ask for. An exclamation mark in front negates the list, also
one in front of which there are only empty ranges. -/
def bracketPart (listed : List Char) : Part :=
  if listed.head? == some '!' then .one true (ranges (listed.drop 1))
  else match dropEmpty listed with
    | '!' :: '-' :: last :: rest => .one true (('-', '-') :: (last, last) :: ranges rest)
    | '!' :: rest => .one true (ranges rest)
    | listed => .one false (ranges listed)

/-- How many characters follow up to the closing bracket. An exclamation mark in front, and a bracket
there, are part of the list. -/
def listLength? (chars : List Char) : Option Nat :=
  let negation := if chars.head? == some '!' then 1 else 0
  let front := if (chars.drop negation).head? == some ']' then negation + 1 else negation
  let rest := chars.drop front
  if rest.contains ']' then some (front + (rest.takeWhile (· != ']')).length) else none

/-- Reads a pattern; the first `skip` characters belong to the brackets just read. -/
def partsFrom : (skip : Nat) → List Char → List Part
  | _, [] => []
  | skip + 1, _ :: rest => partsFrom skip rest
  | 0, c :: rest =>
      if c == '*' then .many :: partsFrom 0 rest
      else if c == '?' then .one true [] :: partsFrom 0 rest
      else match if c == '[' then listLength? rest else none with
        | some length => bracketPart (rest.take length) :: partsFrom (length + 1) rest
        | none => .one false [(c, c)] :: partsFrom 0 rest

/-- Whether the parts of a pattern describe a name. -/
def fits : List Part → List Char → Bool
  | [], name => name.isEmpty
  | .many :: parts, name =>
      (List.range (name.length + 1)).any fun count => fits parts (name.drop count)
  | .one outside ranges :: parts, c :: name =>
      ranges.any (fun range => range.1 ≤ c && c ≤ range.2) != outside && fits parts name
  | .one _ _ :: _, [] => false

/-- The names in a folder that a pattern describes; no name with a dot in front, unless the pattern
has one there. -/
def names (directory : Directory) (folder pattern : String) : List String :=
  if folder.isEmpty || directory.isFolder folder then
    (directory.entries folder).filter fun name =>
      (Text.startsWith pattern "." || !Text.startsWith name ".") &&
        fits (partsFrom 0 pattern.toList) name.toList
  else []

/-- The folders that a piece of a path leads to from a folder. -/
def enter (directory : Directory) (piece folder : String) : List String :=
  let found := if isPattern piece then names directory folder piece else [piece]
  (found.map (join folder)).filter directory.isFolder

/-- The folders that a path describes. What stands before its first pattern is kept as it is. -/
def folders (directory : Directory) (path : String) : List String :=
  if isPattern path then
    let front := (pieces path).takeWhile (!isPattern ·)
    let start := if front.isEmpty then "" else trimSlashes ("/".intercalate front ++ "/")
    (((pieces path).drop front.length).filter (!·.isEmpty)).foldl
      (fun folders piece => folders.flatMap (enter directory piece)) [start]
  else [path]

end Glob

end PlainScript.File
