/-
Places in a YAML text: the text that is still unread, with its line and column.
-/

import PlainScript.Text.Search

namespace PlainScript.Yaml

def isBreak (c : Char) : Bool :=
  c == '\r' || c == '\n' || c == '\u0085' || c == '\u2028' || c == '\u2029'

/-- A space or a tab. -/
def isGap (c : Char) : Bool := c == ' ' || c == '\t'

/-- Whether a character separates tokens; so does the end of the text. -/
def separates : Option Char → Bool
  | none => true
  | some c => isGap c || isBreak c

/-- Whether a line ends here. -/
def endsLine : Option Char → Bool
  | none => true
  | some c => isBreak c

/-- Whether the text goes on with a space, a line end or nothing. -/
def endsWord : Option Char → Bool
  | none => true
  | some c => c == ' ' || isBreak c

/-- The characters of names of anchors and handles. -/
def isNameChar (c : Char) : Bool := c.isAlphanum || c == '-' || c == '_'

/-- Whether a text may hold the character at all. -/
def isAllowed (c : Char) : Bool :=
  let code := c.toNat
  code == 9 || code == 10 || code == 13 || (0x20 ≤ code && code ≤ 0x7E) || code == 0x85 ||
    (0xA0 ≤ code && code ≤ 0xFFFD) || 0x10000 ≤ code

structure Place where
  line : Nat
  column : Nat
  offset : Nat
  rest : List Char
  deriving DecidableEq, Repr

namespace Place

def start (text : List Char) : Place := ⟨0, 0, 0, text⟩

def peek (place : Place) : Option Char := place.rest.head?

/-- The place after one more character. -/
def next (place : Place) : Place :=
  match place.rest with
  | [] => place
  | c :: rest =>
      if isBreak c && !(c == '\r' && rest.head? == some '\n') then
        ⟨place.line + 1, 0, place.offset + 1, rest⟩
      else if c == '\ufeff' then ⟨place.line, place.column, place.offset + 1, rest⟩
      else ⟨place.line, place.column + 1, place.offset + 1, rest⟩

def skip (place : Place) : Nat → Place
  | 0 => place
  | count + 1 => place.next.skip count

/-- The characters from here on that pass a test, and the place after them. -/
def span (place : Place) (test : Char → Bool) : List Char × Place :=
  let run := place.rest.takeWhile test
  (run, place.skip run.length)

def skipWhile (place : Place) (test : Char → Bool) : Place := (place.span test).2

/-- The line end here, written as a line feed unless it separates paragraphs or lines by its
name, and the place after it. -/
def lineBreak (place : Place) : List Char × Place :=
  match place.rest with
  | '\r' :: '\n' :: _ => (['\n'], place.skip 2)
  | c :: _ =>
      if c == '\u2028' || c == '\u2029' then ([c], place.next)
      else if isBreak c then (['\n'], place.next)
      else ([], place)
  | [] => ([], place)

/-- Whether a line that separates documents begins here. -/
def atMarker (place : Place) : Bool :=
  let three := place.rest.take 3
  (three == ['-', '-', '-'] || three == ['.', '.', '.']) && separates (place.rest.drop 3).head?

/-- The place after spaces and a comment. -/
def skipComment (place : Place) : Place :=
  let place := place.skipWhile (· == ' ')
  if place.peek == some '#' then place.skipWhile fun c => !isBreak c else place

/-- The place after what may end a line: spaces, a comment and the line end. -/
def finishLine? (place : Place) : Option Place :=
  let place := place.skipComment
  if endsLine place.peek then some place.lineBreak.2 else none

end Place

end PlainScript.Yaml
