/-
Blanks and line ends: trimming, splitting into words and splitting into lines.
-/

namespace PlainScript

namespace Text

/-- A blank separates words: spaces, tabs, line ends and the separator controls. -/
def isBlank (c : Char) : Bool :=
  let code := c.toNat
  (9 ≤ code && code ≤ 13) || (28 ≤ code && code ≤ 32) || code == 0x85 || code == 0xA0 ||
    code == 0x1680 || (0x2000 ≤ code && code ≤ 0x200A) || code == 0x2028 || code == 0x2029 ||
    code == 0x202F || code == 0x205F || code == 0x3000

/-- A line end finishes a line; a carriage return with a line feed counts once. -/
def isLineEnd (c : Char) : Bool :=
  let code := c.toNat
  (10 ≤ code && code ≤ 13) || (28 ≤ code && code ≤ 30) || code == 0x85 ||
    code == 0x2028 || code == 0x2029

end Text

namespace Chars

open Text

/-- Cuts at every marked character, which is dropped. There is one piece more than marks. -/
def splitAt (mark : Char → Bool) : List Char → List (List Char)
  | [] => [[]]
  | c :: rest =>
      if mark c then [] :: splitAt mark rest
      else match splitAt mark rest with
        | [] => [[c]]
        | piece :: pieces => (c :: piece) :: pieces

def trimLeft (chars : List Char) : List Char := chars.dropWhile isBlank

def trimRightWhere (drop : Char → Bool) (chars : List Char) : List Char :=
  (chars.reverse.dropWhile drop).reverse

def trim (chars : List Char) : List Char := trimRightWhere isBlank (trimLeft chars)

/-- The longest runs without blanks. -/
def words (chars : List Char) : List (List Char) :=
  (splitAt isBlank chars).filter fun piece => !piece.isEmpty

/-- The lines without their ends; `line` is the part of the present line, last character first. -/
def linesFrom (line : List Char) : List Char → List (List Char)
  | [] => if line.isEmpty then [] else [line.reverse]
  | '\r' :: '\n' :: rest => line.reverse :: linesFrom [] rest
  | c :: rest =>
      if isLineEnd c then line.reverse :: linesFrom [] rest
      else linesFrom (c :: line) rest

def lines (chars : List Char) : List (List Char) := linesFrom [] chars

end Chars

namespace Text

def trim (text : String) : String := .ofList (Chars.trim text.toList)

def words (text : String) : List String := (Chars.words text.toList).map .ofList

def lines (text : String) : List String := (Chars.lines text.toList).map .ofList

/-- All words on one line, one space apart. -/
def oneLine (text : String) : String := " ".intercalate (words text)

end Text

end PlainScript
