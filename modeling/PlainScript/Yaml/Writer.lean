/-
Writing values in block style: an entry or an item a line, levels two columns apart. Texts are
plain, in single quotes where a plain scalar would be read as something else, and in double quotes
where characters need escapes. Long lines are folded at single spaces.
-/

import PlainScript.Text.Printable
import PlainScript.Value.Display
import PlainScript.Yaml.Tag
import PlainScript.Yaml.Token

namespace PlainScript.Yaml

/-! What a text allows -/

/-- Line ends that a scalar keeps. -/
def isLineMark (c : Char) : Bool :=
  c == '\n' || c == '\u0085' || c == '\u2028' || c == '\u2029'

/-- Characters that only escapes can write. -/
def isSpecial (c : Char) : Bool := !(c == '\n' || (0x20 ≤ c.toNat && c.toNat ≤ 0x7E))

def isMultiline (chars : List Char) : Bool := chars.any isLineMark

/-- Characters with a meaning at the start of a scalar. -/
def startMarks : List Char := "#,[]\x7b\x7d&*!|>'\"%@`".toList

/-- Whether what comes first would be taken for a mark. -/
def startsMarked : List Char → Bool
  | [] => false
  | c :: rest =>
      startMarks.contains c || (['?', ':', '-'].contains c && separates rest.head?) ||
        ['-', '-', '-'].isPrefixOf (c :: rest) || ['.', '.', '.'].isPrefixOf (c :: rest)

/-- Whether a later character would be taken for a mark; `gap` tells if one stands in front. -/
def holdsMark : (gap : Bool) → List Char → Bool
  | _, [] => false
  | gap, c :: rest =>
      (c == ':' && separates rest.head?) || (c == '#' && gap) ||
        holdsMark (isGap c || isBreak c) rest

/-- Whether a character that passes the first test stands right in front of one that passes the
second. -/
def neighbours (first second : Char → Bool) : List Char → Bool
  | c :: d :: rest => (first c && second d) || neighbours first second (d :: rest)
  | _ => false

def isEdge (c : Char) : Bool := c == ' ' || isLineMark c

/-- Whether single quotes can hold the text. -/
def allowsSingle (chars : List Char) : Bool :=
  !neighbours isLineMark (· == ' ') chars && !neighbours (· == ' ') isLineMark chars &&
    !chars.any isSpecial

/-- Whether the text reads back as itself without quotes. -/
def allowsPlain (chars : List Char) : Bool :=
  Tag.ofPlain (.ofList chars) == .text && !chars.head?.any isEdge && !chars.getLast?.any isEdge &&
    !isMultiline chars && !chars.any isSpecial && !startsMarked chars &&
    !holdsMark (chars.head?.any fun c => isGap c || isBreak c) (chars.drop 1)

/-! Writing -/

/-- The column from which on a line is folded. -/
def width : Nat := 80

/-- The start of the next line, indented. -/
def newLine (indent : Nat) : List Char := '\n' :: List.replicate indent ' '

/-- Whether a space may be turned into a line end: it stands alone in a line that is full. -/
def mayFold (split afterSpace : Bool) (column : Nat) (next : Option Char) : Bool :=
  split && !afterSpace && width < column && next.any (· != ' ')

def plainChars (split : Bool) (indent : Nat) :
    (afterSpace : Bool) → (column : Nat) → List Char → List Char
  | _, _, [] => []
  | afterSpace, column, c :: rest =>
      if c == ' ' && mayFold split afterSpace column rest.head? then
        newLine indent ++ plainChars split indent true indent rest
      else c :: plainChars split indent (c == ' ') (column + 1) rest

/-- The inside of single quotes: quotes are doubled, and line ends are written twice the first
time. `last` is the character before; at the start there is none. -/
def singleChars (split : Bool) (indent : Nat) :
    (last : Option Char) → (column : Nat) → List Char → List Char
  | _, _, [] => []
  | last, column, c :: rest =>
      if c == '\n' then
        let breaks := if last == some '\n' then ['\n'] else ['\n', '\n']
        if rest.head? == some '\n' then breaks ++ singleChars split indent (some '\n') 0 rest
        else
          breaks ++ List.replicate indent ' ' ++
            singleChars split indent (some '\n') indent rest
      else if c == '\'' then '\'' :: '\'' :: singleChars split indent (some c) (column + 2) rest
      else if c == ' ' && last.isSome && mayFold split (last == some ' ') column rest.head? then
        newLine indent ++ singleChars split indent (some ' ') indent rest
      else c :: singleChars split indent (some c) (column + 1) rest

/-- The letter of a short escape. -/
def escapeLetter? : Char → Option Char
  | '\x00' => some '0'
  | '\x07' => some 'a'
  | '\x08' => some 'b'
  | '\t' => some 't'
  | '\n' => some 'n'
  | '\x0b' => some 'v'
  | '\x0c' => some 'f'
  | '\r' => some 'r'
  | '\x1b' => some 'e'
  | '"' => some '"'
  | '\\' => some '\\'
  | '\u0085' => some 'N'
  | '\u00a0' => some '_'
  | '\u2028' => some 'L'
  | '\u2029' => some 'P'
  | _ => none

def upperHex (digits : Nat) (code : Nat) : List Char :=
  (Text.hexDigits digits code).map Char.toUpper

/-- The escape of a character. -/
def escape (c : Char) : List Char :=
  match escapeLetter? c with
  | some letter => ['\\', letter]
  | none =>
      if c.toNat ≤ 0xFF then '\\' :: 'x' :: upperHex 2 c.toNat
      else if c.toNat ≤ 0xFFFF then '\\' :: 'u' :: upperHex 4 c.toNat
      else '\\' :: 'U' :: upperHex 8 c.toNat

def needsEscape (c : Char) : Bool := c == '"' || c == '\\' || c.toNat < 0x20 || 0x7E < c.toNat

/-- The inside of double quotes. A line is folded at a space or next to an escape; a backslash
ends it, and another one keeps a space at the start of the next line. -/
def doubleChars (split : Bool) (indent : Nat) :
    (first fresh : Bool) → (column : Nat) → List Char → List Char
  | _, _, _, [] => []
  | first, fresh, column, c :: rest =>
      let folds := split && !first && !rest.isEmpty
      if needsEscape c then
        let written := escape c
        if folds && width < column + written.length - 1 then
          let guard := if rest.head? == some ' ' then ['\\'] else []
          written ++ '\\' :: newLine indent ++ guard ++
            doubleChars split indent false true (indent + guard.length) rest
        else written ++ doubleChars split indent false true (column + written.length) rest
      else if folds && (c == ' ' || fresh) && width < column then
        let guard := if c == ' ' then ['\\'] else []
        '\\' :: newLine indent ++ guard ++
          c :: doubleChars split indent false false (indent + guard.length + 1) rest
      else c :: doubleChars split indent false false (column + 1) rest

/-- A text from a column on; only one that may be `split` is folded. The key of a simple entry is
not split. -/
def textChars (split : Bool) (indent column : Nat) (chars : List Char) : List Char :=
  if allowsPlain chars then plainChars split indent false column chars
  else if allowsSingle chars && (split || !isMultiline chars) then
    '\'' :: singleChars split indent none (column + 1) chars ++ ['\'']
  else '"' :: doubleChars split indent true true (column + 1) chars ++ ['"']

/-! Values -/

/-- A value that takes one scalar or a pair of brackets. -/
def inlineChars (indent column : Nat) : Value → List Char
  | .null => "null".toList
  | .bool truth => (if truth then "true" else "false").toList
  | .int number => (toString number).toList
  | .text content => textChars true indent column content.toList
  | .list _ => ['[', ']']
  | .record _ => ['{', '}']
  | value => textChars true indent column value.shown.toList

/-- Whether a key can stand in front of its colon: it is short, on one line and not empty. -/
def isSimpleKey (chars : List Char) : Bool :=
  !chars.isEmpty && chars.length < 123 && !isMultiline chars

def keyText : Value → List Char
  | .text content => content.toList
  | value => value.shown.toList

def spaces (count : Nat) : List Char := List.replicate count ' '

mutual

/-- What follows a mark of one character in the column `indent`. -/
def afterMark (indent : Nat) (value : Value) : List Char :=
  ' ' :: match value with
    | .list (item :: items) => itemsChars (indent + 2) (item :: items)
    | .record (entry :: entries) => entriesChars (indent + 2) (entry :: entries)
    | value => inlineChars (indent + 2) (indent + 2) value

/-- What follows the colon of a simple key, which ends before the column. -/
def afterKey (indent column : Nat) (value : Value) : List Char :=
  match value with
  | .list (item :: items) => newLine indent ++ itemsChars indent (item :: items)
  | .record (entry :: entries) =>
      newLine (indent + 2) ++ entriesChars (indent + 2) (entry :: entries)
  | value => ' ' :: inlineChars (indent + 2) (column + 2) value

/-- The items of a list, the first one in the present line. -/
def itemsChars (indent : Nat) : List Value → List Char
  | [] => []
  | item :: items =>
      '-' :: afterMark indent item ++
        (if items.isEmpty then [] else newLine indent) ++ itemsChars indent items

/-- The entries of a record, the first one in the present line. -/
def entriesChars (indent : Nat) : List (Value × Value) → List Char
  | [] => []
  | (key, value) :: entries =>
      (if isSimpleKey (keyText key) then
        let written := textChars false indent indent (keyText key)
        written ++ ':' :: afterKey indent (indent + written.length) value
      else
        '?' :: ' ' :: textChars true (indent + 2) (indent + 2) (keyText key) ++
          newLine indent ++ ':' :: afterMark indent value) ++
        (if entries.isEmpty then [] else newLine indent) ++ entriesChars indent entries

end

/-- The text of a list or a record. -/
def write (value : Value) : String :=
  .ofList <| (match value with
    | .list (item :: items) => itemsChars 0 (item :: items)
    | .record (entry :: entries) => entriesChars 0 (entry :: entries)
    | value => inlineChars 0 0 value) ++ ['\n']

end PlainScript.Yaml
