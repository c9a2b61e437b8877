/-
Reading JSON. A fault says what was expected and where the reading stopped. Lists and records are
read up to a given count of levels, and texts as characters, of which half a pair of surrogates is
none.
-/

import PlainScript.Number.Integer
import PlainScript.Severity
import PlainScript.Value.Basic

namespace PlainScript.Json

inductive Problem where
  | byteOrderMark
  | expectedValue
  | extraData
  | expectedName
  | expectedColon
  | expectedComma
  | unterminatedText
  | controlCharacter
  | badEscape
  | badCodeEscape
  | loneSurrogate
  | tooDeep
  | tooManyDigits (count : Nat)
  deriving DecidableEq, Repr

def Problem.message : Problem → String
  | byteOrderMark => "Unexpected UTF-8 BOM (decode using utf-8-sig)"
  | expectedValue => "Expecting value"
  | extraData => "Extra data"
  | expectedName => "Expecting property name enclosed in double quotes"
  | expectedColon => "Expecting ':' delimiter"
  | expectedComma => "Expecting ',' delimiter"
  | unterminatedText => "Unterminated string starting at"
  | controlCharacter => "Invalid control character at"
  | badEscape => "Invalid \\escape"
  | badCodeEscape => "Invalid \\uXXXX escape"
  | loneSurrogate => "Lone surrogate in string"
  | tooDeep => "Too many levels"
  | tooManyDigits count => Number.tooManyDigits count

/-- A problem found when so many characters were still unread. -/
structure Failure where
  problem : Problem
  unread : Nat
  deriving DecidableEq, Repr

def fail {α : Type} (problem : Problem) (unread : Nat) : Except Failure α :=
  .error ⟨problem, unread⟩

def isSpace (c : Char) : Bool := c == ' ' || c == '\t' || c == '\n' || c == '\r'

def skipSpaces (chars : List Char) : List Char := chars.dropWhile isSpace

def hexValue? (c : Char) : Option Nat :=
  if c.isDigit then some (c.toNat - '0'.toNat)
  else if 'a' ≤ c && c ≤ 'f' then some (c.toNat - 'a'.toNat + 10)
  else if 'A' ≤ c && c ≤ 'F' then some (c.toNat - 'A'.toNat + 10)
  else none

/-- The number that four hexadecimal digits spell. -/
def hexCode? (a b c d : Char) : Option Nat := do
  let first ← hexValue? a
  let second ← hexValue? b
  let third ← hexValue? c
  let fourth ← hexValue? d
  return ((first * 16 + second) * 16 + third) * 16 + fourth

def isHighSurrogate (code : Nat) : Bool := 0xD800 ≤ code && code < 0xDC00

def isLowSurrogate (code : Nat) : Bool := 0xDC00 ≤ code && code < 0xE000

/-- The character that a pair of surrogates stands for. -/
def joinSurrogates (high low : Nat) : Char :=
  .ofNat (0x10000 + (high - 0xD800) * 0x400 + (low - 0xDC00))

/-- The character after a backslash, but for the code escapes. -/
def escaped? : Char → Option Char
  | '"' => some '"'
  | '\\' => some '\\'
  | '/' => some '/'
  | 'b' => some '\x08'
  | 'f' => some '\x0c'
  | 'n' => some '\n'
  | 'r' => some '\r'
  | 't' => some '\t'
  | _ => none

/-- Puts a character before what is read next. -/
def prepend (c : Char) (reading : Except Failure (List Char × List Char)) :
    Except Failure (List Char × List Char) :=
  reading.map fun result => (c :: result.1, result.2)

/-- Reads a text whose opening quote is behind; `opened` characters were unread before it. -/
def readText (opened : Nat) : List Char → Except Failure (List Char × List Char)
  | [] => fail .unterminatedText opened
  | '"' :: rest => .ok ([], rest)
  | '\\' :: rest =>
      match rest with
      | [] => fail .unterminatedText opened
      | 'u' :: digits =>
          match digits with
          | a :: b :: c :: d :: rest =>
              if rest.isEmpty then fail .badCodeEscape (digits.length + 1)
              else match hexCode? a b c d with
                | none => fail .badCodeEscape (digits.length + 1)
                | some code =>
                    if isHighSurrogate code then
                      match rest with
                      | '\\' :: 'u' :: e :: f :: g :: h :: more =>
                          match hexCode? e f g h with
                          | none => fail .badCodeEscape (more.length + 5)
                          | some low =>
                              if isLowSurrogate low then
                                prepend (joinSurrogates code low) (readText opened more)
                              else fail .loneSurrogate (digits.length + 1)
                      | _ => fail .loneSurrogate (digits.length + 1)
                    else if isLowSurrogate code then fail .loneSurrogate (digits.length + 1)
                    else prepend (.ofNat code) (readText opened rest)
          | _ => fail .badCodeEscape (digits.length + 1)
      | c :: rest =>
          match escaped? c with
          | none => fail .badEscape (rest.length + 2)
          | some plain => prepend plain (readText opened rest)
  | c :: rest =>
      if c.toNat < 0x20 then fail .controlCharacter (rest.length + 1)
      else prepend c (readText opened rest)

def digitsValue (digits : List Char) : Nat :=
  digits.foldl (fun value c => 10 * value + (c.toNat - '0'.toNat)) 0

/-- The digits after a point, when there are any. -/
def readPlaces : List Char → List Char × List Char
  | '.' :: rest =>
      let places := rest.takeWhile Char.isDigit
      if places.isEmpty then ([], '.' :: rest) else (places, rest.dropWhile Char.isDigit)
  | rest => ([], rest)

/-- The power of ten after an `e`, when there is one. -/
def readPower : List Char → Option Int × List Char
  | c :: rest =>
      if c == 'e' || c == 'E' then
        let (negative, digits) := match rest with
          | '-' :: more => (true, more)
          | '+' :: more => (false, more)
          | more => (false, more)
        let power := digits.takeWhile Char.isDigit
        if power.isEmpty then (none, c :: rest)
        else
          let size : Int := digitsValue power
          (some (if negative then -size else size), digits.dropWhile Char.isDigit)
      else (none, c :: rest)
  | [] => (none, [])

/-- The whole part: a zero stands alone. -/
def readWhole : List Char → List Char × List Char
  | '0' :: rest => (['0'], rest)
  | rest => (rest.takeWhile Char.isDigit, rest.dropWhile Char.isDigit)

/-- Reads a number without its sign. A point or a power makes it a float. -/
def readNumber (negative : Bool) (chars : List Char) : Option (Value × List Char) :=
  let (whole, rest) := readWhole chars
  if whole.isEmpty then none
  else
    let (places, rest) := readPlaces rest
    let (power, rest) := readPower rest
    if places.isEmpty && power.isNone then
      let size : Int := digitsValue whole
      some (.int (if negative then -size else size), rest)
    else
      let digits := digitsValue (whole ++ places)
      some (.float (.ofDecimal negative digits (power.getD 0 - places.length)), rest)

def keywords : List (List Char × Value) := [
  ("null".toList, .null),
  ("true".toList, .bool true),
  ("false".toList, .bool false),
  ("NaN".toList, .float .undefined),
  ("Infinity".toList, .float (.infinite false)),
  ("-Infinity".toList, .float (.infinite true))]

/-- Reads a number, behind its sign if it has one. -/
def readSigned : List Char → Option (Value × List Char)
  | '-' :: rest => readNumber true rest
  | rest => readNumber false rest

/-- Reads a word or a number. -/
def readScalar (chars : List Char) : Except Failure (Value × List Char) :=
  match keywords.find? (·.1.isPrefixOf chars) with
  | some (word, value) => .ok (value, chars.drop word.length)
  | none =>
      match readSigned chars with
      | some (.int number, rest) =>
          if Number.isShort number then .ok (.int number, rest)
          else fail (.tooManyDigits (Number.digitCount number.natAbs)) chars.length
      | some result => .ok result
      | none => fail .expectedValue chars.length

/-- Reads the items of a list up to its end, each as a value is read. There are no more of them than
characters, which are counted down. -/
def readItems (readItem : List Char → Except Failure (Value × List Char)) :
    (count : Nat) → List Char → Except Failure (List Value × List Char)
  | 0, chars => fail .expectedValue chars.length
  | count + 1, chars => do
      let (item, rest) ← readItem chars
      match skipSpaces rest with
      | ']' :: rest => .ok ([item], rest)
      | ',' :: rest => do
          let (items, rest) ← readItems readItem count (skipSpaces rest)
          .ok (item :: items, rest)
      | rest => fail .expectedComma rest.length

/-- Reads the entries of a record up to its end; a later entry replaces one of the same name. -/
def readEntries (readItem : List Char → Except Failure (Value × List Char)) :
    (count : Nat) → List (Value × Value) → List Char →
      Except Failure (List (Value × Value) × List Char)
  | 0, _, chars => fail .expectedName chars.length
  | count + 1, entries, chars =>
      match chars with
      | '"' :: rest => do
          let (name, rest) ← readText chars.length rest
          match skipSpaces rest with
          | ':' :: rest => do
              let (value, rest) ← readItem (skipSpaces rest)
              let entries := putEntry entries (.text (.ofList name)) value
              match skipSpaces rest with
              | '}' :: rest => .ok (entries, rest)
              | ',' :: rest => readEntries readItem count entries (skipSpaces rest)
              | rest => fail .expectedComma rest.length
          | rest => fail .expectedColon rest.length
      | rest => fail .expectedName rest.length

/-- Reads a value that begins here, with at most so many levels of lists and records. -/
def readValue : (levels : Nat) → List Char → Except Failure (Value × List Char)
  | _, '"' :: rest => do
      let (content, rest) ← readText (rest.length + 1) rest
      .ok (.text (.ofList content), rest)
  | 0, '{' :: rest | 0, '[' :: rest => fail .tooDeep (rest.length + 1)
  | levels + 1, '{' :: rest =>
      match skipSpaces rest with
      | '}' :: rest => .ok (.record [], rest)
      | rest => do
          let (entries, rest) ← readEntries (readValue levels) rest.length [] rest
          .ok (.record entries, rest)
  | levels + 1, '[' :: rest =>
      match skipSpaces rest with
      | ']' :: rest => .ok (.list [], rest)
      | rest => do
          let (items, rest) ← readItems (readValue levels) rest.length rest
          .ok (.list items, rest)
  | _, rest => readScalar rest

/-- Reads a whole document with at most so many levels. -/
def parseChars (levels : Nat) (chars : List Char) : Except Failure Value :=
  if chars.head? == some '\ufeff' then .error ⟨.byteOrderMark, chars.length⟩
  else do
    let (value, rest) ← readValue levels (skipSpaces chars)
    match skipSpaces rest with
    | [] => .ok value
    | rest => .error ⟨.extraData, rest.length⟩

/-- The levels that are read whatever else is under way. -/
def mostLevels : Nat := 900

def parse (document : String) : Except Failure Value := parseChars mostLevels document.toList

/-- The problem, then the line, the column and the offset of the fault; digits that are too many are
told without a place. -/
def Failure.message (failure : Failure) (document : String) : String :=
  let chars := document.toList
  let offset := chars.length - failure.unread
  let before := chars.take offset
  let line := before.count '\n' + 1
  let column := (before.reverse.takeWhile (· != '\n')).length + 1
  match failure.problem with
  | .tooManyDigits count => Number.tooManyDigits count
  | problem => problem.message ++ ": line " ++ toString line ++ " column " ++ toString column ++
      " (char " ++ toString offset ++ ")"

/-- Documents that nest deeper, and halves of pairs, are read elsewhere. -/
def Failure.severity (failure : Failure) (document : String) : Severity :=
  match failure.problem with
  | .loneSurrogate | .tooDeep => .unsettled
  | _ => .reported (failure.message document)

end PlainScript.Json
