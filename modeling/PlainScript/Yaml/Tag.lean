/-
Tags say what kind of value a node holds. A plain scalar without a tag is told by its form.
-/

import PlainScript.Instruction.Vocabulary
import PlainScript.Regex.Match
import PlainScript.Text.Search

namespace PlainScript.Yaml

inductive Tag where
  | null
  | bool
  | int
  | float
  | binary
  | moment
  | orderedMap
  | pairs
  | set
  | text
  | list
  | record
  | merge
  | value
  | unknown
  deriving DecidableEq, Repr

namespace Tag

/-- What the names of the standard tags have in common. -/
def standard : String := "tag:yaml.org,2002:"

def ofName? : String → Option Tag
  | "null" => some null
  | "bool" => some bool
  | "int" => some int
  | "float" => some float
  | "binary" => some binary
  | "timestamp" => some moment
  | "omap" => some orderedMap
  | "pairs" => some pairs
  | "set" => some set
  | "str" => some text
  | "seq" => some list
  | "map" => some record
  | "merge" => some merge
  | "value" => some value
  | _ => none

def ofFullName (name : String) : Tag :=
  ((Text.after? name standard).bind ofName?).getD unknown

/-! The forms of plain scalars -/

def nulls : List String := ["", "~", "null", "Null", "NULL"]

def truths : List String := ["yes", "Yes", "YES", "true", "True", "TRUE", "on", "On", "ON"]

def untruths : List String := ["no", "No", "NO", "false", "False", "FALSE", "off", "Off", "OFF"]

def dropSign : List Char → List Char
  | '+' :: rest => rest
  | '-' :: rest => rest
  | rest => rest

def isDigitOrLow (c : Char) : Bool := c.isDigit || c == '_'

/-- A part of a number in base sixty: one digit, or two of which the first is at most five. -/
def isSixtieth : List Char → Bool
  | [c] => c.isDigit
  | [first, second] => '0' ≤ first && first ≤ '5' && second.isDigit
  | _ => false

/-- A number in base sixty, all parts whole. -/
def isSexagesimal : List (List Char) → Bool
  | (first :: rest) :: part :: parts =>
      first.isDigit && rest.all isDigitOrLow && (part :: parts).all isSixtieth
  | _ => false

def isHexDigit (c : Char) : Bool :=
  c.isDigit || ('a' ≤ c && c ≤ 'f') || ('A' ≤ c && c ≤ 'F')

/-- A whole number without its sign: binary, hexadecimal, octal, decimal or in base sixty. -/
def isUnsignedInt : List Char → Bool
  | '0' :: 'b' :: digits => !digits.isEmpty && digits.all fun c => c == '0' || c == '1' || c == '_'
  | '0' :: 'x' :: digits => !digits.isEmpty && digits.all fun c => isHexDigit c || c == '_'
  | '0' :: digits => digits.all fun c => ('0' ≤ c && c ≤ '7') || c == '_'
  | first :: rest =>
      first.isDigit &&
        (rest.all isDigitOrLow || isSexagesimal (Chars.splitAt (· == ':') (first :: rest)))
  | [] => false

def isInt (chars : List Char) : Bool := isUnsignedInt (dropSign chars)

/-- An exponent, which has a sign, or nothing. -/
def isExponent : List Char → Bool
  | [] => true
  | mark :: sign :: digits =>
      (mark == 'e' || mark == 'E') && (sign == '+' || sign == '-') && !digits.isEmpty &&
        digits.all Char.isDigit
  | _ => false

/-- What may follow the point of a number. -/
def isFraction (chars : List Char) : Bool :=
  isExponent (chars.dropWhile isDigitOrLow)

/-- A number with a point; in base sixty it has no exponent. -/
def isPointed (chars : List Char) : Bool :=
  let whole := chars.takeWhile (· != '.')
  match chars.dropWhile (· != '.') with
  | [] => false
  | _ :: places =>
      match dropSign whole with
      | [] => whole.isEmpty && places.head?.any Char.isDigit && isFraction places
      | first :: rest =>
          first.isDigit &&
            ((rest.all isDigitOrLow && isFraction places) ||
              (isSexagesimal (Chars.splitAt (· == ':') (first :: rest)) &&
                places.all isDigitOrLow))

def isInfinite (chars : List Char) : Bool :=
  [".inf", ".Inf", ".INF"].contains (String.ofList (dropSign chars))

def isUndefined (chars : List Char) : Bool :=
  [".nan", ".NaN", ".NAN"].contains (String.ofList chars)

def isFloat (chars : List Char) : Bool :=
  isPointed chars || isInfinite chars || isUndefined chars

section

open Regex

def digit : Regex := oneOf [.range '0' '9']

def twoDigits : Regex := seq digit digit

def oneOrTwoDigits : Regex := seq digit (maybe digit)

def letter (c : Char) : Regex := char c .exact

def gap : Regex := oneOf [.one ' ', .one '\t']

/-- A date, perhaps with a time of day and an offset. -/
def momentForm : Regex :=
  all [
    anchor .textStart,
    group 1 (seq twoDigits twoDigits), letter '-',
    group 2 oneOrTwoDigits, letter '-', group 3 oneOrTwoDigits,
    maybe (all [
      choice [letter 'T', letter 't', many1 gap],
      group 4 oneOrTwoDigits, letter ':', group 5 twoDigits, letter ':', group 6 twoDigits,
      maybe (seq (letter '.') (group 7 (many digit))),
      maybe (seq (many gap) (group 8 (choice [letter 'Z',
        all [group 9 (choice [letter '-', letter '+']), group 10 oneOrTwoDigits,
          maybe (seq (letter ':') (group 11 twoDigits))]])))]),
    anchor .textEnd]

/-- Whether a plain scalar is a moment; a date alone has two digits for month and day. -/
def isMoment (text : String) : Bool :=
  match momentForm.search text with
  | some found => (found.text? 4).isSome || text.length == 10
  | none => false

end

/-- The kind of value that a plain scalar is. -/
def ofPlain (text : String) : Tag :=
  if nulls.contains text then null
  else if truths.contains text || untruths.contains text then bool
  else if text == "<<" then merge
  else if text == "=" then value
  else if text.toList.head?.any fun c => c.isDigit || c == '+' || c == '-' || c == '.' then
    if isFloat text.toList then float
    else if isInt text.toList then int
    else if isMoment text then moment
    else .text
  else .text

end Tag

end PlainScript.Yaml
