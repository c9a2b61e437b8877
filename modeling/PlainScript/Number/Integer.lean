/-
Whole numbers as text, which has a limited count of digits, and reading them from text.
-/

import PlainScript.Number.Double
import PlainScript.Severity
import PlainScript.Text.Alphabet
import PlainScript.Text.Blank

namespace PlainScript.Number

/-- The most decimal digits of a number that is read or written. -/
def mostDigits : Nat := 4300

/-- The number has no more digits than a text of it may have. -/
def isShort (number : Int) : Bool := digitCount number.natAbs ≤ mostDigits

/-- Why a number has no text: a quotient is too large for a number with places, or a whole number
has too many digits. -/
inductive Unwritable where
  | oversized
  | overlong
  deriving DecidableEq, Repr

namespace Unwritable

/-- Only the count of the digits is reported. -/
def severity : Unwritable → Severity
  | oversized => .breaking
  | overlong => .reported ("Exceeds the limit (" ++ toString mostDigits ++
      " digits) for integer string conversion; " ++
      "use sys.set_int_max_str_digits() to increase the limit")

end Unwritable

/-- What is reported of digits that are too many to be read. -/
def tooManyDigits (count : Nat) : String :=
  "Exceeds the limit (" ++ toString mostDigits ++
    " digits) for integer string conversion: value has " ++ toString count ++
    " digits; use sys.set_int_max_str_digits() to increase the limit"

/-- The text of a whole number. -/
def intText (number : Int) : Except Unwritable String :=
  if isShort number then .ok (toString number) else .error .overlong

/-- The value of digits in which single underscores may stand between two digits. -/
def readDigits? (digit : Char → Option Nat) : List Char → Option Nat
  | [] => none
  | first :: rest => (digit first).bind fun value => go value rest
where
  go (value : Nat) : List Char → Option Nat
    | [] => some value
    | ['_'] => none
    | '_' :: c :: rest => (digit c).bind fun d => go (10 * value + d) rest
    | c :: rest => (digit c).bind fun d => go (10 * value + d) rest

def readSigned? (digit : Char → Option Nat) : List Char → Option Int
  | '-' :: rest => (readDigits? digit rest).map fun n => -(n : Int)
  | '+' :: rest => (readDigits? digit rest).map Int.ofNat
  | rest => (readDigits? digit rest).map Int.ofNat

/-- A whole number with blanks around it, in decimal digits of any script. -/
def readInt? (text : String) : Option Int :=
  readSigned? Text.decimalDigit? (Chars.trim text.toList)

def plainDigit? (c : Char) : Option Nat :=
  if c.isDigit then some (c.toNat - '0'.toNat) else none

/-- How many digits a text begins with behind its blanks and its sign, if they are too many to be
read. Single underscores may stand between them. -/
def excess? (text : String) : Option Nat :=
  let trimmed := Chars.trim text.toList
  let unsigned := match trimmed with
    | '-' :: rest | '+' :: rest => rest
    | rest => rest
  let front := unsigned.takeWhile fun c => c == '_' || (Text.decimalDigit? c).isSome
  let count := front.countP (· != '_')
  if mostDigits < count && (readDigits? Text.decimalDigit? front).isSome then some count else none

/-- A whole number in plain digits; a point followed by zeros only may end it. -/
def readWhole? (text : String) : Option Int :=
  let blank := fun c => Text.isBlank c && !(28 ≤ c.toNat && c.toNat ≤ 31)
  let chars := Chars.trimRightWhere blank (text.toList.dropWhile blank)
  let whole := chars.takeWhile (· != '.')
  let places := (chars.dropWhile (· != '.')).drop 1
  if places.all (· == '0') then readSigned? plainDigit? whole else none

end PlainScript.Number
