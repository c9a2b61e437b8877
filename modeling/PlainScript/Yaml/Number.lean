/-
Numbers in the notations of scalars: signs, bases, underscores that count for nothing, and
parts in base sixty.
-/

import PlainScript.Json.Parser
import PlainScript.Number.Double
import PlainScript.Number.Integer
import PlainScript.Text.Case
import PlainScript.Text.Printable

namespace PlainScript.Yaml

/-- Why a scalar is no number. -/
inductive NumberFault where
  | empty
  | notWhole (base : Nat) (digits : String)
  | notNumber (text : String)
  | tooManyDigits (count : Nat)
  | oversized
  deriving DecidableEq, Repr

/-- What is wrong with the digits is reported; a scalar without any breaks the reading off, as parts
in base sixty do that stand for too large numbers. -/
def NumberFault.severity : NumberFault → Severity
  | empty | oversized => .breaking
  | notWhole base digits =>
      .reported ("invalid literal for int() with base " ++ toString base ++ ": " ++
        Text.display digits)
  | notNumber text => .reported ("could not convert string to float: " ++ Text.display text)
  | tooManyDigits count => .reported (Number.tooManyDigits count)

def digitBelow? (base : Nat) (c : Char) : Option Nat :=
  (Json.hexValue? c).filter (· < base)

/-- The letters that may stand in front of digits of a base. -/
def baseMark? : Nat → Option Char
  | 2 => some 'b'
  | 8 => some 'o'
  | 16 => some 'x'
  | _ => none

/-- Drops a zero and the letter of the base. -/
def dropBaseMark (base : Nat) : List Char → List Char
  | '0' :: mark :: rest => if baseMark? base == some mark.toLower then rest else '0' :: mark :: rest
  | rest => rest

def readDigits? (base : Nat) (chars : List Char) : Option Nat :=
  if chars.isEmpty then none
  else chars.foldlM (fun number c => (digitBelow? base c).map (number * base + ·)) 0

/-- A whole number in a base, with a sign and blanks around it. -/
def readInBase (base : Nat) (digits : List Char) : Except NumberFault Int :=
  let trimmed := Chars.trim digits
  let negative := trimmed.head? == some '-'
  let unsigned := if negative || trimmed.head? == some '+' then trimmed.drop 1 else trimmed
  match readDigits? base (dropBaseMark base unsigned) with
  | some number => .ok (if negative then -number else number)
  | none => .error (.notWhole base (.ofList digits))

def readPlainInt (digits : List Char) : Except NumberFault Int :=
  let text := String.ofList digits
  match Number.excess? text, Number.readInt? text with
  | some count, _ => .error (.tooManyDigits count)
  | none, some number => .ok number
  | none, none => .error (.notWhole 10 text)

/-- The sign in front of a number, and the rest; nothing at all has no sign. -/
def splitSign : List Char → Option (Bool × List Char)
  | [] => none
  | '-' :: rest => some (true, rest)
  | '+' :: rest => some (false, rest)
  | rest => some (false, rest)

def readUnsignedInt : List Char → Except NumberFault Int
  | [] => .error .empty
  | ['0'] => .ok 0
  | '0' :: 'b' :: digits => readInBase 2 digits
  | '0' :: 'x' :: digits => readInBase 16 digits
  | '0' :: digits => readInBase 8 ('0' :: digits)
  | digits =>
      if digits.contains ':' then do
        let parts ← (Chars.splitAt (· == ':') digits).mapM readPlainInt
        return parts.foldl (fun number part => number * 60 + part) 0
      else readPlainInt digits

def readInt (text : String) : Except NumberFault Int :=
  match splitSign (text.toList.filter (· != '_')) with
  | none => .error .empty
  | some (negative, digits) =>
      (readUnsignedInt digits).map fun number => if negative then -number else number

/-- A decimal number with a point or an exponent, or the words for the other doubles. -/
def readDecimal? (chars : List Char) : Option Number.Double :=
  let trimmed := Chars.trim chars
  let negative := trimmed.head? == some '-'
  let unsigned := if negative || trimmed.head? == some '+' then trimmed.drop 1 else trimmed
  let word := Chars.lower unsigned
  if word == "inf".toList || word == "infinity".toList then some (.infinite negative)
  else if word == "nan".toList then some .undefined
  else
    let whole := unsigned.takeWhile Char.isDigit
    let rest := unsigned.dropWhile Char.isDigit
    let pointed := rest.head? == some '.'
    let places := if pointed then (rest.drop 1).takeWhile Char.isDigit else []
    let tail := if pointed then (rest.drop 1).dropWhile Char.isDigit else rest
    if whole.isEmpty && places.isEmpty then none
    else do
      let exponent ← match tail with
        | [] => some 0
        | mark :: digits =>
            if mark.toLower == 'e' then (readInBase 10 digits).toOption else none
      let digits ← readDigits? 10 (whole ++ places)
      return .ofDecimal negative digits (exponent - places.length)

def readPlainFloat (chars : List Char) : Except NumberFault Number.Double :=
  match readDecimal? chars with
  | some number => .ok number
  | none => .error (.notNumber (.ofList chars))

/-- The sum of a double and a natural number times a whole double, rounded once. -/
def addSixties (total : Number.Double) (unit : Nat) (digit : Number.Double) : Number.Double :=
  let (left, right) := (total.ratio, digit.ratio)
  .ofRatio false (left.1 * right.2 + right.1 * unit * left.2) (left.2 * right.2)

/-- The value of parts in base sixty, the last one first. -/
def sumSixties : (unit : Nat) → Number.Double → List Number.Double → Number.Double
  | _, total, [] => total
  | unit, total, digit :: rest => sumSixties (unit * 60) (addSixties total unit digit) rest

def negate : Number.Double → Number.Double
  | .finite negative significand exponent => .finite (!negative) significand exponent
  | .infinite negative => .infinite (!negative)
  | .undefined => .undefined

/-- The most parts in base sixty of which the first one stands for a double. -/
def mostSixties : Nat := 174

def readUnsignedFloat (chars : List Char) : Except NumberFault Number.Double :=
  if chars == ".inf".toList then .ok (.infinite false)
  else if chars == ".nan".toList then .ok .undefined
  else if chars.contains ':' then do
    let parts ← (Chars.splitAt (· == ':') chars).mapM readPlainFloat
    if mostSixties < parts.length then throw .oversized
    return sumSixties 1 (.ofInt 0) parts.reverse
  else readPlainFloat chars

def readFloat (text : String) : Except NumberFault Number.Double :=
  match splitSign (Chars.lower (text.toList.filter (· != '_'))) with
  | none => .error .empty
  | some (negative, chars) =>
      (readUnsignedFloat chars).map fun number => if negative then negate number else number

end PlainScript.Yaml
