/-
Upper, lower and title case of text in every script, and equality regardless of case.
-/

import PlainScript.Text.CaseTable

namespace PlainScript

namespace Text

def shiftBy (table : Array Shift) (code : Nat) : Nat :=
  match table.find? (·.holds code) with
  | some shift => shift.image code
  | none => code

/-- The one-character lower case. -/
def lowerChar (c : Char) : Char :=
  if c.val < 128 then c.toLower
  else if c.toNat == 0x130 then 'i'
  else .ofNat (shiftBy lowerShifts c.toNat)

/-- The full lower case of a character by itself. -/
def lowerCase (c : Char) : List Char :=
  if c.toNat == 0x130 then ['i', '\u0307'] else [lowerChar c]

def upperCase (c : Char) : List Char :=
  if c.val < 128 then [c.toUpper]
  else match upperExpansions.find? (·.1 == c.toNat) with
    | some (_, codes) => codes.map .ofNat
    | none => [.ofNat (shiftBy upperShifts c.toNat)]

def titleCase (c : Char) : List Char :=
  if c.val < 128 then [c.toUpper]
  else match titleExceptions.find? (·.1 == c.toNat) with
    | some (_, codes) => codes.map .ofNat
    | none => upperCase c

/-- Whether the nearest character that is not passed over has case. -/
def casedNext (chars : List Char) : Bool :=
  match chars.dropWhile fun c => caseIgnorableRanges.contains c.toNat with
  | [] => false
  | c :: _ => casedRanges.contains c.toNat

/-- One representative for all characters that are equal regardless of case. -/
def foldCase (c : Char) : Char :=
  let low := lowerChar c
  match sharedUpper.find? (·.contains low.toNat) with
  | some (first :: _) => .ofNat first
  | _ => low

/-- All characters that are equal to `c` regardless of case. -/
def caseVariants (c : Char) : List Char :=
  if c.val < 128 then
    match c.toLower with
    | 'i' => ['i', 'I', 'ı', 'İ']
    | 'k' => ['k', 'K', '\u212A']
    | 's' => ['s', 'S', 'ſ']
    | low => if low.isAlpha then [low, low.toUpper] else [c]
  else
    let low := lowerChar c
    let bases := (sharedUpper.find? (·.contains low.toNat)).getD [low.toNat]
    bases.flatMap fun base =>
      (base :: (lowerShifts.toList.filterMap fun (shift : Shift) => shift.source? base)
        ++ (if base == 'i'.toNat then [0x130] else [])).map .ofNat

end Text

namespace Chars

open Text

/-- Lower case of a text whose earlier characters are `before`, nearest first. A capital sigma
becomes the final form after a cased character and before none. -/
def lowerFrom (before : List Char) : List Char → List Char
  | [] => []
  | c :: rest =>
      (if c == 'Σ' then
        [if casedNext before && !casedNext rest then 'ς' else 'σ']
      else lowerCase c) ++ lowerFrom (c :: before) rest

def lower (chars : List Char) : List Char := lowerFrom [] chars

def upper (chars : List Char) : List Char := chars.flatMap upperCase

/-- The first character in title case and the rest in lower case. -/
def capitalize : List Char → List Char
  | [] => []
  | c :: rest => titleCase c ++ lowerFrom [c] rest

end Chars

namespace Text

def lower (text : String) : String := .ofList (Chars.lower text.toList)

def upper (text : String) : String := .ofList (Chars.upper text.toList)

def capitalize (text : String) : String := .ofList (Chars.capitalize text.toList)

end Text

end PlainScript
