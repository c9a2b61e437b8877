/-
Texts of numbers. The default text of a double has the fewest digits that read back; others
have a fixed count of places or of digits.
-/

import PlainScript.Number.Double

namespace PlainScript.Number

/-- A positive decimal number `digits * 10 ^ exponent`. -/
structure Decimal where
  digits : Nat
  exponent : Int
  deriving DecidableEq, Repr

namespace Decimal

def toDouble (decimal : Decimal) : Double := .ofDecimal false decimal.digits decimal.exponent

/-- The two neighbours of a quotient among the decimals with so many digits. -/
def neighbours (numerator denominator count : Nat) : Decimal × Decimal :=
  let exponent := leadingTen numerator denominator - count + 1
  let scaled := scaleTen numerator denominator (-exponent)
  (⟨scaled.1 / scaled.2, exponent⟩, ⟨scaled.1 / scaled.2 + 1, exponent⟩)

/-- The decimal with so many digits that is nearest to a quotient. -/
def nearest (numerator denominator count : Nat) : Decimal :=
  let exponent := leadingTen numerator denominator - count + 1
  let scaled := scaleTen numerator denominator (-exponent)
  ⟨roundDiv scaled.1 scaled.2, exponent⟩

/-- The nearer of the neighbours that read back, tried with `count` digits and then with more. -/
def shortestFrom (x : Double) (numerator denominator : Nat) : (left count : Nat) → Decimal
  | 0, count => nearest numerator denominator count
  | left + 1, count =>
      let (lower, upper) := neighbours numerator denominator count
      match lower.toDouble == x, upper.toDouble == x with
      | true, true => nearest numerator denominator count
      | true, false => lower
      | false, true => upper
      | false, false => shortestFrom x numerator denominator left (count + 1)

/-- The shortest decimal that reads back as the positive double `x`. -/
def shortest (x : Double) : Decimal := shortestFrom x x.ratio.1 x.ratio.2 17 1

/-- Drops the zeros at the end of the digits, at most `fuel` of them. -/
def stripZerosWithin : (fuel : Nat) → Decimal → Decimal
  | 0, decimal => decimal
  | fuel + 1, decimal =>
      if decimal.digits % 10 == 0 && decimal.digits != 0 then
        stripZerosWithin fuel ⟨decimal.digits / 10, decimal.exponent + 1⟩
      else decimal

def stripZeros (decimal : Decimal) : Decimal :=
  stripZerosWithin (digitCount decimal.digits) decimal

end Decimal

/-- How a decimal is written: the powers of ten of its first digit that are written with
positions, and whether a whole number keeps a zero place. -/
structure DecimalLayout where
  lowestPositional : Int
  highestPositional : Int
  keepsPlace : Bool

/-- The default layout. -/
def fullLayout : DecimalLayout := ⟨-4, 15, true⟩

/-- The layout with at most six digits. -/
def briefLayout : DecimalLayout := ⟨-4, 5, false⟩

def zeros (count : Nat) : String := .ofList (List.replicate count '0')

def DecimalLayout.write (layout : DecimalLayout) (decimal : Decimal) : String :=
  let digits := toString decimal.digits
  let leading : Int := decimal.exponent + digits.length - 1
  if layout.lowestPositional ≤ leading && leading ≤ layout.highestPositional then
    if 0 ≤ decimal.exponent then
      digits ++ zeros decimal.exponent.toNat ++ (if layout.keepsPlace then ".0" else "")
    else if 0 ≤ leading then
      let whole := digits.toList.take (leading.toNat + 1)
      let places := digits.toList.drop (leading.toNat + 1)
      .ofList (whole ++ '.' :: places)
    else "0." ++ zeros ((-leading).toNat - 1) ++ digits
  else
    let mantissa := match digits.toList with
      | first :: second :: rest => first :: '.' :: second :: rest
      | short => short
    let power := toString leading.natAbs
    .ofList mantissa ++ (if leading < 0 then "e-" else "e+") ++
      (if power.length < 2 then "0" ++ power else power)

namespace Double

def signed (x : Double) (text : String) : String := if x.isNegative then "-" ++ text else text

/-- The fewest digits that read back. -/
def text (x : Double) : String :=
  match x with
  | infinite _ => x.signed "inf"
  | undefined => "nan"
  | finite _ 0 _ => x.signed "0.0"
  | finite _ significand exponent =>
      x.signed (fullLayout.write (Decimal.shortest (finite false significand exponent)).stripZeros)

/-- At most six digits, without zeros at the end. -/
def briefText (x : Double) : String :=
  match x with
  | infinite _ => x.signed "inf"
  | undefined => "nan"
  | finite _ 0 _ => x.signed "0"
  | finite _ _ _ =>
      x.signed (briefLayout.write (Decimal.nearest x.ratio.1 x.ratio.2 6).stripZeros)

/-- One place after the point. -/
def tenthsText (x : Double) : String :=
  match x with
  | infinite _ => x.signed "inf"
  | undefined => "nan"
  | finite _ _ _ =>
      let tenths := roundDiv (x.ratio.1 * 10) x.ratio.2
      x.signed (toString (tenths / 10) ++ "." ++ toString (tenths % 10))

end Double

end PlainScript.Number
