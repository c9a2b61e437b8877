/-
Numbers of double precision, held exactly as a whole number times a power of two. Quotients of natural
numbers are rounded to the nearest one.
-/

namespace PlainScript.Number

/-- The natural number nearest to the quotient; a half goes to the even neighbour. -/
def roundDiv (numerator denominator : Nat) : Nat :=
  let quotient := numerator / denominator
  let twice := 2 * (numerator % denominator)
  if twice < denominator then quotient
  else if denominator < twice then quotient + 1
  else quotient + quotient % 2

/-- The count of decimal digits. -/
def digitCount (n : Nat) : Nat := (Nat.toDigits 10 n).length

/-- A quotient times a power of ten, as a quotient. -/
def scaleTen (numerator denominator : Nat) (exponent : Int) : Nat × Nat :=
  if 0 ≤ exponent then (numerator * Nat.pow 10 exponent.toNat, denominator)
  else (numerator, denominator * Nat.pow 10 (-exponent).toNat)

/-- A quotient times a power of two, as a quotient. -/
def scaleTwo (numerator denominator : Nat) (exponent : Int) : Nat × Nat :=
  if 0 ≤ exponent then (numerator * Nat.pow 2 exponent.toNat, denominator)
  else (numerator, denominator * Nat.pow 2 (-exponent).toNat)

/-- The exponent of the greatest power of ten that a positive quotient reaches. -/
def leadingTen (numerator denominator : Nat) : Int :=
  let guess := (digitCount numerator : Int) - digitCount denominator
  let scaled := scaleTen numerator denominator (-guess)
  if scaled.2 ≤ scaled.1 then guess else guess - 1

inductive Double where
  | finite (negative : Bool) (significand : Nat) (exponent : Int)
  | infinite (negative : Bool)
  | undefined
  deriving DecidableEq, Repr, Inhabited

namespace Double

/-- The number with a given exponent that is nearest to a quotient; one digit too many is carried
over to the next exponent. -/
def roundAt (negative : Bool) (numerator denominator : Nat) (exponent : Int) : Double :=
  let parts := scaleTwo numerator denominator (-exponent)
  let rounded := roundDiv parts.1 parts.2
  let (significand, exponent) :=
    if rounded == 0x20000000000000 then (0x10000000000000, exponent + 1) else (rounded, exponent)
  if 971 < exponent then .infinite negative else .finite negative significand exponent

/-- The number nearest to a quotient; a half goes to the even significand. -/
def ofRatio (negative : Bool) (numerator denominator : Nat) : Double :=
  if numerator == 0 then .finite negative 0 (-1074)
  else
    let guess : Int := (numerator.log2 : Int) - denominator.log2 - 52
    let scaled := scaleTwo numerator denominator (-guess)
    let exact := if scaled.1 < scaled.2 * 0x10000000000000 then guess - 1 else guess
    roundAt negative numerator denominator (max exact (-1074))

/-- The number nearest to `digits * 10 ^ exponent`. -/
def ofDecimal (negative : Bool) (digits : Nat) (exponent : Int) : Double :=
  if digits == 0 then ofRatio negative 0 1
  else if 400 < exponent + digitCount digits then .infinite negative
  else if exponent + digitCount digits < -400 then ofRatio negative 0 1
  else
    let parts := scaleTen digits 1 exponent
    ofRatio negative parts.1 parts.2

def ofInt (n : Int) : Double := ofRatio (n < 0) n.natAbs 1

/-- The magnitude as a quotient. -/
def ratio : Double → Nat × Nat
  | finite _ significand exponent => scaleTwo significand 1 exponent
  | _ => (0, 1)

def isNegative : Double → Bool
  | finite negative _ _ => negative
  | infinite negative => negative
  | undefined => false

def isZero : Double → Bool
  | finite _ 0 _ => true
  | _ => false

/-- The whole number that the double is, if it is one. -/
def toInt? : Double → Option Int
  | x@(finite negative _ _) =>
      let (numerator, denominator) := x.ratio
      if numerator % denominator == 0 then
        let magnitude : Int := (numerator / denominator : Nat)
        some (if negative then -magnitude else magnitude)
      else none
  | _ => none

/-- The quotient of two whole numbers, rounded once. -/
def ofQuotient (numerator : Int) (denominator : Nat) : Double :=
  ofRatio (numerator < 0) numerator.natAbs denominator

/-- The quotient of two whole numbers, unless it is too large for a number. -/
def quotient? (numerator : Int) (denominator : Nat) : Option Double :=
  match ofQuotient numerator denominator with
  | finite negative significand exponent => some (.finite negative significand exponent)
  | infinite _ | undefined => none

/-- The product with a natural number, rounded once. -/
def scale (x : Double) (factor : Nat) : Double :=
  match x with
  | finite negative _ _ => ofRatio negative (x.ratio.1 * factor) x.ratio.2
  | other => other

end Double

end PlainScript.Number
