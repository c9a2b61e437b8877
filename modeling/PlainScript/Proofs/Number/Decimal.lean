/-
Decimals of doubles that are not zero have digits, so that their text is a numeral: a whole part
without leading zeros, and places behind a point or a power of ten.
-/

import PlainScript.Number.Integer
import PlainScript.Number.Text
import PlainScript.Proofs.Number.Double

namespace PlainScript.Number

/-! Numerals -/

/-- The digits of a whole number: a zero stands in front only if it stands alone. -/
structure IsWhole (chars : List Char) : Prop where
  digits : ∀ c ∈ chars, c.isDigit = true
  ne_nil : chars ≠ []
  leading : chars.head? = some '0' → chars = ['0']

/-- A number without its sign, as it is written; a power has a sign of its own. -/
structure Numeral where
  whole : List Char
  places : List Char := []
  power : Option (Char × List Char) := none

namespace Numeral

def placesChars (places : List Char) : List Char :=
  if places.isEmpty then [] else '.' :: places

def powerChars : Option (Char × List Char) → List Char
  | none => []
  | some (sign, digits) => 'e' :: sign :: digits

def chars (numeral : Numeral) : List Char :=
  numeral.whole ++ (placesChars numeral.places ++ powerChars numeral.power)

structure IsProper (numeral : Numeral) : Prop where
  whole : IsWhole numeral.whole
  places : ∀ c ∈ numeral.places, c.isDigit = true
  power : ∀ power ∈ numeral.power,
    (power.1 = '+' ∨ power.1 = '-') ∧ power.2 ≠ [] ∧ ∀ c ∈ power.2, c.isDigit = true

/-- Whether the number is told from a whole one. -/
def isFloat (numeral : Numeral) : Bool := !(numeral.places.isEmpty && numeral.power.isNone)

end Numeral

/-- The characters of a number that is told from a whole one. -/
def IsFloat (chars : List Char) : Prop :=
  ∃ numeral : Numeral, numeral.IsProper ∧ numeral.isFloat = true ∧ chars = numeral.chars

theorem isDigit_of_mem_toDigits {number : Nat} :
    ∀ c ∈ Nat.toDigits 10 number, c.isDigit = true :=
  fun _ => Nat.isDigit_of_mem_toDigits (by decide) (by decide)

theorem head?_toDigits {number : Nat} (zero : (Nat.toDigits 10 number).head? = some '0') :
    number = 0 := by
  induction number using Nat.strongRecOn with
  | ind number ih =>
      rw [Nat.toDigits_eq_if (by decide)] at zero
      split at zero
      · rename_i small
        have all : ∀ digit < 10, Nat.digitChar digit = '0' → digit = 0 := by decide
        exact all number small (by simpa using zero)
      · rename_i large
        rw [List.head?_append, Option.or_of_isSome (by simp)] at zero
        have := ih (number / 10) (by omega) zero
        omega

theorem isWhole_toDigits (number : Nat) : IsWhole (Nat.toDigits 10 number) where
  digits := isDigit_of_mem_toDigits
  ne_nil := Nat.toDigits_ne_nil
  leading zero := by rw [head?_toDigits zero, Nat.toDigits_zero]

/-- Digits of a number that is not zero stay a whole number when more follow, or are left out at
the end. -/
theorem isWhole_of_head? {number : Nat} (nonzero : number ≠ 0) {digits : List Char}
    (all : ∀ c ∈ digits, c.isDigit = true)
    (same : digits.head? = (Nat.toDigits 10 number).head?) : IsWhole digits where
  digits := all
  ne_nil := by
    rintro rfl
    exact Nat.toDigits_ne_nil (List.head?_eq_none_iff.mp same.symm)
  leading zero := absurd (head?_toDigits (same ▸ zero)) nonzero

theorem isDigit_of_mem_zeros {count : Nat} : ∀ c ∈ List.replicate count '0', c.isDigit = true := by
  intro c member
  rw [List.eq_of_mem_replicate member]
  decide

/-! Powers of ten -/

/-- A quotient that is at least one stays so with a greater power of ten. -/
theorem scaleTen_le_scaleTen {numerator denominator : Nat} {exponent larger : Int}
    (least : (scaleTen numerator denominator exponent).2 ≤
      (scaleTen numerator denominator exponent).1) (less : exponent ≤ larger) :
    (scaleTen numerator denominator larger).2 ≤ (scaleTen numerator denominator larger).1 := by
  unfold scaleTen at least ⊢
  by_cases natural : 0 ≤ exponent
  · rw [if_pos natural] at least
    rw [if_pos (by omega)]
    exact Nat.le_trans least
      (Nat.mul_le_mul_left _ (natPow_le_natPow (by decide) (by omega)))
  · rw [if_neg natural] at least
    split
    · have one : denominator ≤ denominator * Nat.pow 10 (-exponent).toNat :=
        Nat.le_mul_of_pos_right _ (natPow_pos (by decide) _)
      exact Nat.le_trans (Nat.le_trans one least)
        (Nat.le_mul_of_pos_right _ (natPow_pos (by decide) _))
    · refine Nat.le_trans (Nat.mul_le_mul_left _ ?_) least
      exact natPow_le_natPow (by decide) (by omega)

theorem scaleTen_denominator_pos {numerator denominator : Nat} (positive : 0 < denominator)
    (exponent : Int) : 0 < (scaleTen numerator denominator exponent).2 := by
  unfold scaleTen
  split
  · exact positive
  · exact Nat.mul_pos positive (natPow_pos (by decide) _)

theorem lt_pow_digitCount (number : Nat) : number < Nat.pow 10 (digitCount number) :=
  (Nat.length_toDigits_le_iff (by decide) Nat.length_toDigits_pos).mp (Nat.le_refl _)

theorem digitCount_le_digitCount {number larger : Nat} (less : number ≤ larger) :
    digitCount number ≤ digitCount larger :=
  (Nat.length_toDigits_le_iff (by decide) Nat.length_toDigits_pos).mpr
    (Nat.lt_of_le_of_lt less (lt_pow_digitCount larger))

theorem isShort_natCast_of_le {number larger : Nat} (less : number ≤ larger)
    (short : isShort larger = true) : isShort number = true := by
  rw [isShort, decide_eq_true_eq, Int.natAbs_natCast] at short ⊢
  exact Nat.le_trans (digitCount_le_digitCount less) short

theorem pow_le_of_digitCount {number : Nat} (positive : 0 < number) :
    Nat.pow 10 (digitCount number - 1) ≤ number := by
  by_cases one : digitCount number = 1
  · rw [one]
    exact positive
  · have some : 0 < digitCount number := Nat.length_toDigits_pos
    refine Nat.le_of_not_lt fun small => ?_
    have short := (Nat.length_toDigits_le_iff (by decide) (by omega)).mpr small
    change digitCount number ≤ digitCount number - 1 at short
    omega

/-- The quotient reaches the power of ten that leads its digits. -/
theorem scaleTen_leadingTen {numerator denominator : Nat} (positive : 0 < numerator) :
    (scaleTen numerator denominator (-leadingTen numerator denominator)).2 ≤
      (scaleTen numerator denominator (-leadingTen numerator denominator)).1 := by
  unfold leadingTen
  dsimp only
  split
  · rename_i reached
    exact reached
  · have least := pow_le_of_digitCount positive
    have most := lt_pow_digitCount denominator
    have some : 0 < digitCount numerator := Nat.length_toDigits_pos
    unfold scaleTen
    split
    · have split : digitCount denominator = (digitCount numerator - 1) +
          (-((digitCount numerator : Int) - digitCount denominator - 1)).toNat := by omega
      calc denominator ≤ Nat.pow 10 (digitCount denominator) := Nat.le_of_lt most
        _ = Nat.pow 10 (digitCount numerator - 1) * Nat.pow 10
            (-((digitCount numerator : Int) - digitCount denominator - 1)).toNat := by
          rw [← natPow_add, ← split]
        _ ≤ _ := Nat.mul_le_mul_right _ least
    · have split : digitCount numerator - 1 = digitCount denominator +
          (- -((digitCount numerator : Int) - digitCount denominator - 1)).toNat := by omega
      calc _ ≤ Nat.pow 10 (digitCount denominator) * Nat.pow 10
            (- -((digitCount numerator : Int) - digitCount denominator - 1)).toNat :=
          Nat.mul_le_mul_right _ (Nat.le_of_lt most)
        _ = Nat.pow 10 (digitCount numerator - 1) := by rw [← natPow_add, ← split]
        _ ≤ numerator := least

/-! Decimals of doubles -/

namespace Decimal

variable {numerator denominator count : Nat}

/-- A quotient with its first digits in front of the point has a whole part. -/
theorem scaleTen_first (positive : 0 < numerator) (some : 0 < count) :
    (scaleTen numerator denominator (-(leadingTen numerator denominator - count + 1))).2 ≤
      (scaleTen numerator denominator (-(leadingTen numerator denominator - count + 1))).1 :=
  scaleTen_le_scaleTen (scaleTen_leadingTen positive) (by omega)

theorem neighbours_digits_ne_zero (positive : 0 < numerator) (divides : 0 < denominator)
    (some : 0 < count) : (neighbours numerator denominator count).1.digits ≠ 0 ∧
      (neighbours numerator denominator count).2.digits ≠ 0 :=
  ⟨Nat.ne_of_gt (Nat.div_pos (scaleTen_first positive some) (scaleTen_denominator_pos divides _)),
    Nat.succ_ne_zero _⟩

theorem nearest_digits_ne_zero (positive : 0 < numerator) (divides : 0 < denominator)
    (some : 0 < count) : (nearest numerator denominator count).digits ≠ 0 := by
  have whole := Nat.div_pos (scaleTen_first positive some)
    (scaleTen_denominator_pos divides (-(leadingTen numerator denominator - count + 1)))
  unfold nearest roundDiv
  dsimp only
  split
  · exact Nat.ne_of_gt whole
  · split
    · exact Nat.succ_ne_zero _
    · omega

theorem shortestFrom_digits_ne_zero (x : Double) (positive : 0 < numerator)
    (divides : 0 < denominator) (left : Nat) (some : 0 < count) :
    (shortestFrom x numerator denominator left count).digits ≠ 0 := by
  induction left generalizing count with
  | zero => exact nearest_digits_ne_zero positive divides some
  | succ left ih =>
      have both := neighbours_digits_ne_zero positive divides some
      unfold shortestFrom
      dsimp only
      split
      · exact nearest_digits_ne_zero positive divides some
      · exact both.1
      · exact both.2
      · exact ih (Nat.succ_pos count)

theorem stripZerosWithin_digits_ne_zero (fuel : Nat) {decimal : Decimal}
    (nonzero : decimal.digits ≠ 0) : (stripZerosWithin fuel decimal).digits ≠ 0 := by
  induction fuel generalizing decimal with
  | zero => exact nonzero
  | succ fuel ih =>
      unfold stripZerosWithin
      split
      · rename_i tens
        simp only [Bool.and_eq_true, beq_iff_eq] at tens
        refine ih ?_
        change decimal.digits / 10 ≠ 0
        omega
      · exact nonzero

/-- The shortest decimal of a double that is not zero is not zero. -/
theorem shortest_digits_ne_zero {significand : Nat} (nonzero : significand ≠ 0) (exponent : Int) :
    (shortest (.finite false significand exponent)).stripZeros.digits ≠ 0 := by
  refine stripZerosWithin_digits_ne_zero _ (shortestFrom_digits_ne_zero _ ?_ ?_ 17 (by decide))
  all_goals
    unfold Double.ratio scaleTwo
    dsimp only
    split
  · exact Nat.mul_pos (Nat.pos_of_ne_zero nonzero) (natPow_pos (by decide) _)
  · exact Nat.pos_of_ne_zero nonzero
  · exact Nat.one_pos
  · exact Nat.mul_pos Nat.one_pos (natPow_pos (by decide) _)

end Decimal

/-! Texts -/

section

variable {digits : List Char} {decimal : Decimal}

/-- The digits of a number in scientific notation: the first one is its whole part. -/
theorem isFloat_scientific {sign : Char} {power : List Char} (signed : sign = '+' ∨ sign = '-')
    (some : power ≠ []) (all : ∀ c ∈ power, c.isDigit = true) :
    IsWhole digits → digits.head? ≠ Option.some '0' →
      IsFloat ((match digits with
        | first :: second :: rest => first :: '.' :: second :: rest
        | short => short) ++ 'e' :: sign :: power) := by
  intro isWhole nonzero
  have isPower : ∀ held ∈ Option.some (sign, power),
      (held.1 = '+' ∨ held.1 = '-') ∧ held.2 ≠ [] ∧ ∀ c ∈ held.2, c.isDigit = true := by
    rintro held ⟨⟩
    exact ⟨signed, some, all⟩
  match digits with
  | [] => exact absurd rfl isWhole.ne_nil
  | [first] =>
      exact ⟨⟨[first], [], Option.some (sign, power)⟩, ⟨isWhole, by simp, isPower⟩, rfl, rfl⟩
  | first :: second :: rest =>
      have isDigits := List.forall_mem_cons.mp isWhole.digits
      refine ⟨⟨[first], second :: rest, Option.some (sign, power)⟩,
        ⟨⟨by simpa using isDigits.1, by simp, fun zero => absurd zero nonzero⟩, isDigits.2, isPower⟩,
        rfl, rfl⟩

/-- In a layout that keeps a place the text of a decimal that is not zero tells it from a whole
number. -/
theorem isFloat_write {layout : DecimalLayout} (keeps : layout.keepsPlace = true)
    (nonzero : decimal.digits ≠ 0) : IsFloat (layout.write decimal).toList := by
  have isWhole := isWhole_toDigits decimal.digits
  have head : (Nat.toDigits 10 decimal.digits).head? ≠ some '0' :=
    fun zero => nonzero (head?_toDigits zero)
  have written : (toString decimal.digits).toList = Nat.toDigits 10 decimal.digits := by
    rw [Nat.toString_eq_repr, Nat.toList_repr]
  have length : (toString decimal.digits).length = (Nat.toDigits 10 decimal.digits).length := by
    rw [← String.length_toList, written]
  have long : 0 < (Nat.toDigits 10 decimal.digits).length := Nat.length_toDigits_pos
  unfold DecimalLayout.write
  dsimp only
  rw [written, length, if_pos keeps]
  generalize leads : decimal.exponent + ((Nat.toDigits 10 decimal.digits).length : Int) - 1 = leading
  split
  · split
    · -- Zeros fill the whole part up to the point.
      refine ⟨⟨Nat.toDigits 10 decimal.digits ++ List.replicate decimal.exponent.toNat '0', ['0'],
        none⟩, ⟨isWhole_of_head? nonzero ?_ ?_, by simp, by simp⟩, rfl, ?_⟩
      · exact List.forall_mem_append.mpr ⟨isWhole.digits, isDigit_of_mem_zeros⟩
      · rw [List.head?_append, Option.or_of_isSome (by simp)]
      · simp [zeros, Numeral.chars, Numeral.placesChars, Numeral.powerChars]
    · split
      · -- The point stands between the digits.
        have further : (Nat.toDigits 10 decimal.digits).drop (leading.toNat + 1) ≠ [] := by
          rw [Ne, List.drop_eq_nil_iff]
          omega
        refine ⟨⟨(Nat.toDigits 10 decimal.digits).take (leading.toNat + 1),
          (Nat.toDigits 10 decimal.digits).drop (leading.toNat + 1), none⟩,
          ⟨isWhole_of_head? nonzero ?_ ?_, ?_, by simp⟩, ?_, ?_⟩
        · exact fun c member => isWhole.digits c (List.mem_of_mem_take member)
        · rw [List.head?_take, if_neg (Nat.succ_ne_zero _)]
        · exact fun c member => isWhole.digits c (List.mem_of_mem_drop member)
        · simp [Numeral.isFloat, further]
        · simp [Numeral.chars, Numeral.placesChars, Numeral.powerChars, further]
      · -- The whole part is a zero, and more follow behind the point.
        refine ⟨⟨['0'], List.replicate ((-leading).toNat - 1) '0' ++
          Nat.toDigits 10 decimal.digits, none⟩,
          ⟨⟨by simp, by simp, fun _ => rfl⟩, ?_, by simp⟩, ?_, ?_⟩
        · exact List.forall_mem_append.mpr ⟨isDigit_of_mem_zeros, isWhole.digits⟩
        · simp [Numeral.isFloat]
        · simp [zeros, Numeral.chars, Numeral.placesChars, Numeral.powerChars]
  · have power : ∀ c ∈ (if (toString leading.natAbs).length < 2 then
        "0" ++ toString leading.natAbs else toString leading.natAbs).toList,
        c.isDigit = true := by
      intro c member
      split at member
      · rw [String.toList_append, List.mem_append] at member
        rcases member with zero | member
        · rw [List.mem_singleton.mp zero]
          decide
        · exact isDigit_of_mem_toDigits c (by simpa using member)
      · exact isDigit_of_mem_toDigits c (by simpa using member)
    have some : (if (toString leading.natAbs).length < 2 then
        "0" ++ toString leading.natAbs else toString leading.natAbs).toList ≠ [] := by
      split <;> simp
    obtain ⟨sign, signed, same⟩ : ∃ sign, (sign = '+' ∨ sign = '-') ∧
        (if leading < 0 then "e-" else "e+").toList = ['e', sign] := by
      split
      · exact ⟨'-', .inr rfl, rfl⟩
      · exact ⟨'+', .inl rfl, rfl⟩
    rw [String.toList_append, String.toList_append, String.toList_ofList, List.append_assoc, same]
    exact isFloat_scientific signed some power isWhole head

end

/-- The text of a finite double, apart from its sign, tells it from a whole number. -/
theorem Double.isFloat_text (negative : Bool) (significand : Nat) (exponent : Int) :
    ∃ chars, IsFloat chars ∧ (Double.finite negative significand exponent).text.toList =
      (if negative then ['-'] else []) ++ chars := by
  have marked (text : String) : (signed (.finite negative significand exponent) text).toList =
      (if negative then ['-'] else []) ++ text.toList := by
    rw [signed, isNegative]
    cases negative with
    | false => rfl
    | true => exact String.toList_append
  cases significand with
  | zero =>
      have isZero : IsFloat "0.0".toList :=
        ⟨⟨['0'], ['0'], none⟩, ⟨⟨by simp, by simp, fun _ => rfl⟩, by simp, by simp⟩, rfl, rfl⟩
      exact ⟨_, isZero, marked _⟩
  | succ significand =>
      have isDecimal := @isFloat_write _ fullLayout rfl
        (Decimal.shortest_digits_ne_zero (Nat.succ_ne_zero significand) exponent)
      exact ⟨_, isDecimal, marked _⟩

end PlainScript.Number
