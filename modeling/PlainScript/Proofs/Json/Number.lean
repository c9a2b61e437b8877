/-
Reading numbers that were written, with whatever follows them: a whole number comes back, and a
number with places as one with places.
-/

import PlainScript.Json.Writer
import PlainScript.Proofs.Number.Decimal

namespace PlainScript.Json

open Number

/-- What follows a number is no part of it. -/
def EndsNumber (rest : List Char) : Prop :=
  ∀ c ∈ rest.head?, c.isDigit = false ∧ c ≠ '.' ∧ c ≠ 'e' ∧ c ≠ 'E'

theorem endsNumber_nil : EndsNumber [] := nofun

theorem endsNumber_cons {c : Char}
    (ends : c.isDigit = false ∧ c ≠ '.' ∧ c ≠ 'e' ∧ c ≠ 'E') (rest : List Char) :
    EndsNumber (c :: rest) := by
  rintro _ ⟨⟩
  exact ends

section Parts

variable {digits rest : List Char}

theorem takeWhile_isDigit (all : ∀ c ∈ digits, c.isDigit = true)
    (ends : ∀ c ∈ rest.head?, c.isDigit = false) :
    (digits ++ rest).takeWhile Char.isDigit = digits := by
  rw [List.takeWhile_append_of_pos all]
  cases rest with
  | nil => rw [List.takeWhile_nil, List.append_nil]
  | cons c rest =>
      rw [List.takeWhile_cons_of_neg (by simp [ends c rfl]), List.append_nil]

theorem dropWhile_isDigit (all : ∀ c ∈ digits, c.isDigit = true)
    (ends : ∀ c ∈ rest.head?, c.isDigit = false) :
    (digits ++ rest).dropWhile Char.isDigit = rest := by
  rw [List.dropWhile_append_of_pos all]
  cases rest with
  | nil => rw [List.dropWhile_nil]
  | cons c rest => rw [List.dropWhile_cons_of_neg (by simp [ends c rfl])]

theorem readWhole_append (whole : IsWhole digits) (ends : ∀ c ∈ rest.head?, c.isDigit = false) :
    readWhole (digits ++ rest) = (digits, rest) := by
  unfold readWhole
  split
  · rename_i more same
    cases digits with
    | nil => exact absurd rfl whole.ne_nil
    | cons c digits =>
        obtain ⟨rfl, rfl⟩ := List.cons.inj same
        obtain ⟨-, rfl⟩ := List.cons.inj (whole.leading rfl)
        rfl
  · rw [takeWhile_isDigit whole.digits ends, dropWhile_isDigit whole.digits ends]

theorem readPlaces_append {places : List Char} (all : ∀ c ∈ places, c.isDigit = true)
    (ends : ∀ c ∈ rest.head?, c.isDigit = false ∧ c ≠ '.') :
    readPlaces (Numeral.placesChars places ++ rest) = (places, rest) := by
  have apart : ∀ c ∈ rest.head?, c.isDigit = false := fun c first => (ends c first).1
  cases places with
  | nil =>
      change readPlaces rest = _
      unfold readPlaces
      split
      · rename_i more
        exact absurd rfl (ends '.' rfl).2
      · rfl
  | cons c places =>
      change readPlaces ('.' :: ((c :: places) ++ rest)) = _
      rw [readPlaces, takeWhile_isDigit all apart, dropWhile_isDigit all apart]
      rfl

/-- The power that a sign and digits stand for. -/
def powerValue (power : Char × List Char) : Int :=
  if power.1 = '-' then -(digitsValue power.2 : Int) else digitsValue power.2

theorem readPower_append {power : Option (Char × List Char)}
    (proper : ∀ held ∈ power,
      (held.1 = '+' ∨ held.1 = '-') ∧ held.2 ≠ [] ∧ ∀ c ∈ held.2, c.isDigit = true)
    (ends : EndsNumber rest) :
    readPower (Numeral.powerChars power ++ rest) = (power.map powerValue, rest) := by
  cases power with
  | none =>
      change readPower rest = (none, rest)
      unfold readPower
      split
      · rename_i c more
        obtain ⟨-, -, small, large⟩ := ends c rfl
        rw [if_neg (by simp [small, large])]
      · rfl
  | some power =>
      obtain ⟨sign, digits⟩ := power
      obtain ⟨signed, some, all⟩ := proper _ rfl
      have apart : ∀ c ∈ rest.head?, c.isDigit = false := fun c first => (ends c first).1
      have filled : digits.isEmpty = false := by simpa using some
      change readPower ('e' :: sign :: (digits ++ rest)) = _
      rcases signed with rfl | rfl
      all_goals
        simp only [readPower, takeWhile_isDigit all apart, dropWhile_isDigit all apart, filled]
        rfl

end Parts

/-! Numbers -/

variable {numeral : Numeral} {rest : List Char}

theorem head?_powerChars_append (power : Option (Char × List Char)) (ends : EndsNumber rest) :
    ∀ c ∈ (Numeral.powerChars power ++ rest).head?, c.isDigit = false ∧ c ≠ '.' := by
  cases power with
  | none => exact fun c first => ⟨(ends c first).1, (ends c first).2.1⟩
  | some power =>
      rintro c ⟨⟩
      decide

theorem head?_placesChars_append (places : List Char) (power : Option (Char × List Char))
    (ends : EndsNumber rest) :
    ∀ c ∈ (Numeral.placesChars places ++ (Numeral.powerChars power ++ rest)).head?,
      c.isDigit = false := by
  cases places with
  | nil => exact fun c first => (head?_powerChars_append power ends c first).1
  | cons place places =>
      rintro c ⟨⟩
      decide

/-- A number is read up to what is no part of it. -/
theorem readNumber_append (negative : Bool) (proper : numeral.IsProper) (ends : EndsNumber rest) :
    readNumber negative (numeral.chars ++ rest) = some (
      if numeral.isFloat then
        .float (.ofDecimal negative (digitsValue (numeral.whole ++ numeral.places))
          ((numeral.power.map powerValue).getD 0 - numeral.places.length))
      else
        .int (if negative then -(digitsValue numeral.whole : Int) else digitsValue numeral.whole),
      rest) := by
  have filled : numeral.whole.isEmpty = false := by simpa using proper.whole.ne_nil
  rw [readNumber, Numeral.chars, List.append_assoc, List.append_assoc,
    readWhole_append proper.whole (head?_placesChars_append _ _ ends)]
  dsimp only
  rw [filled, if_neg (by decide),
    readPlaces_append proper.places (head?_powerChars_append _ ends)]
  dsimp only
  rw [readPower_append proper.power ends, Numeral.isFloat]
  cases numeral.places.isEmpty <;> cases numeral.power <;> rfl

/-- A number begins with a digit. -/
theorem exists_chars_eq (proper : numeral.IsProper) :
    ∃ c chars, numeral.chars = c :: chars ∧ c.isDigit = true := by
  obtain ⟨c, digits, same⟩ := List.exists_cons_of_ne_nil proper.whole.ne_nil
  exact ⟨c, _, by rw [Numeral.chars, same]; rfl, proper.whole.digits c (by simp [same])⟩

/-- The sign of a number. -/
def signChars (negative : Bool) : List Char := if negative then ['-'] else []

/-- A word or a number that begins with a digit, or with one behind a sign, is no word. -/
theorem readScalar_append (negative : Bool) {c : Char} (digit : c.isDigit = true)
    (chars : List Char) {result : Value × List Char}
    (reads : readNumber negative (c :: chars) = some result)
    (short : ∀ number, result.1 = .int number → isShort number = true) :
    readScalar (signChars negative ++ c :: chars) = .ok result := by
  have noLetter (letter : Char) (apart : letter.isDigit = false) : (letter == c) = false := by
    rw [beq_eq_false_iff_ne]
    rintro rfl
    exact absurd digit (by simp [apart])
  have noWord : keywords.find? (·.1.isPrefixOf (signChars negative ++ c :: chars)) = none := by
    cases negative <;>
      simp [keywords, signChars, List.isPrefixOf, noLetter]
  have number : readSigned (signChars negative ++ c :: chars) = some result := by
    cases negative with
    | true => exact reads
    | false =>
        rw [← reads, signChars, if_neg (by decide), List.nil_append, readSigned]
        rintro more same
        obtain ⟨rfl, -⟩ := List.cons.inj same
        exact absurd digit (by decide)
  rw [readScalar, noWord]
  dsimp only
  rw [number]
  split
  · rename_i whole rest same
    obtain rfl := Option.some.inj same
    rw [if_pos (short whole rfl)]
  · rename_i same
    rw [Option.some.inj same]
  · contradiction

/-- A number with its sign is read up to what is no part of it. -/
theorem readScalar_chars (negative : Bool) (proper : numeral.IsProper) {value : Value}
    (reads : readNumber negative (numeral.chars ++ rest) = some (value, rest))
    (short : ∀ number, value = .int number → isShort number = true) :
    readScalar (signChars negative ++ (numeral.chars ++ rest)) = .ok (value, rest) := by
  obtain ⟨c, chars, same, digit⟩ := exists_chars_eq proper
  rw [same, List.cons_append] at reads ⊢
  exact readScalar_append negative digit _ reads short

theorem toList_toString_int (number : Int) : (toString number).toList =
    signChars (number < 0) ++ (⟨Nat.toDigits 10 number.natAbs, [], none⟩ : Numeral).chars := by
  have digits : (⟨Nat.toDigits 10 number.natAbs, [], none⟩ : Numeral).chars =
      Nat.toDigits 10 number.natAbs := List.append_nil _
  rw [Int.toString_eq_repr, Int.repr_eq_if, digits]
  split
  · rename_i natural
    rw [decide_eq_false (by omega), show number.toNat = number.natAbs by omega, Nat.toList_repr]
    rfl
  · rename_i less
    rw [decide_eq_true (by omega), show (-number).toNat = number.natAbs by omega,
      String.toList_append, Nat.toList_repr]
    rfl

/-- A whole number comes back, unless it has too many digits. -/
theorem readScalar_int {number : Int} (short : isShort number = true) (ends : EndsNumber rest) :
    readScalar ((toString number).toList ++ rest) = .ok (.int number, rest) := by
  have proper : (⟨Nat.toDigits 10 number.natAbs, [], none⟩ : Numeral).IsProper :=
    ⟨isWhole_toDigits _, by simp, by simp⟩
  have value : digitsValue (Nat.toDigits 10 number.natAbs) = number.natAbs :=
    Nat.ofDigitChars_ten_toDigits
  rw [toList_toString_int, List.append_assoc]
  refine readScalar_chars _ proper ?_ (by rintro _ ⟨⟩; exact short)
  have signed : (if decide (number < 0) then -(number.natAbs : Int) else number.natAbs) =
      number := by
    simp only [decide_eq_true_eq]
    omega
  rw [readNumber_append _ proper ends, value, signed]
  rfl

/-- A number with places comes back as one, whatever follows it. -/
theorem exists_readScalar_float (number : Number.Double) : ∃ other, ∀ {rest}, EndsNumber rest →
    readScalar (floatChars number ++ rest) = .ok (.float other, rest) := by
  cases number with
  | finite negative significand exponent =>
      obtain ⟨_, ⟨numeral, proper, places, rfl⟩, same⟩ :=
        Double.isFloat_text negative significand exponent
      refine ⟨.ofDecimal negative (digitsValue (numeral.whole ++ numeral.places))
        ((numeral.power.map powerValue).getD 0 - numeral.places.length), fun {rest} ends => ?_⟩
      rw [floatChars, same, List.append_assoc]
      refine readScalar_chars negative proper ?_ (by rintro _ ⟨⟩)
      rw [readNumber_append negative proper ends, if_pos places]
  | infinite negative =>
      refine ⟨.infinite negative, fun {rest} _ => ?_⟩
      cases negative <;> simp [floatChars, readScalar, keywords, List.isPrefixOf]
  | undefined =>
      refine ⟨.undefined, fun {rest} _ => ?_⟩
      simp [floatChars, readScalar, keywords, List.isPrefixOf]

/-! First characters -/

/-- The characters that a number begins with. -/
def BeginsNumber (c : Char) : Prop := c.isDigit = true ∨ c = '-' ∨ c = 'I' ∨ c = 'N'

theorem BeginsNumber.ne {c d : Char} (begins : BeginsNumber c)
    (other : d.isDigit = false ∧ d ≠ '-' ∧ d ≠ 'I' ∧ d ≠ 'N') : c ≠ d := by
  rintro rfl
  obtain ⟨noDigit, others⟩ := other
  rcases begins with digit | named
  · exact absurd digit (by simp [noDigit])
  · exact named.elim others.1 (Or.rec others.2.1 others.2.2)

theorem BeginsNumber.isSpace_eq_false {c : Char} (begins : BeginsNumber c) : isSpace c = false := by
  simp only [isSpace, Bool.or_eq_false_iff, beq_eq_false_iff_ne]
  exact ⟨⟨⟨begins.ne (by decide), begins.ne (by decide)⟩, begins.ne (by decide)⟩,
    begins.ne (by decide)⟩

theorem exists_signed_chars_eq (negative : Bool) (proper : numeral.IsProper) :
    ∃ c chars, signChars negative ++ numeral.chars = c :: chars ∧ BeginsNumber c := by
  cases negative with
  | true => exact ⟨'-', _, rfl, .inr (.inl rfl)⟩
  | false =>
      obtain ⟨c, chars, same, digit⟩ := exists_chars_eq proper
      exact ⟨c, chars, same, .inl digit⟩

theorem exists_toString_int_eq (number : Int) :
    ∃ c chars, (toString number).toList = c :: chars ∧ BeginsNumber c := by
  rw [toList_toString_int]
  exact exists_signed_chars_eq _ ⟨isWhole_toDigits _, by simp, by simp⟩

theorem exists_floatChars_eq (number : Number.Double) :
    ∃ c chars, floatChars number = c :: chars ∧ BeginsNumber c := by
  cases number with
  | finite negative significand exponent =>
      obtain ⟨_, ⟨numeral, proper, -, rfl⟩, same⟩ :=
        Double.isFloat_text negative significand exponent
      rw [floatChars, same]
      exact exists_signed_chars_eq negative proper
  | infinite negative =>
      cases negative with
      | true => exact ⟨'-', _, rfl, .inr (.inl rfl)⟩
      | false => exact ⟨'I', _, rfl, .inr (.inr (.inl rfl))⟩
  | undefined => exact ⟨'N', _, rfl, .inr (.inr (.inr rfl))⟩

end PlainScript.Json
