/-
The characters of numbers: digits, signs, a point and the few letters of exponents and of values
that are no numbers.
-/

import PlainScript.Number.Text

namespace PlainScript.Number

/-- The characters that texts of numbers are written with. -/
def isNumeral (c : Char) : Bool := c.isDigit || ['-', '+', '.', 'e', 'i', 'n', 'f', 'a'].contains c

/-- Only characters of numbers stand in the text. -/
def IsNumeral (text : String) : Prop := ∀ c ∈ text.toList, isNumeral c = true

theorem IsNumeral.append {left right : String} (first : IsNumeral left) (second : IsNumeral right) :
    IsNumeral (left ++ right) := by
  intro c member
  rw [String.toList_append, List.mem_append] at member
  exact member.elim (first c) (second c)

theorem isNumeral_ofList {chars : List Char} (all : ∀ c ∈ chars, isNumeral c = true) :
    IsNumeral (.ofList chars) := by
  rwa [IsNumeral, String.toList_ofList]

/-- A written text is judged by its characters. -/
theorem isNumeral_of_all {chars : List Char} (all : chars.all isNumeral = true) :
    IsNumeral (.ofList chars) :=
  isNumeral_ofList (List.all_eq_true.mp all)

theorem isNumeral_toString_nat (number : Nat) : IsNumeral (toString number) := by
  intro c member
  have digit : c.isDigit = true := by
    rw [Nat.toString_eq_repr, Nat.toList_repr] at member
    exact Nat.isDigit_of_mem_toDigits (by decide) (by decide) member
  rw [isNumeral, digit, Bool.true_or]

theorem isNumeral_toString_int (number : Int) : IsNumeral (toString number) := by
  rw [Int.toString_eq_repr, Int.repr_eq_if]
  split
  · exact isNumeral_toString_nat _
  · exact IsNumeral.append (isNumeral_of_all (by decide)) (isNumeral_toString_nat _)

theorem isNumeral_zeros (count : Nat) : IsNumeral (zeros count) :=
  isNumeral_ofList fun c member => by
    rw [List.eq_of_mem_replicate member]
    decide

/-- A decimal is written as a number in every layout. -/
theorem DecimalLayout.isNumeral_write (layout : DecimalLayout) (decimal : Decimal) :
    IsNumeral (layout.write decimal) := by
  have digits := isNumeral_toString_nat decimal.digits
  have power (exponent : Int) := isNumeral_toString_nat exponent.natAbs
  rw [write]
  split
  · split
    · refine (digits.append (isNumeral_zeros _)).append ?_
      split <;> exact isNumeral_of_all (by decide)
    · split
      · refine isNumeral_ofList fun c member => ?_
        rcases List.mem_append.mp member with inWhole | inPlaces
        · exact digits c (List.mem_of_mem_take inWhole)
        · rcases List.mem_cons.mp inPlaces with rfl | inPlaces
          · decide
          · exact digits c (List.mem_of_mem_drop inPlaces)
      · exact (IsNumeral.append (isNumeral_of_all (by decide)) (isNumeral_zeros _)).append digits
  · refine (IsNumeral.append (isNumeral_ofList ?_) ?_).append ?_
    · split
      · rename_i first second rest same
        intro c member
        rcases List.mem_cons.mp member with rfl | member
        · exact digits c (same ▸ List.mem_cons_self)
        · rcases List.mem_cons.mp member with rfl | member
          · decide
          · exact digits c (same ▸ List.mem_cons_of_mem first member)
      · exact digits
    · split <;> exact isNumeral_of_all (by decide)
    · split
      · exact IsNumeral.append (isNumeral_of_all (by decide)) (power _)
      · exact power _

theorem Double.isNumeral_signed (x : Double) {text : String} (plain : IsNumeral text) :
    IsNumeral (x.signed text) := by
  rw [signed]
  split
  · exact IsNumeral.append (isNumeral_of_all (by decide)) plain
  · exact plain

/-- The brief text of a double is written as a number. -/
theorem Double.isNumeral_briefText (x : Double) : IsNumeral x.briefText := by
  unfold briefText
  split
  · exact isNumeral_signed _ (isNumeral_of_all (by decide))
  · exact isNumeral_of_all (by decide)
  · exact isNumeral_signed _ (isNumeral_of_all (by decide))
  · exact isNumeral_signed _ (DecimalLayout.isNumeral_write _ _)

theorem Double.isNumeral_tenthsText (x : Double) : IsNumeral x.tenthsText := by
  unfold tenthsText
  split
  · exact isNumeral_signed _ (isNumeral_of_all (by decide))
  · exact isNumeral_of_all (by decide)
  · exact isNumeral_signed _ (((isNumeral_toString_nat _).append (isNumeral_of_all (by decide))).append
      (isNumeral_toString_nat _))

end PlainScript.Number
