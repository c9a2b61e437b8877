/-
Texts of one alphabet: a property of its letters is checked letter by letter, and its letters change
their case one by one.
-/

import Mathlib.Data.List.Basic
import PlainScript.Text.Case

namespace PlainScript.Chars

/-- A property of letters that is checked for one alphabet. -/
theorem forall_ascii {P : Char → Prop} (all : ∀ code < 128, P (.ofNat code)) {c : Char}
    (ascii : c.toNat < 128) : P c := by
  have here := all c.toNat ascii
  rwa [Char.ofNat_toNat] at here

theorem toNat_lt_of_small {c : Char} (small : (c.isLower || c.isDigit) = true) : c.toNat < 128 := by
  delta Char.isLower Char.isDigit at small
  simp only [Bool.or_eq_true, Bool.and_eq_true, decide_eq_true_eq, UInt32.le_iff_toNat_le,
    ge_iff_le] at small
  have last : 'z'.val.toNat = 122 ∧ '9'.val.toNat = 57 := ⟨rfl, rfl⟩
  have same : c.toNat = c.val.toNat := rfl
  omega

/-- The lower case of a text of one alphabet. -/
theorem lowerFrom_of_ascii {chars : List Char} (ascii : ∀ c ∈ chars, c.toNat < 128)
    (before : List Char) : lowerFrom before chars = chars.map Char.toLower := by
  induction chars generalizing before with
  | nil => rfl
  | cons c chars ih =>
      rw [List.forall_mem_cons] at ascii
      have noSigma : (c == 'Σ') = false := by
        rw [beq_eq_false_iff_ne]
        rintro rfl
        exact absurd ascii.1 (by decide)
      have single : Text.lowerCase c = [c.toLower] := by
        have other : (c.toNat == 0x130) = false := by
          rw [beq_eq_false_iff_ne]
          omega
        have small : c.val < 128 := UInt32.lt_iff_toNat_lt.mpr ascii.1
        simp [Text.lowerCase, Text.lowerChar, other, small]
      rw [lowerFrom, noSigma, if_neg Bool.false_ne_true, single, ih ascii.2]
      rfl

/-- The upper case of a text of one alphabet. -/
theorem upper_of_ascii {chars : List Char} (ascii : ∀ c ∈ chars, c.toNat < 128) :
    upper chars = chars.map Char.toUpper := by
  have single : ∀ c ∈ chars, Text.upperCase c = [c.toUpper] := by
    intro c member
    have small : c.val < 128 := UInt32.lt_iff_toNat_lt.mpr (ascii c member)
    exact if_pos small
  rw [upper, List.flatMap_congr single, ← List.map_eq_flatMap]

end PlainScript.Chars
