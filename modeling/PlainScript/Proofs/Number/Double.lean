/-
Which quotients are too large for a double: those that are nearest to a power of two beyond the
greatest exponent. Quotients are compared by products, so that nothing is rounded on the way.
-/

import PlainScript.Number.Double

namespace PlainScript.Number

/-! Powers, as the definitions write them -/

theorem natPow_add (base first second : Nat) :
    Nat.pow base (first + second) = Nat.pow base first * Nat.pow base second :=
  Nat.pow_add base first second

theorem natPow_succ (base exponent : Nat) :
    Nat.pow base (exponent + 1) = base * Nat.pow base exponent :=
  Nat.mul_comm _ base

theorem natPow_pos {base : Nat} (positive : 0 < base) (exponent : Nat) :
    0 < Nat.pow base exponent :=
  Nat.pow_pos positive

theorem natPow_le_natPow {base first second : Nat} (positive : 0 < base) (less : first ≤ second) :
    Nat.pow base first ≤ Nat.pow base second :=
  Nat.pow_le_pow_right positive less

/-! Quotients -/

variable {numerator denominator level shift : Nat} {exponent : Int}

/-- A quotient times a power of two is at least so large. -/
def Reaches (numerator denominator : Nat) (exponent : Int) (level : Nat) : Prop :=
  level * (scaleTwo numerator denominator exponent).2 ≤
    (scaleTwo numerator denominator exponent).1

theorem Reaches.mono {lower : Nat} (reaches : Reaches numerator denominator exponent level)
    (below : lower ≤ level) : Reaches numerator denominator exponent lower :=
  Nat.le_trans (Nat.mul_le_mul_right _ below) reaches

/-- A doubled quotient reaches the doubled level. -/
theorem reaches_succ_iff : Reaches numerator denominator (exponent + 1) (2 * level) ↔
    Reaches numerator denominator exponent level := by
  unfold Reaches scaleTwo
  rcases Int.lt_trichotomy exponent (-1) with less | same | more
  · rw [if_neg (by omega), if_neg (by omega)]
    have power : (-exponent).toNat = (-(exponent + 1)).toNat + 1 := by omega
    rw [power, natPow_succ]
    dsimp only
    rw [Nat.mul_left_comm denominator 2, Nat.mul_assoc 2 level, Nat.mul_left_comm level 2]
  · subst same
    rw [if_pos (by decide), if_neg (by decide)]
    change 2 * level * denominator ≤ numerator * 1 ↔ level * (denominator * 2) ≤ numerator
    rw [Nat.mul_one, Nat.mul_comm denominator 2, Nat.mul_left_comm level 2, Nat.mul_assoc]
  · rw [if_pos (by omega), if_pos (by omega)]
    have power : (exponent + 1).toNat = exponent.toNat + 1 := by omega
    rw [power, natPow_succ]
    dsimp only
    rw [Nat.mul_left_comm numerator 2, Nat.mul_assoc 2 level]
    exact Nat.mul_le_mul_left_iff (by decide)

theorem reaches_add_iff (shift : Nat) :
    Reaches numerator denominator (exponent + shift) (Nat.pow 2 shift * level) ↔
      Reaches numerator denominator exponent level := by
  induction shift with
  | zero =>
      have same : exponent + (0 : Nat) = exponent := Int.add_zero exponent
      rw [same]
      exact iff_of_eq (congrArg (Reaches numerator denominator exponent) (Nat.one_mul level))
  | succ shift ih =>
      rw [natPow_succ, Nat.mul_assoc, show exponent + (shift + 1 : Nat) = exponent + shift + 1 by
        omega, reaches_succ_iff, ih]

/-- What a quotient reaches it reaches with every greater power of two. -/
theorem Reaches.of_le {larger : Int} (reaches : Reaches numerator denominator exponent level)
    (less : exponent ≤ larger) : Reaches numerator denominator larger level := by
  obtain ⟨shift, rfl⟩ : ∃ shift : Nat, larger = exponent + shift :=
    ⟨(larger - exponent).toNat, by omega⟩
  exact ((reaches_add_iff shift).mpr reaches).mono
    (Nat.le_mul_of_pos_left level (natPow_pos (by decide) shift))

/-! The exponent of a quotient -/

/-- The first guess: the quotient has between fifty-one and fifty-three binary digits. -/
theorem reaches_guess (positive : numerator ≠ 0) (divides : denominator ≠ 0) :
    Reaches numerator denominator (-((numerator.log2 : Int) - denominator.log2 - 52))
        0x8000000000000 ∧
      ¬Reaches numerator denominator (-((numerator.log2 : Int) - denominator.log2 - 52))
        0x20000000000000 := by
  have least : Nat.pow 2 numerator.log2 ≤ numerator := Nat.log2_self_le positive
  have most : numerator < Nat.pow 2 (numerator.log2 + 1) := Nat.lt_log2_self
  have least' : Nat.pow 2 denominator.log2 ≤ denominator := Nat.log2_self_le divides
  have most' : denominator < Nat.pow 2 (denominator.log2 + 1) := Nat.lt_log2_self
  generalize numerator.log2 = first at *
  generalize denominator.log2 = second at *
  constructor
  · have once : Reaches numerator denominator ((second : Int) - first + 1) 1 := by
      unfold Reaches scaleTwo
      rw [Nat.one_mul]
      split
      · -- Both sides are measured against a power of two between them.
        have power : second + 1 = first + ((second : Int) - first + 1).toNat := by omega
        have between : Nat.pow 2 (second + 1) =
            Nat.pow 2 first * Nat.pow 2 ((second : Int) - first + 1).toNat := by
          rw [power, natPow_add]
        calc
          denominator ≤ Nat.pow 2 (second + 1) := Nat.le_of_lt most'
          _ ≤ _ := between ▸ Nat.mul_le_mul_right _ least
      · have power : first = second + 1 + (-((second : Int) - first + 1)).toNat := by omega
        calc _ ≤ Nat.pow 2 (second + 1) * Nat.pow 2 (-((second : Int) - first + 1)).toNat :=
            Nat.mul_le_mul_right _ (Nat.le_of_lt most')
          _ = Nat.pow 2 first := by rw [← natPow_add, ← power]
          _ ≤ numerator := least
    exact ((reaches_add_iff 51).mpr once).of_le (by omega)
  · intro reaches
    have once : Reaches numerator denominator ((second : Int) - first - 1) 1 := by
      rw [← reaches_add_iff 53]
      exact reaches.of_le (by omega)
    unfold Reaches scaleTwo at once
    rw [Nat.one_mul] at once
    split at once
    · have power : second = first + 1 + ((second : Int) - first - 1).toNat := by omega
      have small : numerator * Nat.pow 2 ((second : Int) - first - 1).toNat <
          Nat.pow 2 second := by
        calc _ < Nat.pow 2 (first + 1) * Nat.pow 2 ((second : Int) - first - 1).toNat :=
            Nat.mul_lt_mul_of_pos_right most (natPow_pos (by decide) _)
          _ = Nat.pow 2 second := by rw [← natPow_add, ← power]
      exact absurd (Nat.le_trans least' once) (Nat.not_le_of_lt small)
    · have power : first + 1 = second + (-((second : Int) - first - 1)).toNat := by omega
      have large : Nat.pow 2 (first + 1) ≤
          denominator * Nat.pow 2 (-((second : Int) - first - 1)).toNat := by
        rw [power, natPow_add]
        exact Nat.mul_le_mul_right _ least'
      exact absurd (Nat.le_trans large once) (Nat.not_le_of_lt most)

/-! Rounding -/

/-- A quotient below an even number is rounded up to it exactly from the half before it on. -/
theorem roundDiv_eq_iff_of_even {bound : Nat} (even : bound % 2 = 0)
    (below : numerator < bound * denominator) :
    roundDiv numerator denominator = bound ↔
      2 * (bound * denominator) ≤ 2 * numerator + denominator := by
  have divides : 0 < denominator := Nat.pos_of_ne_zero (by rintro rfl; omega)
  have whole : numerator / denominator < bound := Nat.div_lt_of_lt_mul (Nat.mul_comm _ _ ▸ below)
  have parts := Nat.div_add_mod numerator denominator
  have rest := Nat.mod_lt numerator divides
  unfold roundDiv
  dsimp only
  by_cases last : numerator / denominator + 1 = bound
  · have product : bound * denominator =
        denominator * (numerator / denominator) + denominator := by
      rw [← last, Nat.add_mul, Nat.one_mul, Nat.mul_comm]
    rw [product]
    split
    · omega
    · split <;> omega
  · -- A quotient with a smaller whole part is too far away.
    have product : denominator * (numerator / denominator) + 2 * denominator ≤
        bound * denominator := by
      rw [Nat.mul_comm denominator, ← Nat.add_mul]
      exact Nat.mul_le_mul_right _ (by omega)
    split
    · omega
    · split <;> omega

namespace Double

/-- A quotient is rounded to fifty-three binary digits, or to fewer at the least exponent. -/
theorem exists_ofRatio_eq_roundAt (negative : Bool) (positive : numerator ≠ 0)
    (divides : denominator ≠ 0) :
    ∃ exact : Int, Reaches numerator denominator (-exact) 0x10000000000000 ∧
      ¬Reaches numerator denominator (-exact) 0x20000000000000 ∧
      ofRatio negative numerator denominator =
        roundAt negative numerator denominator (max exact (-1074)) := by
  have ⟨least, most⟩ := reaches_guess positive divides
  unfold ofRatio
  rw [if_neg (by simpa using positive)]
  generalize (numerator.log2 : Int) - denominator.log2 - 52 = guess at *
  dsimp only
  split
  · rename_i short
    refine ⟨guess - 1, ?_, ?_, rfl⟩
    · rw [show -(guess - 1) = -guess + 1 by omega]
      exact reaches_succ_iff.mpr least
    · rw [show -(guess - 1) = -guess + 1 by omega]
      intro reaches
      have once : 0x10000000000000 * _ ≤ _ := reaches_succ_iff.mp reaches
      omega
  · rename_i long
    refine ⟨guess, ?_, most, rfl⟩
    rw [Reaches, Nat.mul_comm]
    exact Nat.le_of_not_lt long

/-- A quotient with too large an exponent is infinite, and so is one that rounding takes there. -/
theorem roundAt_eq (negative : Bool) (numerator denominator : Nat) (exponent : Int) :
    roundAt negative numerator denominator exponent =
      if roundDiv (scaleTwo numerator denominator (-exponent)).1
          (scaleTwo numerator denominator (-exponent)).2 = 0x20000000000000 then
        if 971 < exponent + 1 then .infinite negative
        else .finite negative 0x10000000000000 (exponent + 1)
      else if 971 < exponent then .infinite negative
      else .finite negative (roundDiv (scaleTwo numerator denominator (-exponent)).1
        (scaleTwo numerator denominator (-exponent)).2) exponent := by
  unfold roundAt
  dsimp only
  split
  · rename_i carried
    rw [if_pos (beq_iff_eq.mp carried)]
  · rename_i kept
    rw [if_neg fun carried => kept (beq_iff_eq.mpr carried)]

theorem scaleTwo_neg (numerator denominator shift : Nat) :
    scaleTwo numerator denominator (-shift) = (numerator, denominator * Nat.pow 2 shift) := by
  unfold scaleTwo
  split
  · have same : shift = 0 := by omega
    subst same
    exact congr (congrArg Prod.mk (Nat.mul_one numerator)) (Nat.mul_one denominator).symm
  · rw [Int.neg_neg, Int.toNat_natCast]

theorem reaches_neg_iff (shift : Nat) : Reaches numerator denominator (-shift) level ↔
    level * Nat.pow 2 shift * denominator ≤ numerator := by
  rw [Reaches, scaleTwo_neg, Nat.mul_assoc, Nat.mul_comm denominator]

/-- Rounding carries a quotient over exactly from half a unit before the next power of two on. -/
theorem roundDiv_eq_iff_of_carry {shift : Nat}
    (most : ¬Reaches numerator denominator (-(shift + 1 : Nat)) 0x20000000000000) :
    roundDiv (scaleTwo numerator denominator (-(shift + 1 : Nat))).1
        (scaleTwo numerator denominator (-(shift + 1 : Nat))).2 = 0x20000000000000 ↔
      Reaches numerator denominator (-shift) 0x3FFFFFFFFFFFFF := by
  have doubled : denominator * Nat.pow 2 (shift + 1) = 2 * (denominator * Nat.pow 2 shift) := by
    rw [natPow_succ, Nat.mul_left_comm]
  rw [roundDiv_eq_iff_of_even (by decide) (Nat.lt_of_not_le most), Reaches, scaleTwo_neg,
    scaleTwo_neg, doubled]
  omega

theorem not_reaches_zero (divides : denominator ≠ 0) (some : level ≠ 0) (shift : Nat) :
    ¬Reaches 0 denominator (-shift) level := by
  rw [reaches_neg_iff, Nat.not_le]
  exact Nat.mul_pos (Nat.mul_pos (Nat.pos_of_ne_zero some) (natPow_pos (by decide) shift))
    (Nat.pos_of_ne_zero divides)

/-- The least whole number that is carried over to a power of two: it lies halfway from the
greatest number with fifty-three digits in front of so many zeros. -/
def carriedFrom (zeros : Nat) : Nat := 0x3FFFFFFFFFFFFF * Nat.pow 2 zeros

/-- The least whole number that is too large, for the greatest double has one zero more. -/
def limit : Nat := carriedFrom 970

/-- The count of zeros is kept as a name, for the digits would not fit here. -/
theorem exists_limit_eq : ∃ zeros, zeros = 970 ∧ limit = carriedFrom zeros :=
  ⟨970, rfl, rfl⟩

attribute [irreducible] limit

theorem le_limit : 0x3FFFFFFFFFFFFF ≤ limit := by
  obtain ⟨zeros, -, same⟩ := exists_limit_eq
  rw [same]
  exact Nat.le_mul_of_pos_right _ (natPow_pos (by decide) zeros)

theorem one_lt_limit : 1 < limit := Nat.lt_of_lt_of_le (by decide) le_limit

theorem ofRatio_eq_infinite_iff_reaches (negative : Bool) (divides : denominator ≠ 0)
    (top : shift = 970) :
    ofRatio negative numerator denominator = .infinite negative ↔
      Reaches numerator denominator (-shift) 0x3FFFFFFFFFFFFF := by
  by_cases positive : numerator = 0
  · subst positive
    exact iff_of_false nofun (not_reaches_zero divides (by decide) shift)
  · obtain ⟨exact, least, most, same⟩ := exists_ofRatio_eq_roundAt negative positive divides
    rw [same, roundAt_eq]
    rcases Int.lt_trichotomy exact (shift + 1 : Nat) with less | rfl | more
    · -- Even one digit more stays below the limit.
      refine iff_of_false ?_ fun all => most ?_
      · split <;> rw [if_neg (by omega)] <;> nofun
      · exact (all.mono (by decide)).of_le (by omega)
    · rw [show max ((shift + 1 : Nat) : Int) (-1074) = (shift + 1 : Nat) by omega]
      rw [← roundDiv_eq_iff_of_carry most]
      split
      · rename_i beyond
        exact iff_of_true (if_pos (by omega)) beyond
      · rename_i within
        refine iff_of_false ?_ within
        rw [if_neg (by omega)]
        nofun
    · refine iff_of_true ?_ ?_
      · split <;> rw [if_pos (by omega)]
      · have doubled : Reaches numerator denominator (-(shift + 1 : Nat) - 1 + 1 + 1)
            (2 * (2 * 0x10000000000000)) :=
          reaches_succ_iff.mpr (reaches_succ_iff.mpr (least.of_le (by omega)))
        exact (doubled.mono (by decide)).of_le (by omega)

/-- A quotient has no double exactly from the limit on. -/
theorem ofRatio_eq_infinite_iff (negative : Bool) (divides : denominator ≠ 0) :
    ofRatio negative numerator denominator = .infinite negative ↔
      limit * denominator ≤ numerator := by
  obtain ⟨zeros, top, same⟩ := exists_limit_eq
  rw [ofRatio_eq_infinite_iff_reaches negative divides top, same, carriedFrom, reaches_neg_iff]

/-- A rounded quotient is finite with its sign, or infinite with it. -/
theorem ofRatio_cases (negative : Bool) (numerator denominator : Nat) :
    ofRatio negative numerator denominator = .infinite negative ∨
      ∃ significand exponent,
        ofRatio negative numerator denominator = .finite negative significand exponent := by
  have rounded (exponent : Int) :
      roundAt negative numerator denominator exponent = .infinite negative ∨
        ∃ significand exponent',
          roundAt negative numerator denominator exponent = .finite negative significand exponent' := by
    rw [roundAt_eq]
    split <;> split
    · exact .inl rfl
    · exact .inr ⟨_, _, rfl⟩
    · exact .inl rfl
    · exact .inr ⟨_, _, rfl⟩
  unfold ofRatio
  split
  · exact .inr ⟨_, _, rfl⟩
  · exact rounded _

variable {dividend : Int}

/-- There is a quotient below the limit. -/
theorem quotient?_of_lt (small : dividend.natAbs < limit * denominator) :
    quotient? dividend denominator = some (.ofQuotient dividend denominator) := by
  have divides : denominator ≠ 0 := by
    rintro rfl
    exact absurd small (Nat.not_lt_zero _)
  unfold quotient? ofQuotient
  rcases ofRatio_cases (dividend < 0) dividend.natAbs denominator with beyond | ⟨_, _, same⟩
  · exact absurd ((ofRatio_eq_infinite_iff _ divides).mp beyond) (Nat.not_le_of_lt small)
  · rw [same]

/-- There is none from the limit on. -/
theorem quotient?_of_le (divides : denominator ≠ 0)
    (large : limit * denominator ≤ dividend.natAbs) : quotient? dividend denominator = none := by
  unfold quotient? ofQuotient
  rw [(ofRatio_eq_infinite_iff _ divides).mpr large]

end Double

end PlainScript.Number
