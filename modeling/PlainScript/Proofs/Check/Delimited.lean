/-
Masking part by part: a character that no piece holds cuts the text into parts that are masked each
on its own, and of the pieces that stand in a part the longest one is blanked out first.
-/

import PlainScript.Proofs.Check.Masking
import PlainScript.Proofs.Text.Occurrence
import PlainScript.Proofs.Text.Order

namespace PlainScript

namespace Masking

variable {piece text front back : List Char} {pieces : List (List Char)} {c : Char}

/-! Pieces in a text -/

theorem mem_longestFirst {piece : List Char} :
    piece ∈ longestFirst pieces ↔ piece ∈ pieces ∧ piece ≠ [] := by
  simp [longestFirst]

theorem pairwise_longestFirst (pieces : List (List Char)) :
    (longestFirst pieces).Pairwise fun first second => second.length ≤ first.length := by
  have sorted := Order.pairwise_sort
    (fun first second : List Char => decide (second.length ≤ first.length))
    (fun a b c => by simpa using fun ab bc => Nat.le_trans bc ab)
    (fun a b => by simpa using Nat.le_total b.length a.length)
    (pieces.filter (!·.isEmpty)).eraseDups
  exact sorted.imp fun le => by simpa using le

/-- A text in which the piece does not stand stays as it is. -/
theorem maskOne_eq_self (absent : ¬ piece <:+: text) : maskOne text piece = text := by
  have kept : Chars.replaceFrom piece (blanked piece) 0 text = text := by
    induction text with
    | nil => rfl
    | cons c text ih =>
        have here : piece.isPrefixOf (c :: text) = false := by
          rw [← Bool.not_eq_true, List.isPrefixOf_iff_prefix]
          exact fun before => absent before.isInfix
        rw [Chars.replaceFrom, here, if_neg Bool.false_ne_true,
          ih fun inside => absent (List.infix_cons inside)]
  rw [maskOne, Chars.replace, kept, ite_self]

/-- A text in which no piece stands stays as it is. -/
theorem maskChars_eq_self (absent : ∀ piece ∈ pieces, piece ≠ [] → ¬ piece <:+: text) :
    maskChars text pieces = text := by
  have all : ∀ piece ∈ longestFirst pieces, ¬ piece <:+: text := fun piece member =>
    absent piece (mem_longestFirst.mp member).1 (mem_longestFirst.mp member).2
  rw [maskChars]
  generalize longestFirst pieces = ordered at all
  induction ordered with
  | nil => rfl
  | cons piece ordered ih =>
      rw [List.foldl_cons, maskOne_eq_self (all piece List.mem_cons_self)]
      exact ih fun other member => all other (List.mem_cons_of_mem piece member)

/-- Pieces that are blanked out one after another fade what is left. -/
theorem fades_foldl_maskOne (text : List Char) (ordered : List (List Char)) :
    Fades text (ordered.foldl maskOne text) := by
  induction ordered generalizing text with
  | nil => exact Fades.refl text
  | cons piece ordered ih => exact (fades_maskOne text piece).trans (ih (maskOne text piece))

/-- If every piece in the text is shorter than a given one or the same, that one is blanked out
first. -/
theorem fades_maskOne_maskChars (member : piece ∈ pieces) (nonempty : piece ≠ [])
    (longest : ∀ other ∈ pieces, other <:+: text → other.length < piece.length ∨ other = piece) :
    Fades (maskOne text piece) (maskChars text pieces) := by
  have given := mem_longestFirst.mpr ⟨member, nonempty⟩
  have sorted := pairwise_longestFirst pieces
  have others : ∀ other ∈ longestFirst pieces, other <:+: text →
      other.length < piece.length ∨ other = piece := fun other inside =>
    longest other (mem_longestFirst.mp inside).1
  rw [maskChars]
  generalize longestFirst pieces = ordered at given sorted others
  induction ordered with
  | nil => exact absurd given List.not_mem_nil
  | cons first ordered ih =>
      obtain ⟨least, later⟩ := List.pairwise_cons.mp sorted
      rw [List.foldl_cons]
      rcases List.mem_cons.mp given with rfl | behind
      · exact fades_foldl_maskOne _ ordered
      · by_cases stands : first <:+: text
        · -- A piece in front is no shorter, so that it can only be the same.
          rcases others first List.mem_cons_self stands with shorter | rfl
          · exact absurd (least piece behind) (Nat.not_le_of_lt shorter)
          · exact fades_foldl_maskOne _ ordered
        · rw [maskOne_eq_self stands]
          exact ih behind later fun other inside => others other (List.mem_cons_of_mem first inside)

/-! Blanking out the first occurrence -/

theorem maskOne_append_self (nonempty : piece ≠ []) (back : List Char) :
    maskOne (piece ++ back) piece = blanked piece ++ maskOne back piece := by
  have visible : piece.isEmpty = false := by simpa using nonempty
  simp only [maskOne, Chars.replace, visible, Bool.false_eq_true, if_false,
    Chars.replaceFrom_piece_append nonempty]

/-- Characters with which the piece does not begin are passed over. -/
theorem maskOne_front_append (begins : piece.head? = some c) (foreign : c ∉ front) :
    maskOne (front ++ text) piece = front ++ maskOne text piece := by
  have nonempty : piece.isEmpty = false := by
    cases piece with
    | nil => cases begins
    | cons d rest => rfl
  simp only [maskOne, Chars.replace, nonempty, Bool.false_eq_true, if_false,
    Chars.replaceFrom_front_append begins foreign]

/-- The first occurrence of the piece, with text around it. -/
theorem fades_maskOne_around (begins : piece.head? = some c) (foreign : c ∉ front)
    (back : List Char) : Fades (front ++ blanked piece ++ back)
      (maskOne (front ++ piece ++ back) piece) := by
  have nonempty : piece ≠ [] := by
    rintro rfl
    cases begins
  rw [List.append_assoc, List.append_assoc, maskOne_front_append begins foreign,
    maskOne_append_self nonempty]
  exact (Fades.refl front).append ((Fades.refl _).append (fades_maskOne back piece))

/-! Delimiters -/

/-- What begins a text does not reach over a character that it does not hold. -/
theorem prefix_append_cons_iff (foreign : c ∉ piece) :
    piece <+: front ++ c :: back ↔ piece <+: front := by
  induction front generalizing piece with
  | nil =>
      cases piece with
      | nil => simp
      | cons d rest =>
          rw [List.mem_cons, not_or] at foreign
          simp [List.cons_prefix_cons, Ne.symm foreign.1]
  | cons d front ih =>
      cases piece with
      | nil => simp
      | cons e rest =>
          rw [List.mem_cons, not_or] at foreign
          rw [List.cons_append, List.cons_prefix_cons, List.cons_prefix_cons, ih foreign.2]

/-- The rest of an occurrence at the front does not reach over a character outside the piece. -/
theorem replaceFrom_append_cons (nonempty : piece ≠ []) (foreign : c ∉ piece) (new : List Char)
    {skip : Nat} (within : skip ≤ front.length) :
    Chars.replaceFrom piece new skip (front ++ c :: back) =
      Chars.replaceFrom piece new skip front ++ c :: Chars.replaceFrom piece new 0 back := by
  induction front generalizing skip with
  | nil =>
      obtain rfl := Nat.le_zero.mp within
      obtain ⟨d, rest, rfl⟩ := List.exists_cons_of_ne_nil nonempty
      have here : (d :: rest).isPrefixOf (c :: back) = false := by
        have other : d ≠ c := fun same => foreign (same ▸ List.mem_cons_self)
        simp [List.isPrefixOf, other]
      simp only [List.nil_append, Chars.replaceFrom, here, Bool.false_eq_true, if_false]
  | cons d front ih =>
      cases skip with
      | succ skip => exact ih (Nat.le_of_succ_le_succ within)
      | zero =>
          have same : piece.isPrefixOf (d :: (front ++ c :: back)) =
              piece.isPrefixOf (d :: front) := by
            rw [Bool.eq_iff_iff, List.isPrefixOf_iff_prefix, List.isPrefixOf_iff_prefix,
              ← List.cons_append]
            exact prefix_append_cons_iff foreign
          rw [List.cons_append, Chars.replaceFrom, Chars.replaceFrom, same]
          split
          · rename_i before
            have length := (List.isPrefixOf_iff_prefix.mp before).length_le
            rw [ih (by simp only [List.length_cons] at length; omega), List.append_assoc]
          · rw [ih (Nat.zero_le _), List.cons_append]

/-- What stands on the two sides of a character outside the piece is masked on its own. -/
theorem maskOne_append_cons (foreign : c ∉ piece) :
    maskOne (front ++ c :: back) piece = maskOne front piece ++ c :: maskOne back piece := by
  by_cases empty : piece = []
  · subst empty
    rfl
  · simp only [maskOne, Chars.replace, List.isEmpty_iff, empty, if_false,
      replaceFrom_append_cons empty foreign _ (Nat.zero_le _)]

/-- What stands on the two sides of a character outside all pieces is masked on its own. -/
theorem maskChars_append_cons (foreign : ∀ piece ∈ pieces, c ∉ piece) :
    maskChars (front ++ c :: back) pieces =
      maskChars front pieces ++ c :: maskChars back pieces := by
  have all : ∀ piece ∈ longestFirst pieces, c ∉ piece := fun piece member =>
    foreign piece (mem_longestFirst.mp member).1
  simp only [maskChars]
  generalize longestFirst pieces = ordered at all
  induction ordered generalizing front back with
  | nil => rfl
  | cons piece ordered ih =>
      rw [List.foldl_cons, maskOne_append_cons (all piece List.mem_cons_self)]
      exact ih fun other member => all other (List.mem_cons_of_mem piece member)

end Masking

end PlainScript
