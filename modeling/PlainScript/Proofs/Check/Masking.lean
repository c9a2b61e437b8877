/-
Masking turns characters into spaces and does nothing else, so that text without spaces that is
there afterwards was there before.
-/

import Mathlib.Data.List.Forall2
import PlainScript.Check.Strict

namespace PlainScript.Masking

/-- Each character stays as it is or becomes a space. -/
def Fades (text masked : List Char) : Prop := List.Forall₂ (fun c d => d = c ∨ d = ' ') text masked

theorem Fades.refl (text : List Char) : Fades text text :=
  List.forall₂_same.mpr fun _ _ => .inl rfl

theorem Fades.trans {text middle masked : List Char} (first : Fades text middle)
    (second : Fades middle masked) : Fades text masked := by
  induction first generalizing masked with
  | nil => exact second
  | cons step _ ih =>
      obtain ⟨d, rest, next, later, rfl⟩ := List.forall₂_cons_left_iff.mp second
      refine List.Forall₂.cons ?_ (ih later)
      rcases next with rfl | rfl
      · exact step
      · exact .inr rfl

theorem Fades.append {first firstMasked second secondMasked : List Char}
    (left : Fades first firstMasked) (right : Fades second secondMasked) :
    Fades (first ++ second) (firstMasked ++ secondMasked) :=
  List.rel_append left right

/-- Blanking out fades a whole text. -/
theorem fades_blanked (piece : List Char) : Fades piece (blanked piece) := by
  induction piece with
  | nil => exact List.Forall₂.nil
  | cons c piece ih => exact List.Forall₂.cons (.inr rfl) ih

/-- Blanking out the occurrences of one piece fades the text that is not passed over. -/
theorem fades_replaceFrom {piece : List Char} (nonempty : piece ≠ []) (skip : Nat)
    (text : List Char) :
    Fades (text.drop skip) (Chars.replaceFrom piece (blanked piece) skip text) := by
  induction text generalizing skip with
  | nil => simpa [Chars.replaceFrom] using Fades.refl []
  | cons c text ih =>
      cases skip with
      | succ skip => exact ih skip
      | zero =>
          rw [Chars.replaceFrom, List.drop_zero]
          split
          · rename_i before
            obtain ⟨d, piece, rfl⟩ := List.exists_cons_of_ne_nil nonempty
            obtain ⟨rest, same⟩ := List.isPrefixOf_iff_prefix.mp before
            rw [List.cons_append, List.cons.injEq] at same
            have later := ih piece.length
            rw [← same.2, List.drop_left] at later
            rw [← same.1, ← same.2]
            exact (fades_blanked (d :: piece)).append later
          · exact List.Forall₂.cons (.inl rfl) (ih 0)

theorem fades_maskOne (text piece : List Char) : Fades text (maskOne text piece) := by
  rw [maskOne, Chars.replace]
  split
  · exact Fades.refl text
  · rename_i nonempty
    exact fades_replaceFrom (by simpa using nonempty) 0 text

/-- Masking fades the text, whatever the pieces are. -/
theorem fades_maskChars (text : List Char) (pieces : List (List Char)) :
    Fades text (maskChars text pieces) := by
  rw [maskChars]
  generalize longestFirst pieces = ordered
  induction ordered generalizing text with
  | nil => exact Fades.refl text
  | cons piece ordered ih => exact (fades_maskOne text piece).trans (ih (maskOne text piece))

/-- A text without spaces that begins a faded one begins the text itself. -/
theorem Fades.begins_of_begins {text masked piece : List Char} (fades : Fades text masked)
    (spaceless : ' ' ∉ piece) (before : piece <+: masked) : piece <+: text := by
  induction fades generalizing piece with
  | nil => exact before
  | cons step _ ih =>
      cases piece with
      | nil => exact List.nil_prefix
      | cons p piece =>
          obtain ⟨rfl, later⟩ := List.cons_prefix_cons.mp before
          rw [List.mem_cons, not_or] at spaceless
          rcases step with rfl | rfl
          · exact List.cons_prefix_cons.mpr ⟨rfl, ih spaceless.2 later⟩
          · exact absurd rfl spaceless.1

/-- A text without spaces that stands in a faded one stands in the text itself. -/
theorem Fades.occurs_of_occurs {text masked piece : List Char} (fades : Fades text masked)
    (spaceless : ' ' ∉ piece) (inside : piece <:+: masked) : piece <:+: text := by
  induction fades with
  | nil => exact inside
  | cons step later ih =>
      rcases List.infix_cons_iff.mp inside with before | inside
      · exact (Fades.begins_of_begins (List.Forall₂.cons step later) spaceless before).isInfix
      · exact List.infix_cons (ih inside)

/-- Text without spaces that is there after masking was there before. -/
theorem infix_of_infix_mask {text piece : String} {pieces : List String}
    (spaceless : ' ' ∉ piece.toList) (inside : piece.toList <:+: (mask text pieces).toList) :
    piece.toList <:+: text.toList := by
  rw [mask, String.toList_ofList] at inside
  exact (fades_maskChars _ _).occurs_of_occurs spaceless inside

end PlainScript.Masking
