/-
What masking leaves of a text if the pieces hold no space. A space that has been put in is no part
of a later occurrence, so that each piece is found where it stood in the original text, and one that
has been blanked out does not come back. A piece with a space can: blanking out `x` in `axb` makes
`a b`.
-/

import PlainScript.Proofs.Check.Arrangement

namespace PlainScript.Masking

variable {piece text masked : List Char} {pieces : List (List Char)} {place : Nat}

/-- The place belongs to an occurrence of the piece in the text. -/
def Covers (piece text : List Char) (place : Nat) : Prop :=
  ∃ start, piece <+: text.drop start ∧ start ≤ place ∧ place < start + piece.length

/-- The masked text has spaces in some of the places where pieces stand in the text, and otherwise
it is the text. No piece is left in it. -/
structure Blanks (pieces : List (List Char)) (text masked : List Char) : Prop where
  length_eq : masked.length = text.length
  kept_or_blank : ∀ place, masked[place]? = text[place]? ∨
    masked[place]? = some ' ' ∧ ∃ piece ∈ pieces, Covers piece text place
  absent : ∀ piece ∈ pieces, ¬ piece <:+: masked

/-! One piece -/

/-- Characters change only where the piece stands. -/
theorem covers_of_maskOne_ne (nonempty : piece ≠ [])
    (changed : (maskOne text piece)[place]? ≠ text[place]?) : Covers piece text place := by
  by_contra uncovered
  refine changed ?_
  rw [maskOne, Chars.replace, if_neg (by simpa using nonempty)]
  refine getElem?_replaceFrom nonempty 0 (Nat.zero_le place) fun i _ begins => ?_
  by_contra overlaps
  exact uncovered ⟨i, begins, by omega, by omega⟩

/-- An occurrence begins in a marked place: it is found, or it overlaps one that is. -/
theorem getElem?_covered (nonempty : piece ≠ []) {start : Nat}
    (begins : piece <+: text.drop start) (skip : Nat) :
    (covered piece skip text)[start]? = some true := by
  induction text generalizing start skip with
  | nil =>
      rw [List.drop_nil, List.prefix_nil] at begins
      exact absurd begins nonempty
  | cons c text ih =>
      cases start with
      | zero =>
          cases skip with
          | succ skip => rfl
          | zero =>
              rw [List.drop_zero, ← List.isPrefixOf_iff_prefix] at begins
              rw [covered, if_pos begins, List.getElem?_cons_zero]
      | succ start =>
          cases skip with
          | succ skip => exact ih begins skip
          | zero =>
              rw [covered]
              split
              · exact ih begins (piece.length - 1)
              · exact ih begins 0

/-- An occurrence loses its first character. -/
theorem getElem?_maskOne_of_prefix (nonempty : piece ≠ []) {start : Nat}
    (begins : piece <+: text.drop start) : (maskOne text piece)[start]? = some ' ' := by
  obtain ⟨c, rest, rfl⟩ := List.exists_cons_of_ne_nil nonempty
  have there : text[start]? = some c := by
    have head := List.prefix_iff_getElem?.mp begins 0 (Nat.zero_lt_succ _)
    rwa [List.getElem?_drop, Nat.add_zero] at head
  rw [maskOne_eq_blankAt nonempty, blankAt, List.getElem?_zipWith,
    getElem?_covered nonempty begins 0, there]
  rfl

/-- An occurrence in a faded text stands in the text itself. -/
theorem Fades.prefix_drop (fades : Fades text masked) (spaceless : ' ' ∉ piece) {start : Nat}
    (begins : piece <+: masked.drop start) : piece <+: text.drop start :=
  Fades.begins_of_begins (List.forall₂_drop start fades) spaceless begins

theorem Fades.covers (fades : Fades text masked) (spaceless : ' ' ∉ piece)
    (covers : Covers piece masked place) : Covers piece text place := by
  obtain ⟨start, begins, inside⟩ := covers
  exact ⟨start, fades.prefix_drop spaceless begins, inside⟩

/-- No occurrence of the piece is left. -/
theorem not_infix_maskOne (nonempty : piece ≠ []) (spaceless : ' ' ∉ piece) :
    ¬ piece <:+: maskOne text piece := by
  rintro ⟨front, back, same⟩
  have begins : piece <+: (maskOne text piece).drop front.length := by
    rw [← same, List.append_assoc, List.drop_left]
    exact List.prefix_append piece back
  have blank := getElem?_maskOne_of_prefix nonempty
    ((fades_maskOne text piece).prefix_drop spaceless begins)
  obtain ⟨c, rest, rfl⟩ := List.exists_cons_of_ne_nil nonempty
  have head := List.prefix_iff_getElem?.mp begins 0 (Nat.zero_lt_succ _)
  rw [List.getElem?_drop, Nat.add_zero, blank] at head
  exact spaceless (Option.some.inj head ▸ List.mem_cons_self)

/-- A place keeps its character or becomes a space. -/
theorem Fades.getElem?_eq (fades : Fades text masked) (changed : masked[place]? ≠ text[place]?) :
    masked[place]? = some ' ' := by
  induction fades generalizing place with
  | nil => exact absurd rfl changed
  | cons step _ ih =>
      cases place with
      | zero =>
          rcases step with rfl | rfl
          · exact absurd rfl changed
          · rfl
      | succ place => exact ih changed

/-! All pieces -/

theorem Blanks.fades (blanks : Blanks pieces text masked) : Fades text masked := by
  rw [Fades, List.forall₂_iff_get]
  refine ⟨blanks.length_eq.symm, fun place inText inMasked => ?_⟩
  have found := blanks.kept_or_blank place
  rw [List.getElem?_eq_getElem inText, List.getElem?_eq_getElem inMasked] at found
  rcases found with kept | ⟨blank, -⟩
  · exact .inl (Option.some.inj kept)
  · exact .inr (Option.some.inj blank)

/-- Nothing has been blanked out yet. -/
theorem Blanks.refl (text : List Char) : Blanks [] text text where
  length_eq := rfl
  kept_or_blank _ := .inl rfl
  absent := List.forall_mem_nil _

/-- What holds of the masked text holds of it after one more piece has been blanked out. -/
theorem Blanks.maskOne (blanks : Blanks pieces text masked) (nonempty : piece ≠ [])
    (spaceless : ∀ other ∈ piece :: pieces, ' ' ∉ other) :
    Blanks (piece :: pieces) text (maskOne masked piece) := by
  obtain ⟨ofPiece, ofPieces⟩ := List.forall_mem_cons.mp spaceless
  have step := fades_maskOne masked piece
  refine ⟨step.length_eq.symm.trans blanks.length_eq, fun place => ?_, ?_⟩
  · by_cases changed : (Masking.maskOne masked piece)[place]? = masked[place]?
    · rw [changed]
      refine (blanks.kept_or_blank place).imp_right fun ⟨blank, other, member, covers⟩ => ?_
      exact ⟨blank, other, List.mem_cons_of_mem piece member, covers⟩
    · -- The piece stands in the masked text, where it can hold none of the spaces put in before.
      have covers := covers_of_maskOne_ne nonempty changed
      exact .inr ⟨step.getElem?_eq changed, piece, List.mem_cons_self,
        blanks.fades.covers ofPiece covers⟩
  · refine List.forall_mem_cons.mpr ⟨not_infix_maskOne nonempty ofPiece, ?_⟩
    intro other member inside
    exact blanks.absent other member (step.occurs_of_occurs (ofPieces other member) inside)

/-- Blanking out one piece after another, after others have been. -/
theorem Blanks.foldl_maskOne {order : List (List Char)} (blanks : Blanks pieces text masked)
    (nonempty : ∀ piece ∈ order, piece ≠ [])
    (spaceless : ∀ piece ∈ order.reverse ++ pieces, ' ' ∉ piece) :
    Blanks (order.reverse ++ pieces) text (order.foldl Masking.maskOne masked) := by
  induction order generalizing pieces masked with
  | nil => exact blanks
  | cons piece order ih =>
      rw [List.reverse_cons, List.append_assoc, List.singleton_append] at spaceless ⊢
      obtain ⟨first, later⟩ := List.forall_mem_cons.mp nonempty
      refine ih (blanks.maskOne first fun other member => ?_) later spaceless
      exact spaceless other (List.mem_append_right _ member)

/-- The same pieces may be named in another way. -/
theorem Blanks.congr {pieces' : List (List Char)} (blanks : Blanks pieces text masked)
    (same : ∀ piece, piece ∈ pieces ↔ piece ∈ pieces') : Blanks pieces' text masked where
  length_eq := blanks.length_eq
  kept_or_blank place := by simpa only [same] using blanks.kept_or_blank place
  absent piece member := blanks.absent piece ((same piece).mpr member)

theorem IsOrder.blanks {order : List (List Char)} (isOrder : IsOrder order pieces)
    (nonempty : [] ∉ pieces) (spaceless : ∀ piece ∈ pieces, ' ' ∉ piece) (text : List Char) :
    Blanks pieces text (order.foldl Masking.maskOne text) := by
  have same (piece : List Char) : piece ∈ order.reverse ++ [] ↔ piece ∈ pieces := by
    rw [List.append_nil, List.mem_reverse, isOrder.mem_iff, and_iff_left_iff_imp]
    exact fun member => ne_of_mem_of_not_mem member nonempty
  refine ((Blanks.refl text).foldl_maskOne ?_ fun piece member => ?_).congr same
  · exact fun piece member => ((isOrder.mem_iff piece).mp member).2
  · exact spaceless piece ((same piece).mp member)

/-- Masking with pieces that are not empty and hold no space: the text keeps its length, each place
keeps its character or becomes a space, becomes one only where a piece stood in the original text,
and no piece is left, whichever of the pieces of one length come first. -/
theorem blanks_mask (text : String) (pieces : List String)
    (given : ∀ piece ∈ pieces, piece ≠ "" ∧ ' ' ∉ piece.toList) :
    Blanks (pieces.map String.toList) text.toList (mask text pieces).toList ∧
    ∀ order, IsOrder order (pieces.map String.toList) →
      Blanks (pieces.map String.toList) text.toList (order.foldl maskOne text.toList) := by
  have nonempty : [] ∉ pieces.map String.toList := by
    rw [List.mem_map]
    rintro ⟨piece, member, isEmpty⟩
    exact (given piece member).1 (String.toList_eq_nil_iff.mp isEmpty)
  have spaceless : ∀ piece ∈ pieces.map String.toList, ' ' ∉ piece :=
    List.forall_mem_map.mpr fun piece member => (given piece member).2
  refine ⟨?_, fun order isOrder => isOrder.blanks nonempty spaceless text.toList⟩
  rw [mask, String.toList_ofList]
  exact (isOrder_longestFirst _).blanks nonempty spaceless text.toList

/-- Occurrences of two pieces that overlap themselves and each other. -/
theorem blanks_mask_overlapping :
    mask "aaabaab" ["aa", "aba"] = "     ab" ∧
      Blanks ["aa".toList, "aba".toList] "aaabaab".toList (mask "aaabaab" ["aa", "aba"]).toList :=
  ⟨by decide +kernel, (blanks_mask "aaabaab" ["aa", "aba"] (by decide)).1⟩

end PlainScript.Masking
