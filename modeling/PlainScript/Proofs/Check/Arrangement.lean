/-
The order in which protected pieces are blanked out. Longer pieces come first, and among pieces of
one length the order is left open. As long as no two of these can come to stand so that they
overlap, every order leaves the same of a text, and the verdict is the same.
-/

import PlainScript.Proofs.Check.Context

namespace PlainScript

namespace Masking

variable {piece other text masked : List Char} {pieces order : List (List Char)}

/-! Which characters are blanked out -/

/-- Which characters belong to an occurrence of the piece that is blanked out; the first `skip` of
them belong to the one just found. -/
def covered (piece : List Char) : (skip : Nat) → List Char → List Bool
  | _, [] => []
  | skip + 1, _ :: rest => true :: covered piece skip rest
  | 0, c :: rest =>
      if piece.isPrefixOf (c :: rest) then true :: covered piece (piece.length - 1) rest
      else false :: covered piece 0 rest

/-- The text with spaces for the marked characters. -/
def blankAt (marks : List Bool) (text : List Char) : List Char :=
  List.zipWith (fun marked c => if marked then ' ' else c) marks text

@[simp]
theorem blankAt_cons (marked : Bool) (marks : List Bool) (c : Char) (text : List Char) :
    blankAt (marked :: marks) (c :: text) = (if marked then ' ' else c) :: blankAt marks text :=
  rfl

theorem blankAt_comm (first second : List Bool) (text : List Char) :
    blankAt first (blankAt second text) = blankAt second (blankAt first text) := by
  induction text generalizing first second with
  | nil => simp [blankAt]
  | cons c text ih =>
      cases first with
      | nil => simp [blankAt]
      | cons marked first =>
          cases second with
          | nil => simp [blankAt]
          | cons marked' second =>
              rw [blankAt_cons, blankAt_cons, blankAt_cons, blankAt_cons, ih]
              cases marked <;> cases marked' <;> rfl

/-- The rest of an occurrence is blank. -/
theorem take_blankAt_covered {skip : Nat} (within : skip ≤ text.length) :
    (blankAt (covered piece skip text) text).take skip = List.replicate skip ' ' := by
  induction text generalizing skip with
  | nil =>
      obtain rfl := Nat.le_zero.mp within
      rfl
  | cons c text ih =>
      cases skip with
      | zero => rfl
      | succ skip =>
          have later := ih (Nat.le_of_succ_le_succ within)
          rw [covered, blankAt_cons, List.take_succ_cons, later, List.replicate_succ, if_pos rfl]

theorem replaceFrom_eq_blankAt (nonempty : piece ≠ []) (skip : Nat) (text : List Char) :
    Chars.replaceFrom piece (blanked piece) skip text =
      (blankAt (covered piece skip text) text).drop skip := by
  induction text generalizing skip with
  | nil => simp [Chars.replaceFrom, blankAt]
  | cons c text ih =>
      cases skip with
      | succ skip => exact ih skip
      | zero =>
          rw [Chars.replaceFrom, covered, List.drop_zero]
          split
          · rename_i before
            have length := (List.isPrefixOf_iff_prefix.mp before).length_le
            obtain ⟨d, rest, rfl⟩ := List.exists_cons_of_ne_nil nonempty
            rw [List.length_cons, List.length_cons, Nat.add_le_add_iff_right] at length
            have front := @take_blankAt_covered (d :: rest) text rest.length length
            rw [ih, List.length_cons, Nat.add_sub_cancel, blankAt_cons, if_pos rfl, blanked,
              List.length_cons, List.replicate_succ, List.cons_append, ← front,
              List.take_append_drop]
          · rw [ih, List.drop_zero]
            rfl

theorem maskOne_eq_blankAt (nonempty : piece ≠ []) (text : List Char) :
    maskOne text piece = blankAt (covered piece 0 text) text := by
  rw [maskOne, Chars.replace, if_neg (by simpa using nonempty), replaceFrom_eq_blankAt nonempty,
    List.drop_zero]

/-- What is blanked out depends only on where the piece stands. -/
theorem covered_congr (length : masked.length = text.length)
    (same : ∀ i, piece <+: masked.drop i ↔ piece <+: text.drop i) (skip : Nat) :
    covered piece skip masked = covered piece skip text := by
  induction text generalizing masked skip with
  | nil =>
      obtain rfl := List.eq_nil_of_length_eq_zero length
      rfl
  | cons c text ih =>
      obtain ⟨d, rest, rfl⟩ := List.exists_of_length_succ masked length
      have later := ih (Nat.succ.inj length) fun i => same (i + 1)
      cases skip with
      | succ skip => rw [covered, covered, later]
      | zero =>
          have here : piece.isPrefixOf (d :: rest) = piece.isPrefixOf (c :: text) := by
            rw [Bool.eq_iff_iff, List.isPrefixOf_iff_prefix, List.isPrefixOf_iff_prefix]
            exact same 0
          rw [covered, covered, here, later, later]

/-! Pieces that keep apart -/

/-- A piece of spaces changes nothing. -/
theorem maskOne_eq_self_of_blank (blank : ¬ ∃ c ∈ piece, c ≠ ' ') (text : List Char) :
    maskOne text piece = text := by
  have spares : Spares [piece] text 0 text.length :=
    List.forall_mem_singleton.mpr fun visible => absurd visible blank
  exact spares.maskOne_eq_self

/-- Wherever the piece can come to stand, it does not overlap the other one. -/
def KeepsApart (piece other text : List Char) : Prop :=
  (∃ c ∈ piece, c ≠ ' ') → ∀ i, Fades ((text.drop i).take piece.length) piece →
    Spares [other] text i (i + piece.length)

theorem KeepsApart.of_fades (apart : KeepsApart piece other text) (fades : Fades text masked) :
    KeepsApart piece other masked := by
  intro visible i stands
  have there : Fades ((text.drop i).take piece.length) ((masked.drop i).take piece.length) :=
    List.forall₂_take _ (List.forall₂_drop i fades)
  exact (apart visible i (there.trans stands)).of_fades fades

/-- A piece stands where it stood after one that keeps apart has been blanked out. -/
theorem KeepsApart.prefix_drop_maskOne_iff (apart : KeepsApart piece other text)
    (visible : ∃ c ∈ piece, c ≠ ' ') (i : Nat) :
    piece <+: (maskOne text other).drop i ↔ piece <+: text.drop i := by
  have same (stands : Fades ((text.drop i).take piece.length) piece) (k : Nat)
      (inside : k < piece.length) : ((maskOne text other).drop i)[k]? = (text.drop i)[k]? := by
    rw [List.getElem?_drop, List.getElem?_drop]
    exact (apart visible i stands).getElem?_maskOne (Nat.le_add_right i k)
      (Nat.add_lt_add_left inside i)
  constructor
  · intro before
    have fades : Fades ((text.drop i).take piece.length)
        (((maskOne text other).drop i).take piece.length) :=
      List.forall₂_take _ (List.forall₂_drop i (fades_maskOne text other))
    rw [← List.prefix_iff_eq_take.mp before] at fades
    refine List.prefix_iff_getElem?.mpr fun k inside => ?_
    rw [← same fades k inside]
    exact List.prefix_iff_getElem?.mp before k inside
  · intro before
    have stands : Fades ((text.drop i).take piece.length) piece := by
      rw [← List.prefix_iff_eq_take.mp before]
      exact Fades.refl piece
    refine List.prefix_iff_getElem?.mpr fun k inside => ?_
    rw [same stands k inside]
    exact List.prefix_iff_getElem?.mp before k inside

/-- Pieces that keep apart from each other can be blanked out in either order. -/
theorem maskOne_comm (first : KeepsApart piece other text) (second : KeepsApart other piece text) :
    maskOne (maskOne text piece) other = maskOne (maskOne text other) piece := by
  by_cases visible : ∃ c ∈ piece, c ≠ ' '
  · by_cases visible' : ∃ c ∈ other, c ≠ ' '
    · have nonempty : piece ≠ [] := by
        obtain ⟨c, member, -⟩ := visible
        exact List.ne_nil_of_mem member
      have nonempty' : other ≠ [] := by
        obtain ⟨c, member, -⟩ := visible'
        exact List.ne_nil_of_mem member
      have length := (fades_maskOne text piece).length_eq.symm
      have length' := (fades_maskOne text other).length_eq.symm
      rw [maskOne_eq_blankAt nonempty', maskOne_eq_blankAt nonempty (maskOne text other),
        covered_congr length (second.prefix_drop_maskOne_iff visible'),
        covered_congr length' (first.prefix_drop_maskOne_iff visible), maskOne_eq_blankAt nonempty,
        maskOne_eq_blankAt nonempty', blankAt_comm]
    · rw [maskOne_eq_self_of_blank visible', maskOne_eq_self_of_blank visible']
  · rw [maskOne_eq_self_of_blank visible, maskOne_eq_self_of_blank visible]

/-! Orders of pieces -/

/-- No two pieces of one length can come to stand so that they overlap. -/
def Uncontested (pieces : List (List Char)) (text : List Char) : Prop :=
  ∀ piece ∈ pieces, ∀ other ∈ pieces, other ≠ piece → other.length = piece.length →
    KeepsApart piece other text

theorem Uncontested.of_fades (uncontested : Uncontested pieces text) (fades : Fades text masked) :
    Uncontested pieces masked :=
  fun piece member other member' distinct length =>
    (uncontested piece member other member' distinct length).of_fades fades

theorem Uncontested.of_subset (uncontested : Uncontested pieces text) (inside : order ⊆ pieces) :
    Uncontested order text :=
  fun piece member other member' =>
    uncontested piece (inside member) other (inside member')

/-- Whether the pieces are uncontested; only the places of the text need a look. -/
def uncontested (pieces : List (List Char)) (text : List Char) : Bool :=
  pieces.all fun piece => (List.range text.length).all fun i =>
    !fades ((text.drop i).take piece.length) piece ||
      spares (pieces.filter fun other => other != piece && other.length == piece.length) text i
        (i + piece.length)

theorem uncontested_of_eq_true (checked : uncontested pieces text = true) :
    Uncontested pieces text := by
  intro piece member other member' distinct length ⟨c, shown, _⟩ i stands
  have within : i < text.length := by
    by_contra beyond
    rw [List.drop_eq_nil_of_le (Nat.le_of_not_lt beyond), List.take_nil] at stands
    rw [List.forall₂_nil_left_iff.mp stands] at shown
    cases shown
  have found := List.all_eq_true.mp (List.all_eq_true.mp checked piece member) i
    (List.mem_range.mpr within)
  rw [(fades_iff _ _).mpr stands, Bool.not_true, Bool.false_or] at found
  refine List.forall_mem_singleton.mpr (spares_of_eq_true found other ?_)
  simp [member', distinct, length]

/-- A piece can be blanked out before others of its length. -/
theorem foldl_maskOne_append_cons {front back : List (List Char)}
    (sameLength : ∀ other ∈ front, other.length = piece.length)
    (uncontested : Uncontested (piece :: front) text) :
    (front ++ piece :: back).foldl maskOne text =
      (piece :: (front ++ back)).foldl maskOne text := by
  induction front generalizing text with
  | nil => rfl
  | cons other front ih =>
      obtain ⟨length, sameLength⟩ := List.forall_mem_cons.mp sameLength
      have fewer : piece :: front ⊆ piece :: other :: front :=
        List.cons_subset_cons piece (List.subset_cons_self other front)
      have swapped : maskOne (maskOne text other) piece = maskOne (maskOne text piece) other := by
        by_cases same : other = piece
        · rw [same]
        · have inside : other ∈ piece :: other :: front :=
            List.mem_cons_of_mem piece List.mem_cons_self
          exact maskOne_comm
            (uncontested other inside piece List.mem_cons_self (Ne.symm same) length.symm)
            (uncontested piece List.mem_cons_self other inside same length)
      rw [List.cons_append, List.foldl_cons, ih sameLength
        ((uncontested.of_fades (fades_maskOne text other)).of_subset fewer)]
      rw [List.foldl_cons, List.foldl_cons, List.cons_append, List.foldl_cons, swapped]

/-- Pieces that are uncontested can be blanked out in any order in which longer ones come first. -/
theorem foldl_maskOne_eq_of_perm {first second : List (List Char)} (perm : first.Perm second)
    (sorted : first.Pairwise fun piece other => other.length ≤ piece.length)
    (sorted' : second.Pairwise fun piece other => other.length ≤ piece.length)
    (uncontested : Uncontested first text) :
    first.foldl maskOne text = second.foldl maskOne text := by
  induction first generalizing second text with
  | nil =>
      obtain rfl := perm.nil_eq
      rfl
  | cons piece first ih =>
      obtain ⟨longest, sorted⟩ := List.pairwise_cons.mp sorted
      obtain ⟨front, back, rfl⟩ := List.append_of_mem (perm.subset List.mem_cons_self)
      obtain ⟨-, behind, around⟩ := List.pairwise_append.mp sorted'
      have rest : first.Perm (front ++ back) := (perm.trans List.perm_middle).cons_inv
      -- What stands in front of the piece is no longer than it, as all others are, and no shorter.
      have sameLength : ∀ other ∈ front, other.length = piece.length := by
        intro other member
        refine Nat.le_antisymm (longest other ?_) (around other member piece List.mem_cons_self)
        exact rest.symm.subset (List.mem_append_left _ member)
      have inFront : piece :: front ⊆ piece :: first :=
        List.cons_subset_cons piece fun other member =>
          rest.symm.subset (List.mem_append_left _ member)
      rw [foldl_maskOne_append_cons sameLength (uncontested.of_subset inFront), List.foldl_cons,
        List.foldl_cons]
      refine ih rest sorted ?_ ?_
      · exact sorted'.sublist ((List.Sublist.refl front).append (List.sublist_cons_self piece back))
      · exact (uncontested.of_fades (fades_maskOne text piece)).of_subset
          (List.subset_cons_self piece first)

/-- An order in which the pieces may be blanked out: each of them once, longer ones first. -/
structure IsOrder (order pieces : List (List Char)) : Prop where
  nodup : order.Nodup
  mem_iff : ∀ piece, piece ∈ order ↔ piece ∈ pieces ∧ piece ≠ []
  longerFirst : order.Pairwise fun first second => second.length ≤ first.length

theorem isOrder_longestFirst (pieces : List (List Char)) :
    IsOrder (longestFirst pieces) pieces where
  nodup := (Order.perm_sort _ _).nodup_iff.mpr (Order.nodup_eraseDups _)
  mem_iff _ := mem_longestFirst
  longerFirst := pairwise_longestFirst pieces

/-- The order may be that of other pieces, if they are the same. -/
theorem IsOrder.of_perm {pieces' : List (List Char)} (isOrder : IsOrder order pieces)
    (perm : pieces.Perm pieces') : IsOrder order pieces' where
  nodup := isOrder.nodup
  mem_iff piece := by rw [isOrder.mem_iff, perm.mem_iff]
  longerFirst := isOrder.longerFirst

/-- Masking in any order leaves the same of a text in which the pieces are uncontested. -/
theorem IsOrder.foldl_maskOne_eq (isOrder : IsOrder order pieces)
    (uncontested : Uncontested pieces text) : order.foldl maskOne text = maskChars text pieces := by
  have canonical := isOrder_longestFirst pieces
  have perm : order.Perm (longestFirst pieces) := by
    rw [List.perm_ext_iff_of_nodup isOrder.nodup canonical.nodup]
    intro piece
    rw [isOrder.mem_iff, canonical.mem_iff]
  have inside : order ⊆ pieces := fun piece member => ((isOrder.mem_iff piece).mp member).1
  exact foldl_maskOne_eq_of_perm perm isOrder.longerFirst canonical.longerFirst
    (uncontested.of_subset inside)

end Masking

namespace Strict

open Masking (IsOrder Uncontested longestFirst)

variable {instruction code : String} {values values' : List (String × String)}
  {context context' : List String} {titleOrder knownOrder : List (List Char)}

/-- The verdict if the titles and the known texts are blanked out in these orders. -/
def checkIn (titleOrder knownOrder : List (List Char)) (code : String)
    (values : List (String × String)) : Verdict :=
  let body : String := .ofList (titleOrder.foldl Masking.maskOne (statements code).toList)
  let scanned : String := .ofList (knownOrder.foldl Masking.maskOne body.toList)
  ⟨gaps code, missing body values ++ additions scanned⟩

theorem check_eq_checkIn (instruction code : String) (values : List (String × String))
    (context : List String) : check instruction code values context =
      checkIn (longestFirst (titlePieces instruction)) (longestFirst (knownPieces values context))
        code values :=
  rfl

/-- Two verdicts with the same findings. -/
structure Agrees (first second : Verdict) : Prop where
  gaps : first.gaps = second.gaps
  deviations : first.deviations.Perm second.deviations
  isValid : first.isValid = second.isValid

theorem agrees_of_perm {first second : Verdict} (gaps : first.gaps = second.gaps)
    (perm : first.deviations.Perm second.deviations) : Agrees first second where
  gaps := gaps
  deviations := perm
  isValid := by rw [Verdict.isValid, Verdict.isValid, gaps, perm.isEmpty_eq]

theorem perm_missing (perm : values.Perm values') (body : String) :
    (missing body values).Perm (missing body values') :=
  (perm.filter _).map _

theorem perm_knownPieces (sameValues : values.Perm values') (sameContext : context.Perm context') :
    (knownPieces values context).Perm (knownPieces values' context') :=
  ((sameValues.map _).append sameContext).map _

/-- In any order the check finds the same in code in which the protected pieces are uncontested. -/
theorem agrees_checkIn (sameValues : values.Perm values')
    (titlesFree : Uncontested (titlePieces instruction) (statements code).toList)
    (knownFree : Uncontested (knownPieces values context) (body instruction code).toList)
    (ofTitles : IsOrder titleOrder (titlePieces instruction))
    (ofKnown : IsOrder knownOrder (knownPieces values context)) :
    Agrees (checkIn titleOrder knownOrder code values')
      (check instruction code values context) := by
  have sameBody : String.ofList (titleOrder.foldl Masking.maskOne (statements code).toList) =
      body instruction code := by
    rw [ofTitles.foldl_maskOne_eq titlesFree]
    rfl
  have sameScanned : String.ofList (knownOrder.foldl Masking.maskOne
      (body instruction code).toList) =
      Masking.mask (body instruction code) (values.map (·.2) ++ context) := by
    rw [ofKnown.foldl_maskOne_eq knownFree]
    rfl
  refine agrees_of_perm rfl ?_
  simp only [checkIn, check, sameBody, sameScanned]
  exact (perm_missing sameValues.symm _).append_right _

/-- The order of the values and of the context changes neither what is unfinished nor which values
are missing. Nor does it change the verdict, and the order in which pieces of one length are blanked
out does not either, if no two of these can come to stand so that they overlap. -/
theorem check_agrees_of_perm (sameValues : values.Perm values')
    (sameContext : context.Perm context') :
    (check instruction code values' context').gaps = (check instruction code values context).gaps ∧
    (missing (body instruction code) values').Perm (missing (body instruction code) values) ∧
    (Uncontested (titlePieces instruction) (statements code).toList →
      Uncontested (knownPieces values context) (body instruction code).toList →
        Agrees (check instruction code values' context') (check instruction code values context) ∧
        ∀ titleOrder knownOrder, IsOrder titleOrder (titlePieces instruction) →
          IsOrder knownOrder (knownPieces values' context') →
            Agrees (checkIn titleOrder knownOrder code values')
              (check instruction code values context)) := by
  have known := perm_knownPieces sameValues sameContext
  refine ⟨rfl, perm_missing sameValues.symm _, fun titlesFree knownFree => ⟨?_, ?_⟩⟩
  · rw [check_eq_checkIn instruction code values' context']
    exact agrees_checkIn sameValues titlesFree knownFree (Masking.isOrder_longestFirst _)
      ((Masking.isOrder_longestFirst _).of_perm known.symm)
  · exact fun titleOrder knownOrder ofTitles ofKnown =>
      agrees_checkIn sameValues titlesFree knownFree ofTitles (ofKnown.of_perm known.symm)

/-- A name and a password of one length that stand apart. -/
theorem check_agrees_of_swapped_login :
    Agrees (check "" "log('amy');\nlog('bob');" [("username", "amy"), ("password", "bob")] [])
      (check "" "log('amy');\nlog('bob');" [("password", "bob"), ("username", "amy")] []) := by
  refine ((check_agrees_of_perm (.swap _ _ _) .nil).2.2 ?_ ?_).1
  · exact Masking.uncontested_of_eq_true (by decide +kernel)
  · exact Masking.uncontested_of_eq_true (by decide +kernel)

/-- Of two values that overlap the one that is blanked out first keeps the other from being found,
and with it the word that it overlaps. -/
theorem exists_check_that_depends_on_order :
    ¬ ∀ (instruction code : String) (values values' : List (String × String))
      (context : List String), values.Perm values' →
        (check instruction code values context).isValid =
          (check instruction code values' context).isValid := by
  intro all
  have same := all "" "abretry" [("first", "ab"), ("second", "br")]
    [("second", "br"), ("first", "ab")] [] (.swap _ _ _)
  revert same
  decide +kernel

end Strict

end PlainScript
