/-
What the scan for forbidden words does not pass over. Protected text is blanked out piece by piece
wherever it stands by then, so that it can hide a word that it merely overlaps; a word that it does
not touch is reported.
-/

import PlainScript.Proofs.Check.Masking
import PlainScript.Proofs.Check.Strict

namespace PlainScript

namespace Masking

/-- Where the piece does not begin within its own length before a place, blanking it out changes
nothing at that place. -/
theorem getElem?_replaceFrom {piece : List Char} (nonempty : piece ≠ []) (skip : Nat)
    {text : List Char} {place : Nat} (behind : skip ≤ place)
    (untouched : ∀ i, skip ≤ i → piece <+: text.drop i → place < i ∨ i + piece.length ≤ place) :
    (Chars.replaceFrom piece (blanked piece) skip text)[place - skip]? = text[place]? := by
  induction text generalizing skip place with
  | nil => simp [Chars.replaceFrom]
  | cons c text ih =>
      cases skip with
      | succ skip =>
          obtain ⟨place, rfl⟩ : ∃ later, place = later + 1 := ⟨place - 1, by omega⟩
          rw [Chars.replaceFrom, Nat.add_sub_add_right, List.getElem?_cons_succ]
          refine ih skip (Nat.le_of_succ_le_succ behind) fun i skipped begins => ?_
          have := untouched (i + 1) (Nat.succ_le_succ skipped) begins
          omega
      | zero =>
          rw [Chars.replaceFrom, Nat.sub_zero]
          split
          · rename_i before
            have length := List.length_pos_of_ne_nil nonempty
            have after : piece.length ≤ place := by
              have := untouched 0 le_rfl (List.isPrefixOf_iff_prefix.mp before)
              omega
            obtain ⟨place, rfl⟩ : ∃ later, place = later + 1 := ⟨place - 1, by omega⟩
            have later := @ih (piece.length - 1) place (by omega)
              fun i skipped begins => by
                have := untouched (i + 1) (Nat.zero_le _) begins
                omega
            rw [List.getElem?_append_right (by simpa [blanked] using after), blanked,
              List.length_replicate, List.getElem?_cons_succ, ← later]
            congr 1
            omega
          · cases place with
            | zero => rfl
            | succ place =>
                rw [List.getElem?_cons_succ, List.getElem?_cons_succ]
                refine ih 0 (Nat.zero_le _) fun i skipped begins => ?_
                have := untouched (i + 1) (Nat.zero_le _) begins
                omega

/-- Replacing a piece by itself changes nothing. -/
theorem replaceFrom_self {piece : List Char} (nonempty : piece ≠ []) (skip : Nat)
    (text : List Char) : Chars.replaceFrom piece piece skip text = text.drop skip := by
  induction text generalizing skip with
  | nil => simp [Chars.replaceFrom]
  | cons c text ih =>
      cases skip with
      | succ skip => exact ih skip
      | zero =>
          rw [Chars.replaceFrom, List.drop_zero, ih, ih, List.drop_zero]
          split
          · rename_i before
            obtain ⟨d, rest, rfl⟩ := List.exists_cons_of_ne_nil nonempty
            obtain ⟨after, same⟩ := List.isPrefixOf_iff_prefix.mp before
            rw [List.cons_append, List.cons.injEq] at same
            rw [← same.2, List.length_cons, Nat.add_sub_cancel, List.drop_left, same.1,
              List.cons_append]
          · rfl

/-- No piece can come to stand so in the text that it overlaps the places from `start` to `stop`,
not even where other pieces have been blanked out before. -/
def Spares (pieces : List (List Char)) (text : List Char) (start stop : Nat) : Prop :=
  ∀ piece ∈ pieces, (∃ c ∈ piece, c ≠ ' ') → ∀ i,
    Fades ((text.drop i).take piece.length) piece → stop ≤ i ∨ i + piece.length ≤ start

variable {pieces : List (List Char)} {text masked : List Char} {start stop place : Nat}

/-- Whether each character stays as it is or becomes a space. -/
def fades : List Char → List Char → Bool
  | [], [] => true
  | c :: text, d :: masked => (d == c || d == ' ') && fades text masked
  | _, _ => false

theorem fades_iff (text masked : List Char) : fades text masked = true ↔ Fades text masked := by
  induction text generalizing masked with
  | nil => cases masked <;> simp [fades, Fades]
  | cons c text ih => cases masked <;> simp [fades, Fades, ih]

/-- Whether the pieces spare the places; only the places of the text need a look. -/
def spares (pieces : List (List Char)) (text : List Char) (start stop : Nat) : Bool :=
  pieces.all fun piece => piece.all (· == ' ') || (List.range text.length).all fun i =>
    !fades ((text.drop i).take piece.length) piece || decide (stop ≤ i) ||
      decide (i + piece.length ≤ start)

theorem spares_of_eq_true (checked : spares pieces text start stop = true) :
    Spares pieces text start stop := by
  intro piece member ⟨c, shown, visible⟩ i stands
  have found := List.all_eq_true.mp checked piece member
  by_cases inside : i < text.length
  · rw [Bool.or_eq_true, List.all_eq_true, List.all_eq_true] at found
    rcases found with blank | places
    · exact absurd (eq_of_beq (blank c shown)) visible
    · have place := places i (List.mem_range.mpr inside)
      rw [(fades_iff _ _).mpr stands] at place
      simpa using place
  · rw [List.drop_eq_nil_of_le (Nat.le_of_not_lt inside), List.take_nil] at stands
    obtain rfl := List.forall₂_nil_left_iff.mp stands
    simp at shown

/-- What is spared is spared after other text has been blanked out. -/
theorem Spares.of_fades (spares : Spares pieces text start stop) (fades : Fades text masked) :
    Spares pieces masked start stop := by
  intro piece member visible i stands
  have there : Fades ((text.drop i).take piece.length) ((masked.drop i).take piece.length) :=
    List.forall₂_take _ (List.forall₂_drop i fades)
  exact spares piece member visible i (there.trans stands)

/-- Blanking out a piece changes nothing at the places that it spares. -/
theorem Spares.getElem?_maskOne {piece : List Char} (spares : Spares [piece] text start stop)
    (started : start ≤ place) (within : place < stop) :
    (maskOne text piece)[place]? = text[place]? := by
  rw [maskOne, Chars.replace]
  split
  · rfl
  · rename_i given
    have nonempty : piece ≠ [] := by simpa using given
    by_cases visible : ∃ c ∈ piece, c ≠ ' '
    · refine getElem?_replaceFrom nonempty 0 (Nat.zero_le place) fun i _ begins => ?_
      have stands : Fades ((text.drop i).take piece.length) piece := by
        rw [← List.prefix_iff_eq_take.mp begins]
        exact Fades.refl piece
      have := spares piece (List.mem_singleton.mpr rfl) visible i stands
      omega
    · have blank : blanked piece = piece := by
        rw [blanked, eq_comm, List.eq_replicate_iff]
        refine ⟨rfl, fun c member => ?_⟩
        by_contra shown
        exact visible ⟨c, member, shown⟩
      rw [blank, replaceFrom_self nonempty, List.drop_zero]

/-- Blanking out pieces one after another changes nothing at the places that they spare. -/
theorem Spares.getElem?_foldl_maskOne (spares : Spares pieces text start stop)
    (started : start ≤ place) (within : place < stop) :
    (pieces.foldl maskOne text)[place]? = text[place]? := by
  induction pieces generalizing text with
  | nil => rfl
  | cons piece pieces ih =>
      obtain ⟨first, later⟩ := List.forall_mem_cons.mp spares
      have sparesPiece : Spares [piece] text start stop := List.forall_mem_singleton.mpr first
      have sparesLater : Spares pieces text start stop := later
      rw [List.foldl_cons, ih (sparesLater.of_fades (fades_maskOne text piece)),
        sparesPiece.getElem?_maskOne started within]

/-- Masking changes nothing at the places that the pieces spare. -/
theorem Spares.getElem?_maskChars (spares : Spares pieces text start stop)
    (started : start ≤ place) (within : place < stop) :
    (maskChars text pieces)[place]? = text[place]? := by
  have ordered : Spares (longestFirst pieces) text start stop := by
    intro piece member
    simp only [longestFirst, Order.mem_sort, List.mem_eraseDups, List.mem_filter] at member
    exact spares piece member.1
  exact ordered.getElem?_foldl_maskOne started within

end Masking

namespace Strict

/-- The texts that the scan for forbidden words passes over. -/
def protectedTexts (instruction : String) (values : List (String × String))
    (context : List String) : List (List Char) :=
  (titles instruction ++ (values.map (·.2) ++ context)).map String.toList

/-- A forbidden word in the statements is reported if no protected text can come to stand so that it
overlaps the word. -/
theorem unauthorized_mem_of_spares {instruction code token : String}
    {values : List (String × String)} {context : List String} {before after : List Char}
    (listed : token ∈ forbidden)
    (stands : (statements code).toList = before ++ token.toList ++ after)
    (spares : Masking.Spares (protectedTexts instruction values context) (statements code).toList
      before.length (before.length + token.toList.length)) :
    .unauthorized token ∈ (check instruction code values context).deviations := by
  rw [protectedTexts, List.map_append] at spares
  obtain ⟨ofTitles, ofKnown⟩ := List.forall_mem_append.mp spares
  have sparesTitles : Masking.Spares ((titles instruction).map String.toList)
      (statements code).toList before.length (before.length + token.toList.length) := ofTitles
  have sparesKnown : Masking.Spares ((values.map (·.2) ++ context).map String.toList)
      (statements code).toList before.length (before.length + token.toList.length) := ofKnown
  have fades := Masking.fades_maskChars (statements code).toList
    ((titles instruction).map String.toList)
  have inScanned : token.toList <:+:
      (Masking.mask (body instruction code) (values.map (·.2) ++ context)).toList := by
    rw [Masking.mask, String.toList_ofList, body, Masking.mask, String.toList_ofList]
    refine List.IsInfix.trans (List.prefix_iff_getElem?.mpr fun k inToken => ?_).isInfix
      (List.drop_suffix before.length _).isInfix
    rw [List.getElem?_drop, (sparesKnown.of_fades fades).getElem?_maskChars (by omega) (by omega),
      sparesTitles.getElem?_maskChars (by omega) (by omega), stands, List.append_assoc,
      List.getElem?_append_right (by omega), Nat.add_sub_cancel_left,
      List.getElem?_append_left inToken, List.getElem?_eq_getElem inToken]
  refine List.mem_append_right _ (List.mem_append_left _ (List.mem_map_of_mem ?_))
  rw [List.mem_filter, Text.contains_iff_infix]
  exact ⟨listed, inScanned⟩

/-- A word is reported next to a value that stands elsewhere in the statements. -/
theorem unauthorized_next_to_value :
    .unauthorized "retry" ∈
      (check "" "fill('w');\nretry();" [("username", "w")] []).deviations := by
  have stands : (statements "fill('w');\nretry();").toList =
      "fill('w');\n".toList ++ "retry".toList ++ "();".toList := by decide +kernel
  refine unauthorized_mem_of_spares (by decide) stands ?_
  exact Masking.spares_of_eq_true (by decide +kernel)

/-- A value that is a mere part of a forbidden word hides the word. -/
theorem unauthorized_hidden_by_part :
    ¬ ∀ (instruction code token : String) (values : List (String × String))
      (context : List String) (before after : List Char), token ∈ forbidden →
      (statements code).toList = before ++ token.toList ++ after →
      (¬ ∃ piece ∈ protectedTexts instruction values context, ∃ left right,
        (statements code).toList = left ++ piece ++ right ∧ left.length ≤ before.length ∧
          before.length + token.toList.length ≤ left.length + piece.length) →
      .unauthorized token ∈ (check instruction code values context).deviations := by
  intro all
  have reported := all "login with username w" "await page.waitForTimeout(1000);" "waitForTimeout"
    [("username", "w")] [] "await page.".toList "(1000);".toList (by decide) (by decide +kernel) ?_
  · revert reported
    decide +kernel
  · rintro ⟨piece, member, left, right, stands, early, covers⟩
    have short : ∀ piece ∈ protectedTexts "login with username w" [("username", "w")] [],
        piece.length < 14 ∨ Chars.contains piece
          (statements "await page.waitForTimeout(1000);").toList = false := by
      decide +kernel
    rcases short piece member with short | foreign
    · have length : "waitForTimeout".toList.length = 14 := by decide
      omega
    · rw [← Bool.not_eq_true, Chars.contains_iff_infix] at foreign
      exact foreign ⟨left, right, stands.symm⟩

end Strict

end PlainScript
