/-
Markers are found exactly where they stand.
-/

import Mathlib.Data.List.TakeWhile
import PlainScript.Proofs.Text.Occurrence
import PlainScript.TestCase.Marker

namespace PlainScript.Marker

/-- A marker with some field stands in the text. -/
def Stands (text : List Char) : Prop :=
  ∃ field : List Char, field ≠ [] ∧ (∀ c ∈ field, isFieldChar c = true) ∧ markerOf field <:+: text

theorem Stands.of_infix {part text : List Char} (stands : Stands part) (inside : part <:+: text) :
    Stands text := by
  obtain ⟨field, nonempty, chars, inPart⟩ := stands
  exact ⟨field, nonempty, chars, inPart.trans inside⟩

theorem opening_eq : opening = ['T', 'O', 'D', 'O', ':', ' '] := String.toList_ofList

theorem closing_eq : closing =
    [' ', 'n', 'o', 't', ' ', 's', 'p', 'e', 'c', 'i', 'f', 'i', 'e', 'd'] :=
  String.toList_ofList

theorem closing_ne_nil : closing ≠ [] := by
  rw [closing_eq]
  exact List.cons_ne_nil _ _

/-- Words of lower-case letters can be the field of a marker. -/
theorem isFieldChar_of_isLower {chars : List Char}
    (words : (chars.all fun c => c.isLower || c == ' ') = true) :
    ∀ c ∈ chars, isFieldChar c = true := by
  intro c member
  have kind := List.all_eq_true.mp words c member
  rw [Bool.or_eq_true] at kind
  rcases kind with lower | blank
  · have small : c.val < 128 :=
      UInt32.lt_of_le_of_lt (of_decide_eq_true (Bool.and_eq_true_iff.mp lower).2) (by decide)
    have alphanumeric : c.isAlphanum = true := by
      change ((c.isUpper || c.isLower) || c.isDigit) = true
      rw [lower, Bool.or_true, Bool.true_or]
    simp [isFieldChar, Text.isWord, Text.isAlphanumeric, small, alphanumeric]
  · rw [isFieldChar, blank, Bool.or_true]

theorem isFieldChar_closing : ∀ c ∈ closing, isFieldChar c = true :=
  isFieldChar_of_isLower (by rw [closing_eq]; decide)

/-- Closing words are looked for until none are left. -/
theorem lastClosing?_eq_none_iff (chars : List Char) :
    lastClosing? chars = none ↔ ¬ closing <:+: chars := by
  induction chars with
  | nil => simpa [lastClosing?] using closing_ne_nil
  | cons c chars ih =>
      rw [lastClosing?, List.infix_cons_iff, not_or, ← ih]
      cases lastClosing? chars with
      | some index => simp
      | none => simp [List.isPrefixOf_iff_prefix]

/-- A marker begins a text when its opening does and its closing follows in the run of field
characters, with at least one of them between. -/
theorem exists_markerOf_prefix_iff (chars : List Char) :
    (∃ field : List Char, field ≠ [] ∧ (∀ c ∈ field, isFieldChar c = true) ∧
        markerOf field <+: chars) ↔
      opening <+: chars ∧
        closing <:+: ((chars.drop opening.length).takeWhile isFieldChar).drop 1 := by
  constructor
  · rintro ⟨field, nonempty, fieldChars, rest, rfl⟩
    have runChars : ∀ c ∈ field ++ closing, isFieldChar c = true := by
      intro c member
      rcases List.mem_append.mp member with inField | inClosing
      · exact fieldChars c inField
      · exact isFieldChar_closing c inClosing
    refine ⟨⟨field ++ closing ++ rest, by simp [markerOf]⟩, ?_⟩
    have split : (markerOf field ++ rest).drop opening.length = (field ++ closing) ++ rest := by
      simp [markerOf]
    rw [split, List.takeWhile_append_of_pos runChars]
    obtain ⟨c, field, rfl⟩ := List.exists_cons_of_ne_nil nonempty
    exact ⟨field, rest.takeWhile isFieldChar, by simp⟩
  · rintro ⟨⟨rest, rfl⟩, before, after, same⟩
    rw [List.drop_left] at same
    cases run : rest.takeWhile isFieldChar with
    | nil =>
        rw [run, List.drop_nil, List.append_eq_nil_iff, List.append_eq_nil_iff] at same
        exact absurd same.1.2 closing_ne_nil
    | cons c tail =>
        rw [run, List.drop_one, List.tail_cons] at same
        have runChars : ∀ d ∈ c :: before, isFieldChar d = true := by
          intro d member
          have inRun : d ∈ rest.takeWhile isFieldChar := by
            rw [run, ← same]
            simp only [List.mem_cons, List.mem_append] at member ⊢
            exact member.imp_right fun inside => .inl (.inl inside)
          exact List.mem_takeWhile_imp inRun
        refine ⟨c :: before, List.cons_ne_nil c before, runChars, ?_⟩
        have prefixOfRest : c :: before ++ closing ++ after <+: rest := by
          have whole : rest.takeWhile isFieldChar = c :: before ++ closing ++ after := by
            rw [run, ← same]
            simp
          exact whole ▸ List.takeWhile_prefix isFieldChar
        obtain ⟨more, rfl⟩ := prefixOfRest
        exact ⟨after ++ more, by simp [markerOf]⟩

/-- A field is read where a marker begins, and nowhere else. -/
theorem fieldAt?_eq_none_iff (chars : List Char) :
    fieldAt? chars = none ↔ ¬ ∃ field : List Char, field ≠ [] ∧
      (∀ c ∈ field, isFieldChar c = true) ∧ markerOf field <+: chars := by
  rw [exists_markerOf_prefix_iff, fieldAt?]
  split
  · rename_i opened
    simp [lastClosing?_eq_none_iff, List.isPrefixOf_iff_prefix.mp opened]
  · rename_i unopened
    rw [List.isPrefixOf_iff_prefix] at unopened
    simp [unopened]

/-- Nothing is found exactly where no marker stands. -/
theorem findFrom_eq_nil_iff (text : List Char) : findFrom 0 text = [] ↔ ¬ Stands text := by
  induction text with
  | nil => simp [findFrom, Stands, markerOf, opening]
  | cons c text ih =>
      have cases : Stands (c :: text) ↔ (∃ field : List Char, field ≠ [] ∧
          (∀ c ∈ field, isFieldChar c = true) ∧ markerOf field <+: c :: text) ∨ Stands text := by
        simp only [Stands, List.infix_cons_iff, and_or_left, exists_or]
      rw [cases, not_or, ← ih, ← fieldAt?_eq_none_iff, findFrom]
      cases fieldAt? (c :: text) <;> simp

/-- The search finds no marker exactly when none stands in the text. -/
theorem findAll_eq_nil_iff (text : String) : findAll text = [] ↔ ¬ Stands text.toList := by
  rw [findAll, List.map_eq_nil_iff, findFrom_eq_nil_iff]

theorem occursIn_iff (text : String) : occursIn text = true ↔ Stands text.toList := by
  rw [occursIn, Bool.not_eq_true', List.isEmpty_eq_false_iff, ne_eq, findAll_eq_nil_iff, not_not]

end PlainScript.Marker
