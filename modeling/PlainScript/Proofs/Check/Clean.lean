/-
Unfinished and clean text. Text is unfinished if a marker or the tag of an unresolved selector
stands in it, and stays so wherever it is written into code. Text is clean if none of the signs of
unfinished text stand in it; texts with barriers between them are clean exactly when each of them
is.
-/

import PlainScript.Locator.Basic
import PlainScript.Proofs.Literal.Plain
import PlainScript.Proofs.TestCase.Marker

namespace PlainScript.Strict

/-! Unfinished text -/

/-- A marker or an unresolved selector stands in the text. -/
def Unfinished (text : String) : Prop :=
  Unresolved.tag.toList <:+: text.toList ∨ Marker.Stands text.toList

namespace Unfinished

variable {part text left right : String}

theorem ne_empty (unfinished : Unfinished text) : text ≠ "" := by
  rintro rfl
  rcases unfinished with tagged | ⟨field, -, -, inside⟩
  · exact absurd (List.infix_nil.mp tagged) (by simp [Unresolved.tag])
  · simp [Marker.markerOf, Marker.opening_eq] at inside

theorem of_infix (unfinished : Unfinished part) (inside : part.toList <:+: text.toList) :
    Unfinished text := by
  rcases unfinished with tagged | marked
  · exact .inl (tagged.trans inside)
  · exact .inr (marked.of_infix inside)

theorem append_left (unfinished : Unfinished left) : Unfinished (left ++ right) :=
  unfinished.of_infix (by simpa using (List.prefix_append _ _).isInfix)

theorem append_right (unfinished : Unfinished right) : Unfinished (left ++ right) :=
  unfinished.of_infix (by simpa using (List.suffix_append _ _).isInfix)

/-- What makes a text unfinished is plain, so a text that shows it is unfinished too. -/
theorem of_shows (unfinished : Unfinished part) (shows : Literal.Shows text part) :
    Unfinished text := by
  rcases unfinished with tagged | ⟨field, nonempty, fieldChars, inside⟩
  · refine .inl (shows _ ?_ tagged)
    rw [Unresolved.tag, String.toList_ofList]
    decide
  · refine .inr ⟨field, nonempty, fieldChars, shows _ ?_ inside⟩
    have outer : Literal.isPlain Marker.opening = true ∧ Literal.isPlain Marker.closing = true := by
      rw [Marker.opening_eq, Marker.closing_eq]
      decide
    have inner : Literal.isPlain field = true := by
      rw [Literal.isPlain_iff]
      refine ⟨?_, ?_, ?_, ?_⟩ <;>
        exact fun member => absurd (fieldChars _ member) (by decide)
    simp only [Literal.isPlain] at outer inner ⊢
    simp only [Marker.markerOf, List.all_append, outer, inner, Bool.and_self]

/-- Joining texts finishes none of them. -/
theorem intercalate {separator : String} {parts : List String} (member : part ∈ parts)
    (unfinished : Unfinished part) : Unfinished (separator.intercalate parts) := by
  induction parts with
  | nil => simp at member
  | cons first parts ih =>
      cases parts with
      | nil =>
          rw [List.mem_singleton] at member
          rwa [String.intercalate_singleton, ← member]
      | cons second parts =>
          rw [String.intercalate_cons_cons]
          rcases List.mem_cons.mp member with rfl | member
          · exact unfinished.append_left.append_left
          · exact (ih member).append_right

end Unfinished

/-- The marker of an unresolved selector is unfinished. -/
theorem unfinished_marker (cause : Unresolved) : Unfinished cause.marker := by
  refine .inl ?_
  rw [Unresolved.marker, String.toList_append, String.toList_append, List.append_assoc]
  exact (List.prefix_append _ _).isInfix

/-- The marker of a field is unfinished. -/
theorem unfinished_unspecified {field : List Char} (nonempty : field ≠ [])
    (words : (field.all fun c => c.isLower || c == ' ') = true) :
    Unfinished (Marker.unspecified (.ofList field)) := by
  refine .inr ⟨field, nonempty, Marker.isFieldChar_of_isLower words, ?_⟩
  rw [Marker.unspecified, String.toList_ofList, String.toList_ofList, Marker.markerOf]

/-! Clean text -/

/-- Everything unfinished holds one of these. -/
def signs : List (List Char) :=
  [['T', 'O', 'D', 'O', ':', ' '],
    ['U', 'N', 'R', 'E', 'S', 'O', 'L', 'V', 'E', 'D', '_', 'S', 'E', 'L', 'E', 'C', 'T', 'O', 'R']]

theorem signs_eq : signs = [Marker.opening, Unresolved.tag.toList] := by
  rw [Marker.opening_eq, Unresolved.tag, String.toList_ofList, signs]

/-- No sign stands in the text. -/
def Clean (text : String) : Prop := ∀ sign ∈ signs, ¬ sign <:+: text.toList

/-- No sign stands in the text or reaches into it from a text before. -/
abbrev isBack (text : String) : Bool := signs.all fun sign => Chars.guardsBefore sign text.toList

/-- No sign stands in the text or reaches out of it into a text after it. -/
abbrev isFront (text : String) : Bool := signs.all fun sign => Chars.guardsAfter sign text.toList

/-- No sign stands in the text or reaches into it from either side. -/
abbrev isBarrier (text : String) : Bool := signs.all fun sign => Chars.guards sign text.toList

/-! Written texts are judged by their characters -/

theorem clean_ofList {chars : List Char}
    (absent : (signs.all fun sign => !Chars.contains sign chars) = true) :
    Clean (.ofList chars) := by
  simpa [Clean, ← Chars.contains_iff_infix] using absent

theorem guarded_ofList {judge : List Char → List Char → Bool} {chars : List Char}
    (closed : (signs.all fun sign => judge sign chars) = true) :
    (signs.all fun sign => judge sign (String.ofList chars).toList) = true := by
  rwa [String.toList_ofList]

/-- Clean text is finished. -/
theorem Clean.not_unfinished {text : String} (clean : Clean text) : ¬ Unfinished text := by
  rintro (tagged | ⟨field, -, -, inside⟩)
  · exact clean _ (by simp [signs_eq]) tagged
  · refine clean Marker.opening (by simp [signs_eq]) (List.IsInfix.trans ?_ inside)
    rw [Marker.markerOf, List.append_assoc]
    exact (List.prefix_append _ _).isInfix

theorem Clean.of_infix {part text : String} (clean : Clean text)
    (inside : part.toList <:+: text.toList) : Clean part :=
  fun sign member inPart => clean sign member (inPart.trans inside)

/-- Neither the word before the blank of a marker nor the tag stands in the text. -/
def IsUnmarked (text : String) : Prop :=
  ¬ "TODO:".toList <:+: text.toList ∧ ¬ Unresolved.tag.toList <:+: text.toList

theorem IsUnmarked.clean {text : String} (unmarked : IsUnmarked text) : Clean text := by
  have word : "TODO:".toList <:+: Marker.opening := by
    rw [Marker.opening_eq, String.toList_ofList]
    decide
  intro sign member inside
  simp only [signs_eq, List.mem_cons, List.not_mem_nil, or_false] at member
  rcases member with rfl | rfl
  · exact unmarked.1 (word.trans inside)
  · exact unmarked.2 inside

/-- One more character that the tag lacks completes no sign. -/
theorem IsUnmarked.clean_append_singleton {text : String} (unmarked : IsUnmarked text) {c : Char}
    (foreign : c ∉ Unresolved.tag.toList) : Clean (text ++ String.singleton c) := by
  intro sign member inside
  rw [String.toList_append, String.toList_singleton, List.infix_concat_iff,
    List.suffix_concat_iff] at inside
  rcases inside with (rfl | ⟨front, rfl, suffix⟩) | inside
  · exact absurd member (by decide)
  · have tagFront : front ++ [c] ≠ Unresolved.tag.toList := fun same =>
      foreign (same ▸ List.mem_append_right front List.mem_cons_self)
    simp only [signs_eq, List.mem_cons, List.not_mem_nil, or_false, tagFront] at member
    have opening : Marker.opening = "TODO:".toList ++ [' '] := by
      rw [Marker.opening_eq, String.toList_ofList]
      rfl
    rw [opening] at member
    exact unmarked.1 ((List.append_inj_left' member rfl) ▸ suffix.isInfix)
  · exact unmarked.clean sign member inside

/-- The signs are plain, and none begins with a character of an escape. -/
theorem plain_of_mem_signs {sign : List Char} (member : sign ∈ signs) :
    sign ≠ [] ∧ Literal.isPlain sign = true ∧ sign.head? ≠ some 'n' := by
  have all : ∀ sign ∈ signs,
      sign ≠ [] ∧ Literal.isPlain sign = true ∧ sign.head? ≠ some 'n' := by
    decide
  exact all sign member

variable {left right barrier text : String}

/-- A barrier separates two texts. -/
theorem clean_append_barrier_append_iff (closed : isBarrier barrier = true) :
    Clean (left ++ barrier ++ right) ↔ Clean left ∧ Clean right := by
  have parted (sign) (member : sign ∈ signs) := Chars.infix_append_guard_append_iff
    (List.all_eq_true.mp closed sign member) left.toList right.toList
  simp +contextual only [Clean, String.toList_append, parted, not_or]
  constructor
  · intro both
    exact ⟨fun sign member => (both sign member).1, fun sign member => (both sign member).2⟩
  · intro both sign member
    exact ⟨both.1 sign member, both.2 sign member⟩

theorem clean_front_append_iff (closed : isFront left = true) :
    Clean (left ++ right) ↔ Clean right := by
  have parted (sign) (member : sign ∈ signs) := Chars.infix_guard_append_iff
    (List.all_eq_true.mp closed sign member) right.toList
  simp +contextual only [Clean, String.toList_append, parted]

theorem clean_append_back_iff (closed : isBack right = true) :
    Clean (left ++ right) ↔ Clean left := by
  have parted (sign) (member : sign ∈ signs) := Chars.infix_append_guard_iff
    (List.all_eq_true.mp closed sign member) left.toList
  simp +contextual only [Clean, String.toList_append, parted]

/-- Joining clean texts with barriers keeps them clean. -/
theorem clean_intercalate {separator : String} (closed : isBarrier separator = true)
    {parts : List String} (clean : ∀ part ∈ parts, Clean part) :
    Clean (separator.intercalate parts) := by
  induction parts with
  | nil =>
      rw [String.intercalate_nil]
      exact clean_ofList (by decide)
  | cons first parts ih =>
      cases parts with
      | nil =>
          rw [String.intercalate_singleton]
          exact clean first List.mem_cons_self
      | cons second parts =>
          rw [String.intercalate_cons_cons, clean_append_barrier_append_iff closed]
          exact ⟨clean first List.mem_cons_self,
            ih fun part member => clean part (List.mem_cons_of_mem first member)⟩

/-- A text is clean without two characters that every sign has one of. -/
theorem clean_of_notMem {c d : Char} (cover : ∀ sign ∈ signs, c ∈ sign ∨ d ∈ sign)
    (first : c ∉ text.toList) (second : d ∉ text.toList) : Clean text := by
  intro sign member inside
  rcases cover sign member with ofSign | ofSign
  · exact first (inside.subset ofSign)
  · exact second (inside.subset ofSign)

/-- Such a name is clean between texts without the two characters. -/
theorem clean_append_name_append {c d : Char} {before after : List Char} {name : String}
    (cover : ∀ sign ∈ signs, c ∈ sign ∨ d ∈ sign)
    (outside : c ∉ before ++ after ∧ d ∉ before ++ after)
    (inside : c ∉ name.toList ∧ d ∉ name.toList) :
    Clean (String.ofList before ++ name ++ String.ofList after) := by
  simp only [List.mem_append, not_or] at outside
  refine clean_of_notMem cover ?_ ?_ <;>
    simp only [String.toList_append, String.toList_ofList, List.mem_append, outside, inside,
      or_self, not_false_eq_true]

/-- A text of characters outside the signs is a barrier. -/
theorem isBarrier_of_foreign (nonempty : text.toList ≠ [])
    (foreign : ∀ c ∈ text.toList, ∀ sign ∈ signs, c ∉ sign) : isBarrier text = true := by
  rw [isBarrier, List.all_eq_true]
  intro sign member
  have absent : ¬ sign <:+: text.toList := fun inside => by
    obtain ⟨c, rest, rfl⟩ := List.exists_cons_of_ne_nil (plain_of_mem_signs member).1
    exact foreign c (inside.subset List.mem_cons_self) _ member List.mem_cons_self
  rw [Chars.guards, Bool.and_eq_true, Chars.guardsBefore_iff, Chars.guardsAfter_iff]
  exact ⟨⟨absent, _, List.head?_eq_some_head nonempty, fun inTail =>
      foreign _ (List.head_mem nonempty) _ member (List.mem_of_mem_tail inTail)⟩,
    absent, _, List.getLast?_eq_some_getLast nonempty, fun inFront =>
      foreign _ (List.getLast_mem nonempty) _ member (List.mem_of_mem_dropLast inFront)⟩

/-! Literals -/

theorem clean_quote_iff : Clean (Literal.quote text) ↔ Clean text := by
  refine forall₂_congr fun sign member => not_congr ?_
  obtain ⟨nonempty, plain, start⟩ := plain_of_mem_signs member
  rw [Literal.quote, String.toList_ofList]
  exact ⟨Literal.infix_of_infix_quoteChars nonempty plain start .single,
    Literal.infix_quoteChars plain .single⟩

/-- A literal begins and ends with a delimiter. -/
theorem isBarrier_quote (clean : Clean text) : isBarrier (Literal.quote text) = true := by
  rw [isBarrier, List.all_eq_true]
  intro sign member
  obtain ⟨-, plain, -⟩ := plain_of_mem_signs member
  have foreign := Literal.Mark.char_notMem_of_isPlain plain (Literal.Mark.single.around text.toList)
  have absent := clean_quote_iff.mpr clean sign member
  rw [Chars.guards, Bool.and_eq_true, Chars.guardsBefore_iff, Chars.guardsAfter_iff]
  rw [Literal.quote, String.toList_ofList, Literal.quoteChars] at absent ⊢
  exact ⟨⟨absent, _, rfl, fun inTail => foreign (List.mem_of_mem_tail inTail)⟩,
    absent, _, List.getLast?_concat, fun inFront => foreign (List.mem_of_mem_dropLast inFront)⟩

theorem clean_quoteDouble_iff : Clean (Literal.quoteDouble text) ↔ Clean text := by
  refine forall₂_congr fun sign member => not_congr ?_
  obtain ⟨nonempty, plain, start⟩ := plain_of_mem_signs member
  rw [Literal.quoteDouble, String.toList_ofList]
  exact ⟨Literal.infix_of_infix_quoteChars nonempty plain start .double,
    Literal.infix_quoteChars plain .double⟩

theorem clean_css_iff : Clean (Literal.css text) ↔ Clean text := by
  refine forall₂_congr fun sign member => not_congr ?_
  obtain ⟨nonempty, plain, -⟩ := plain_of_mem_signs member
  rw [Literal.css, String.toList_ofList]
  exact ⟨Literal.infix_of_infix_cssChars nonempty plain, Literal.infix_cssChars plain⟩

theorem clean_xpath_iff : Clean (Literal.xpath text) ↔ Clean text := by
  have joints : ∀ sign ∈ signs, Chars.guardsAfter sign Literal.XPath.joining = true ∧
      Chars.guards sign [',', ' '] = true ∧ Chars.guardsBefore sign [')'] = true := by
    decide
  refine forall₂_congr fun sign member => not_congr ?_
  obtain ⟨nonempty, plain, -⟩ := plain_of_mem_signs member
  obtain ⟨opened, parted, closed⟩ := joints sign member
  rw [Literal.xpath, String.toList_ofList]
  exact ⟨Literal.XPath.infix_of_infix_chars_ofChars nonempty plain opened parted closed,
    Literal.XPath.infix_chars_ofChars plain⟩

end PlainScript.Strict
