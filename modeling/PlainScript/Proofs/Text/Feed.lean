/-
The lines of a text between its line feeds. Literals and texts on one line have no line feed, so
joined lines are read back as they were; any other text adds its lines to those around it.
-/

import PlainScript.Literal.Quoted
import PlainScript.Proofs.Number.Text
import PlainScript.Proofs.Text.Pieces

namespace PlainScript

namespace Chars

variable {mark : Char → Bool}

/-- What stands in front of a text without marks lengthens the first piece. -/
theorem splitAt_front_append {front : List Char} (unmarked : ∀ c ∈ front, mark c = false)
    (text : List Char) :
    ∃ first rest, splitAt mark text = first :: rest ∧
      splitAt mark (front ++ text) = (front ++ first) :: rest := by
  obtain ⟨first, rest, same⟩ := List.exists_cons_of_ne_nil (splitAt_ne_nil mark text)
  refine ⟨first, rest, same, ?_⟩
  induction front with
  | nil => exact same
  | cons c front ih =>
      rw [List.forall_mem_cons] at unmarked
      rw [List.cons_append, splitAt, unmarked.1, if_neg Bool.false_ne_true, ih unmarked.2]
      rfl

/-- A mark separates the pieces before it from those after it. -/
theorem splitAt_append_mark_append (left : List Char) {c : Char} (marked : mark c = true)
    (right : List Char) :
    splitAt mark (left ++ c :: right) = splitAt mark left ++ splitAt mark right := by
  induction left with
  | nil => simp [splitAt, marked]
  | cons d left ih =>
      obtain ⟨first, rest, same, whole⟩ := splitAt_cons mark d left
      rw [List.cons_append, splitAt, ih, whole, same]
      cases mark d <;> rfl

end Chars

namespace Literal

/-- Every line feed of a literal is escaped. -/
theorem lineFeed_notMem_quoteChars (asked : Mark) (chars : List Char) :
    '\n' ∉ quoteChars asked chars := by
  rw [quoteChars]
  generalize asked.around chars = mark
  have delimiter : '\n' ≠ mark.char := by cases mark <;> decide
  have escaped (c : Char) : '\n' ∉ escapeChar mark c := by
    unfold escapeChar
    split_ifs with isBackslash isDelimiter isLineFeed
    · decide
    · simpa [isDelimiter] using delimiter
    · decide
    · simpa using Ne.symm isLineFeed
  simp [delimiter, escaped]

end Literal

namespace Text

/-- The text has no line feed. -/
def IsOneLine (text : String) : Prop := '\n' ∉ text.toList

theorem isOneLine_iff (text : String) :
    IsOneLine text ↔ ∀ c ∈ text.toList, (c == '\n') = false := by
  simp only [beq_eq_false_iff_ne]
  exact ⟨fun oneLine c member same => oneLine (same ▸ member),
    fun all member => all '\n' member rfl⟩

/-- A written text is judged by its characters. -/
theorem isOneLine_ofList {chars : List Char} (absent : chars.contains '\n' = false) :
    IsOneLine (.ofList chars) := by
  simpa [IsOneLine] using absent

@[simp] theorem isOneLine_append_iff (left right : String) :
    IsOneLine (left ++ right) ↔ IsOneLine left ∧ IsOneLine right := by
  simp [IsOneLine]

theorem isOneLine_intercalate {separator : String} {parts : List String}
    (closed : IsOneLine separator) (oneLine : ∀ part ∈ parts, IsOneLine part) :
    IsOneLine (separator.intercalate parts) := by
  rw [IsOneLine, String.toList_intercalate]
  refine fun member => Chars.forall_mem_intercalate (P := (· ≠ '\n')) ?_ ?_ _ member rfl
  · rintro c member rfl
    exact closed member
  · intro chars member
    obtain ⟨part, inParts, rfl⟩ := List.mem_map.mp member
    rintro c member rfl
    exact oneLine part inParts member

@[simp] theorem isOneLine_quote (text : String) : IsOneLine (Literal.quote text) := by
  rw [IsOneLine, Literal.quote, String.toList_ofList]
  exact Literal.lineFeed_notMem_quoteChars .single _

@[simp] theorem isOneLine_quoteDouble (text : String) : IsOneLine (Literal.quoteDouble text) := by
  rw [IsOneLine, Literal.quoteDouble, String.toList_ofList]
  exact Literal.lineFeed_notMem_quoteChars .double _

/-- The one-line form of a text has no line feed, whatever the text holds. -/
theorem isOneLine_oneLine (text : String) : IsOneLine (oneLine text) := by
  rw [IsOneLine, toList_oneLine]
  refine fun member => Chars.forall_mem_intercalate (P := (· ≠ '\n')) (by decide) ?_ _ member rfl
  intro word member c inWord
  have unblank := Chars.mark_eq_false_of_mem_splitAt (List.mem_filter.mp member).1 c inWord
  rintro rfl
  exact absurd unblank (by decide)

theorem isOneLine_of_isNumeral {text : String} (numeral : Number.IsNumeral text) :
    IsOneLine text :=
  fun member => absurd (numeral '\n' member) (by decide)

/-- The parts of a text between its line feeds. -/
def feedLines (text : String) : List String :=
  (Chars.splitAt (· == '\n') text.toList).map .ofList

theorem feedLines_eq_singleton {text : String} (oneLine : IsOneLine text) :
    feedLines text = [text] := by
  rw [feedLines, Chars.splitAt_eq_singleton ((isOneLine_iff text).mp oneLine), List.map_singleton,
    String.ofList_toList]

/-- A text on one line in front of another lengthens its first line. -/
theorem feedLines_append {front : String} (oneLine : IsOneLine front) (text : String) :
    ∃ first rest, feedLines text = first :: rest ∧
      feedLines (front ++ text) = (front ++ first) :: rest := by
  obtain ⟨first, rest, same, whole⟩ :=
    Chars.splitAt_front_append ((isOneLine_iff front).mp oneLine) text.toList
  refine ⟨.ofList first, rest.map .ofList, by rw [feedLines, same, List.map_cons], ?_⟩
  rw [feedLines, String.toList_append, whole, List.map_cons, String.ofList_append,
    String.ofList_toList]

/-- Joined texts are read line by line; after the last line feed there is an empty line. -/
theorem feedLines_intercalate {parts : List String} (nonempty : parts ≠ []) :
    feedLines ("\n".intercalate parts ++ "\n") = parts.flatMap feedLines ++ [""] := by
  have feed : ("\n".toList : List Char) = ['\n'] := rfl
  rw [feedLines, String.toList_append, String.toList_intercalate, feed]
  induction parts with
  | nil => exact absurd rfl nonempty
  | cons first parts ih =>
      cases parts with
      | nil =>
          rw [List.map_singleton, List.intercalate_singleton,
            Chars.splitAt_append_mark_append _ (by decide), List.map_append, List.flatMap_singleton]
          rfl
      | cons second parts =>
          rw [List.map_cons, List.map_cons, List.intercalate_cons_cons, List.append_assoc,
            List.append_assoc, List.singleton_append,
            Chars.splitAt_append_mark_append _ (by decide), List.map_append, List.flatMap_cons,
            List.append_assoc]
          exact congrArg (_ ++ ·) (ih (List.cons_ne_nil _ _))

end Text

end PlainScript
