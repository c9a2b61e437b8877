/-
How a value is spelled between delimiters: most characters stand for themselves, and a backslash
with one character after it is an escape. What is written inside a literal or a CSS string spells
the value that it is written for, and nothing else.
-/

import PlainScript.Literal.Selector
import PlainScript.Proofs.Literal.Weft
import PlainScript.Proofs.Text.Feed

namespace PlainScript.Literal

/-- The rules by which the inside of quoted text is read. -/
structure Spelling where
  /-- Whether a character stands for itself. -/
  keeps : Char → Bool
  /-- What a backslash and this character stand for. -/
  unescape? : Char → Option Char
  backslash : keeps '\\' = false

/-- The text between two delimiters spells the value. -/
inductive Spells (spelling : Spelling) : (inside value : List Char) → Prop
  | nil : Spells spelling [] []
  | keep {c : Char} {inside value : List Char} (kept : spelling.keeps c = true)
      (rest : Spells spelling inside value) : Spells spelling (c :: inside) (c :: value)
  | escape {c meant : Char} {inside value : List Char} (escaped : spelling.unescape? c = some meant)
      (rest : Spells spelling inside value) :
      Spells spelling ('\\' :: c :: inside) (meant :: value)

variable {rules : Spelling} {inside value : List Char}

theorem Spells.eq_nil_iff (spelled : Spells rules inside value) : inside = [] ↔ value = [] := by
  cases spelled <;> simp

/-- A text spells one value only: a backslash never stands for itself. -/
theorem Spells.value_eq (spelled : Spells rules inside value) {other : List Char}
    (otherwise : Spells rules inside other) : value = other := by
  have backslash := rules.backslash
  induction spelled generalizing other with
  | nil =>
      cases otherwise
      rfl
  | keep kept rest ih =>
      cases otherwise with
      | keep kept' rest' => rw [ih rest']
      | escape escaped' rest' => exact absurd (backslash.symm.trans kept) Bool.false_ne_true
  | escape escaped rest ih =>
      cases otherwise with
      | keep kept' rest' => exact absurd (backslash.symm.trans kept') Bool.false_ne_true
      | escape escaped' rest' =>
          rw [ih rest', Option.some.inj (escaped.symm.trans escaped')]

/-- The writing of a character by itself or as an escape. -/
def Spelling.Writes (rules : Spelling) (c : Char) (written : List Char) : Prop :=
  written = [c] ∧ rules.keeps c = true ∨
    ∃ mark, written = ['\\', mark] ∧ rules.unescape? mark = some c

/-- What is written character by character spells what it is written for. -/
theorem spells_flatMap {write : Char → List Char} (writes : ∀ c, rules.Writes c (write c))
    (value : List Char) : Spells rules (value.flatMap write) value := by
  induction value with
  | nil => exact .nil
  | cons c value ih =>
      rw [List.flatMap_cons]
      rcases writes c with ⟨written, kept⟩ | ⟨mark, written, escaped⟩
      · rw [written]
        exact .keep kept ih
      · rw [written]
        exact .escape escaped ih

/-! Literals of the code -/

/-- In a literal the backslash, the delimiter and the line feed are escaped. -/
def Mark.spelling (mark : Mark) : Spelling where
  keeps c := !(c == '\\' || c == mark.char || c == '\n')
  unescape? c :=
    if c = '\\' ∨ c = mark.char then some c else if c = 'n' then some '\n' else none
  backslash := rfl

theorem writes_escapeChar (mark : Mark) (c : Char) :
    mark.spelling.Writes c (escapeChar mark c) := by
  rw [escapeChar]
  split_ifs with isBackslash isDelimiter isLineFeed
  · exact .inr ⟨'\\', rfl, by simp [Mark.spelling, isBackslash]⟩
  · exact .inr ⟨c, rfl, by simp [Mark.spelling, isDelimiter]⟩
  · subst isLineFeed
    exact .inr ⟨'n', rfl, by cases mark <;> rfl⟩
  · exact .inl ⟨rfl, by simp [Mark.spelling, isBackslash, isDelimiter, isLineFeed]⟩

/-- Only a single mark can give way, around text that holds single marks and no double ones. -/
theorem Mark.around_ne_iff (asked : Mark) (chars : List Char) :
    asked.around chars ≠ asked ↔ asked = .single ∧ '\'' ∈ chars ∧ '"' ∉ chars := by
  rw [around]
  split_ifs with single
  · rw [single.1]
    simpa using single.2
  · simpa using single

/-- The literal of a text in the marks asked for. -/
def Mark.literal : Mark → String → String
  | single => quote
  | double => quoteDouble

theorem Mark.toList_literal (asked : Mark) (text : String) :
    (asked.literal text).toList = quoteChars asked text.toList := by
  cases asked <;> exact String.toList_ofList

/-- A literal is complete and means its text. It stands between two delimiters of one kind, the one
asked for unless that is a single mark and the text holds single marks but no double ones. It stays
on its line, what stands in it spells the text and nothing else, without a bare delimiter or
backslash, and reading from its front ends where it ends, whatever follows. -/
theorem exists_spells_literal (asked : Mark) (text : String) :
    ∃ mark inside, (asked.literal text).toList = mark.char :: inside ++ [mark.char] ∧
      (mark ≠ asked ↔ asked = .single ∧ '\'' ∈ text.toList ∧ '"' ∉ text.toList) ∧
      '\n' ∉ inside ∧
      (∀ value, Spells mark.spelling inside value ↔ value = text.toList) ∧
      ∀ rest, read ((asked.literal text).toList ++ rest) = some (text.toList, rest) := by
  have spelled := spells_flatMap (writes_escapeChar (asked.around text.toList)) text.toList
  have oneLine := lineFeed_notMem_quoteChars asked text.toList
  rw [asked.toList_literal]
  refine ⟨asked.around text.toList, _, rfl, asked.around_ne_iff _, ?_, fun value => ⟨?_, ?_⟩,
    read_quoteChars_append asked text.toList⟩
  · exact fun member => oneLine (List.mem_append_left _ (List.mem_cons_of_mem _ member))
  · exact fun otherwise => (spelled.value_eq otherwise).symm
  · rintro rfl
    exact spelled

/-! CSS strings -/

/-- In a CSS string a backslash escapes any character but a line feed. -/
def cssSpelling : Spelling where
  keeps c := !(c == '\\' || c == '"')
  unescape? c := if c = '\n' then none else some c
  backslash := rfl

theorem writes_cssChar (c : Char) : cssSpelling.Writes c (cssChar c) := by
  rw [cssChar]
  split_ifs with escaped
  · have other : c ≠ '\n' := by
      rintro rfl
      revert escaped
      decide
    exact .inr ⟨c, rfl, by simp [cssSpelling, other]⟩
  · exact .inl ⟨rfl, by simpa [cssSpelling] using escaped⟩

/-- The inside of a CSS string is read up to the quote after it. -/
theorem readCss_append (spelled : Spells cssSpelling inside value) (rest : List Char) :
    readCss (inside ++ '"' :: rest) = some (inside, rest) := by
  induction spelled with
  | nil => rfl
  | @keep c inside value kept spelled ih =>
      have plain : c ≠ '\\' ∧ c ≠ '"' := by simpa [cssSpelling] using kept
      rw [List.cons_append, readCss, ih, Option.map_some]
      · exact plain.2
      · exact plain.1
  | @escape c meant inside value escaped spelled ih =>
      have inLine : c ≠ '\n' := by
        rintro rfl
        cases escaped
      rw [List.cons_append, List.cons_append, readCss, if_neg inLine, ih, Option.map_some]

/-- Whatever is read as the inside of a CSS string spells a value. -/
theorem exists_spells_of_readCss {text rest : List Char}
    (found : readCss text = some (inside, rest)) :
    text = inside ++ '"' :: rest ∧ ∃ value, Spells cssSpelling inside value := by
  fun_induction readCss text generalizing inside with
  | case1 => cases found
  | case2 after =>
      cases found
      exact ⟨rfl, [], .nil⟩
  | case3 => cases found
  | case4 after => cases found
  | case5 c after inLine ih =>
      obtain ⟨⟨inner, tail⟩, later, same⟩ := Option.map_eq_some_iff.mp found
      cases same
      obtain ⟨rfl, value, spelled⟩ := ih later
      exact ⟨rfl, c :: value, .escape (if_neg inLine) spelled⟩
  | case6 c after notQuote notBackslash ih =>
      obtain ⟨⟨inner, tail⟩, later, same⟩ := Option.map_eq_some_iff.mp found
      cases same
      obtain ⟨rfl, value, spelled⟩ := ih later
      have kept : cssSpelling.keeps c = true := by
        simpa [cssSpelling] using ⟨notBackslash, notQuote⟩
      exact ⟨rfl, c :: value, .keep kept spelled⟩

/-- Dropping the backslashes of escapes leaves the value. -/
theorem unescapeCss_eq (spelled : Spells cssSpelling inside value) :
    unescapeCss inside = value := by
  induction spelled with
  | nil => rfl
  | @keep c inside value kept spelled ih =>
      have plain : c ≠ '\\' := by
        rintro rfl
        cases kept
      rw [unescapeCss, ih]
      exact fun d rest same => absurd same plain
  | @escape c meant inside value escaped spelled ih =>
      have inLine : c ≠ '\n' := by
        rintro rfl
        cases escaped
      have meaning : some c = some meant := (if_neg inLine).symm.trans escaped
      rw [unescapeCss, if_neg inLine, ih, Option.some.inj meaning]

end PlainScript.Literal
