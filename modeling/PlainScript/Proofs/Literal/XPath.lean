/-
String expressions of XPath as they are written: a literal, which has no escapes and ends at the
first delimiter, or the joining of several literals. The expression of a text denotes that text and
nothing else, whatever quotes, commas and brackets the text holds.
-/

import PlainScript.Proofs.Literal.Plain

namespace PlainScript.Literal.XPath

/-- What may stand around the parts of an expression. -/
def isSpace (c : Char) : Bool := [' ', '\t', '\r', '\n'].contains c

/-- A quoted literal and its value, which is free of the delimiter. -/
inductive IsLiteral : (text value : List Char) → Prop
  | single {value : List Char} (free : '\'' ∉ value) : IsLiteral ('\'' :: value ++ ['\'']) value
  | double {value : List Char} (free : '"' ∉ value) : IsLiteral ('"' :: value ++ ['"']) value

/-- Literals with commas between them, and their values. -/
inductive AreArguments : (text : List Char) → (values : List (List Char)) → Prop
  | last {text value : List Char} (literal : IsLiteral text value) : AreArguments text [value]
  | more {text value before after rest : List Char} {values : List (List Char)}
      (literal : IsLiteral text value) (spacesBefore : ∀ c ∈ before, isSpace c = true)
      (spacesAfter : ∀ c ∈ after, isSpace c = true) (others : AreArguments rest values) :
      AreArguments (text ++ (before ++ ',' :: (after ++ rest))) (value :: values)

/-- A string expression and the string that it denotes. Joining takes two arguments or more. -/
inductive Denotes : (text value : List Char) → Prop
  | literal {text value : List Char} (literal : IsLiteral text value) : Denotes text value
  | concat {text : List Char} {values : List (List Char)} (arguments : AreArguments text values)
      (several : 2 ≤ values.length) :
      Denotes ("concat(".toList ++ text ++ [')']) values.flatten

/-! Expressions are read in one way -/

variable {text other value value' rest rest' : List Char} {values values' : List (List Char)}

/-- Text without the delimiter ends at the next one. -/
theorem delimited_append_inj {delimiter : Char} (free : delimiter ∉ value)
    (free' : delimiter ∉ value') (same : delimiter :: value ++ [delimiter] ++ rest =
      delimiter :: value' ++ [delimiter] ++ rest') : value = value' ∧ rest = rest' := by
  have unmarked {value : List Char} (free : delimiter ∉ value) :
      ∀ c ∈ value, (c == delimiter) = false :=
    fun c member => beq_eq_false_iff_ne.mpr fun equal => free (equal ▸ member)
  have inner : value ++ delimiter :: rest = value' ++ delimiter :: rest' := by
    simpa using same
  obtain ⟨values, -, rests⟩ := Chars.append_cons_inj (unmarked free) (unmarked free')
    (beq_self_eq_true delimiter) (beq_self_eq_true delimiter) inner
  exact ⟨values, rests⟩

/-- A literal ends at its delimiter, whatever follows. -/
theorem IsLiteral.append_inj (literal : IsLiteral text value) (literal' : IsLiteral other value')
    (same : text ++ rest = other ++ rest') : value = value' ∧ rest = rest' := by
  cases literal with
  | single free =>
      cases literal' with
      | single free' => exact delimited_append_inj free free' same
      | double free' => simp at same
  | double free =>
      cases literal' with
      | single free' => simp at same
      | double free' => exact delimited_append_inj free free' same

/-- A literal begins with a delimiter. -/
theorem IsLiteral.exists_eq_cons (literal : IsLiteral text value) :
    ∃ delimiter inside, text = delimiter :: inside ∧ isSpace delimiter = false ∧
      delimiter ≠ 'c' := by
  cases literal with
  | single free => exact ⟨'\'', _, rfl, rfl, by decide⟩
  | double free => exact ⟨'"', _, rfl, rfl, by decide⟩

/-- Arguments begin with the delimiter of the first. -/
theorem AreArguments.exists_eq_cons (arguments : AreArguments text values) :
    ∃ delimiter inside, text = delimiter :: inside ∧ isSpace delimiter = false := by
  cases arguments with
  | last literal =>
      obtain ⟨delimiter, inside, same, notSpace, -⟩ := literal.exists_eq_cons
      exact ⟨delimiter, inside, same, notSpace⟩
  | more literal spacesBefore spacesAfter others =>
      obtain ⟨delimiter, inside, rfl, notSpace, -⟩ := literal.exists_eq_cons
      exact ⟨delimiter, _, rfl, notSpace⟩

/-- Spaces end at the first other character. -/
theorem append_cons_inj_of_isSpace {before before' : List Char} {c c' : Char}
    (spaces : ∀ d ∈ before, isSpace d = true) (spaces' : ∀ d ∈ before', isSpace d = true)
    (notSpace : isSpace c = false) (notSpace' : isSpace c' = false)
    (same : before ++ c :: rest = before' ++ c' :: rest') : c :: rest = c' :: rest' := by
  calc c :: rest = (before ++ c :: rest).dropWhile isSpace :=
        (Chars.dropWhile_append_cons spaces notSpace rest).symm
    _ = (before' ++ c' :: rest').dropWhile isSpace := by rw [same]
    _ = c' :: rest' := Chars.dropWhile_append_cons spaces' notSpace' rest'

/-- A text is made of one list of arguments only. -/
theorem AreArguments.values_eq (arguments : AreArguments text values)
    (arguments' : AreArguments other values') (same : text = other) : values = values' := by
  induction arguments generalizing other values' with
  | last literal =>
      cases arguments' with
      | last literal' =>
          obtain ⟨rfl, -⟩ := literal.append_inj literal' (congrArg (· ++ []) same)
          rfl
      | more literal' spacesBefore' spacesAfter' others' =>
          obtain ⟨-, ended⟩ := literal.append_inj literal' ((List.append_nil _).trans same)
          simp at ended
  | more literal spacesBefore spacesAfter others ih =>
      cases arguments' with
      | last literal' =>
          obtain ⟨-, ended⟩ := literal.append_inj literal' (same.trans (List.append_nil _).symm)
          simp at ended
      | more literal' spacesBefore' spacesAfter' others' =>
          obtain ⟨rfl, afterFirst⟩ := literal.append_inj literal' same
          obtain ⟨-, afterComma⟩ := List.cons.inj
            (append_cons_inj_of_isSpace spacesBefore spacesBefore' rfl rfl afterFirst)
          obtain ⟨delimiter, inside, rfl, notSpace⟩ := others.exists_eq_cons
          obtain ⟨delimiter', inside', rfl, notSpace'⟩ := others'.exists_eq_cons
          rw [ih others' (append_cons_inj_of_isSpace spacesAfter spacesAfter' notSpace notSpace'
            afterComma)]

/-- An expression denotes one string only. -/
theorem Denotes.value_eq (denoted : Denotes text value) (denoted' : Denotes text value') :
    value = value' := by
  cases denoted with
  | literal literal =>
      generalize same : text = other at denoted'
      cases denoted' with
      | literal literal' =>
          exact (literal.append_inj literal' (congrArg (· ++ []) same)).1
      | concat arguments' several' =>
          obtain ⟨delimiter, inside, rfl, -, notJoining⟩ := literal.exists_eq_cons
          simp [notJoining] at same
  | concat arguments several =>
      generalize same : "concat(".toList ++ _ ++ [')'] = other at denoted'
      cases denoted' with
      | literal literal' =>
          obtain ⟨delimiter, inside, rfl, -, notJoining⟩ := literal'.exists_eq_cons
          simp [notJoining.symm] at same
      | concat arguments' several' =>
          have inner := List.append_cancel_left (List.append_cancel_right same)
          rw [arguments.values_eq arguments' inner]

/-! The expression of a text -/

/-- An argument in front of others, as arguments are written. -/
theorem AreArguments.comma (literal : IsLiteral text value) (others : AreArguments rest values) :
    AreArguments (text ++ [',', ' '] ++ rest) (value :: values) := by
  rw [List.append_assoc]
  change AreArguments (text ++ ([] ++ ',' :: ([' '] ++ rest))) (value :: values)
  exact .more literal (by simp) (by decide) others

/-- The arguments made of pieces are the pieces with quotes between them. -/
theorem areArguments_interleave {pieces : List (List Char)} (nonempty : pieces ≠ [])
    (free : ∀ piece ∈ pieces, '\'' ∉ piece) :
    AreArguments (joinChars (interleave pieces)) (pieces.intersperse ['\'']) := by
  induction pieces with
  | nil => exact absurd rfl nonempty
  | cons first pieces ih =>
      rw [List.forall_mem_cons] at free
      have literal : IsLiteral (single first).chars first := .single free.1
      cases pieces with
      | nil => exact .last literal
      | cons second pieces =>
          have quote : IsLiteral (double ['\'']).chars ['\''] := .double (by decide)
          have interleaved : interleave (first :: second :: pieces) =
              single first :: double ['\''] :: interleave (second :: pieces) := by
            simp [interleave]
          obtain ⟨third, more, same⟩ : ∃ third more,
              interleave (second :: pieces) = third :: more := by
            cases pieces <;> exact ⟨_, _, rfl⟩
          rw [interleaved, same, joinChars_cons_cons, joinChars_cons_cons, ← same]
          exact .comma literal (.comma quote (ih (List.cons_ne_nil _ _) free.2))

/-- The expression of a text denotes the text. -/
theorem denotes_ofChars (text : List Char) : Denotes (ofChars text).chars text := by
  rw [ofChars]
  split_ifs with quoted double
  · have whole := Chars.intercalate_splitAt '\'' text
    have unmarked : ∀ piece ∈ Chars.splitAt (· == '\'') text, '\'' ∉ piece :=
      fun piece member inside =>
        absurd (Chars.mark_eq_false_of_mem_splitAt member _ inside) (by decide)
    have nonempty := Chars.splitAt_ne_nil (· == '\'') text
    generalize Chars.splitAt (· == '\'') text = pieces at whole unmarked nonempty ⊢
    -- One piece alone would be the text, which holds a quote.
    have several : 2 ≤ (pieces.intersperse ['\'']).length := by
      rcases pieces with _ | ⟨first, _ | ⟨second, rest⟩⟩
      · exact absurd rfl nonempty
      · rw [List.intercalate_singleton] at whole
        exact absurd (whole ▸ quoted) (unmarked first List.mem_cons_self)
      · simp
    have joined : (concat (interleave pieces)).chars =
        "concat(".toList ++ joinChars (interleave pieces) ++ [')'] := by
      simp [chars, joining]
    rw [joined, ← whole]
    exact .concat (areArguments_interleave nonempty unmarked) several
  · exact .literal (.double double)
  · exact .literal (.single quoted)

/-- The expression of a text is well formed and denotes the text alone: it is one literal without
its delimiter inside, or joins two such literals or more that make up the text. -/
theorem denotes_xpath_iff (text : String) (value : List Char) :
    Denotes (xpath text).toList value ↔ value = text.toList := by
  have denoted : Denotes (xpath text).toList text.toList := by
    rw [xpath, String.toList_ofList]
    exact denotes_ofChars text.toList
  constructor
  · exact fun otherwise => otherwise.value_eq denoted
  · rintro rfl
    exact denoted

end PlainScript.Literal.XPath
