/-
Plain pieces of text stand unchanged in literals and selector strings, and nothing else comes to
stand there.
-/

import PlainScript.Literal.Quoted
import PlainScript.Literal.Selector
import PlainScript.Proofs.Text.Pieces

namespace PlainScript.Literal

/-- A piece is plain if no literal or selector string changes any of its characters. -/
def isPlain (piece : List Char) : Bool :=
  piece.all fun c => !(['\\', '\'', '"', '\n'].contains c)

theorem isPlain_iff (piece : List Char) :
    isPlain piece = true ↔ '\\' ∉ piece ∧ '\'' ∉ piece ∧ '"' ∉ piece ∧ '\n' ∉ piece := by
  constructor
  · intro plain
    rw [isPlain, List.all_eq_true] at plain
    refine ⟨?_, ?_, ?_, ?_⟩ <;>
      exact fun member => absurd (plain _ member) (by decide)
  · rintro ⟨backslash, single, double, lineFeed⟩
    rw [isPlain, List.all_eq_true]
    intro c member
    have foreign : c ∉ ['\\', '\'', '"', '\n'] := by
      simp only [List.mem_cons, List.not_mem_nil, or_false]
      rintro (rfl | rfl | rfl | rfl) <;> contradiction
    simpa using foreign

variable {piece text : List Char}

/-- What stands in a text stands between the delimiters around it. -/
theorem infix_delimited (delimiter : Char) (inside : piece <:+: text) :
    piece <:+: delimiter :: text ++ [delimiter] :=
  List.infix_cons (inside.trans (List.prefix_append _ _).isInfix)

/-- What stands between delimiters and does not hold them stands in the text there. -/
theorem infix_of_infix_delimited {delimiter : Char} (nonempty : piece ≠ [])
    (foreign : delimiter ∉ piece) (inside : piece <:+: delimiter :: text ++ [delimiter]) :
    piece <:+: text := by
  rwa [Chars.infix_append_guard_iff (Chars.guardsBefore_singleton nonempty foreign),
    ← List.singleton_append,
    Chars.infix_guard_append_iff (Chars.guardsAfter_singleton nonempty foreign)] at inside

/-! Quoted literals -/

theorem Mark.char_notMem_of_isPlain (plain : isPlain piece = true) (mark : Mark) :
    mark.char ∉ piece := by
  obtain ⟨-, single, double, -⟩ := (isPlain_iff piece).mp plain
  cases mark
  · exact single
  · exact double

/-- Characters of plain pieces are not escaped. -/
theorem escapeChar_of_isPlain (plain : isPlain piece = true) (mark : Mark) :
    ∀ c ∈ piece, escapeChar mark c = [c] := by
  intro c member
  obtain ⟨backslash, -, -, lineFeed⟩ := (isPlain_iff piece).mp plain
  have delimiter := Mark.char_notMem_of_isPlain plain mark
  have kept : c ≠ '\\' ∧ c ≠ mark.char ∧ c ≠ '\n' := by
    refine ⟨?_, ?_, ?_⟩ <;> rintro rfl <;> contradiction
  simp [escapeChar, kept]

/-- A character is kept or becomes an escape. A plain piece lacks the backslash of the escape, and
it begins with no other character of it if it does not begin with `n`. -/
theorem escapeChar_images (plain : isPlain piece = true) (start : piece.head? ≠ some 'n')
    (mark : Mark) (c : Char) : escapeChar mark c = [c] ∨
      ∃ first rest, escapeChar mark c = first :: rest ∧ first ∉ piece ∧
        ∀ d ∈ rest, piece.head? ≠ some d := by
  obtain ⟨backslash, -⟩ := (isPlain_iff piece).mp plain
  have unstarted {d : Char} (foreign : d ∉ piece) : piece.head? ≠ some d :=
    fun head => foreign (List.mem_of_mem_head? head)
  have delimiter := Mark.char_notMem_of_isPlain plain mark
  unfold escapeChar
  split_ifs with isBackslash isDelimiter isLineFeed
  · exact .inr ⟨_, _, rfl, backslash, by simpa using unstarted backslash⟩
  · exact .inr ⟨_, _, rfl, backslash, by simpa [isDelimiter] using unstarted delimiter⟩
  · exact .inr ⟨_, _, rfl, backslash, by simpa using start⟩
  · exact .inl rfl

/-- A plain text stands as it is between the delimiters asked for. -/
theorem quoteChars_of_isPlain (plain : isPlain piece = true) (asked : Mark) :
    quoteChars asked piece = asked.char :: piece ++ [asked.char] := by
  have around : asked.around piece = asked := by
    rw [Mark.around, if_neg]
    exact fun single => Mark.char_notMem_of_isPlain plain .single single.2.1
  have kept : piece.flatMap (escapeChar asked) = piece := by
    rw [List.flatMap_congr (escapeChar_of_isPlain plain asked), List.flatMap_singleton']
  rw [quoteChars, around, kept]

/-- A plain piece of a text stands in its literal. -/
theorem infix_quoteChars (plain : isPlain piece = true) (asked : Mark) (inside : piece <:+: text) :
    piece <:+: quoteChars asked text := by
  have kept := escapeChar_of_isPlain plain (asked.around text)
  exact infix_delimited _ (Chars.infix_flatMap_of_infix kept inside)

/-- What stands in a literal, plain and without `n` in front, stands in its text. -/
theorem infix_of_infix_quoteChars (nonempty : piece ≠ []) (plain : isPlain piece = true)
    (start : piece.head? ≠ some 'n') (asked : Mark) (inside : piece <:+: quoteChars asked text) :
    piece <:+: text := by
  have foreign := Mark.char_notMem_of_isPlain plain (asked.around text)
  exact Chars.infix_of_infix_flatMap nonempty (escapeChar_images plain start _)
    (infix_of_infix_delimited nonempty foreign inside)

/-- A literal separates what stands before and after it from what stands in it. -/
theorem infix_append_quoteChars_append_iff (nonempty : piece ≠ []) (plain : isPlain piece = true)
    (start : piece.head? ≠ some 'n') (asked : Mark) (left right : List Char) :
    piece <:+: left ++ (quoteChars asked text ++ right) ↔
      piece <:+: left ∨ piece <:+: text ∨ piece <:+: right := by
  have delimiter := Chars.guards_singleton nonempty
    (Mark.char_notMem_of_isPlain plain (asked.around text))
  have inside : piece <:+: text.flatMap (escapeChar (asked.around text)) ↔ piece <:+: text :=
    ⟨Chars.infix_of_infix_flatMap nonempty (escapeChar_images plain start _),
      Chars.infix_flatMap_of_infix (escapeChar_of_isPlain plain _)⟩
  have whole : left ++ (quoteChars asked text ++ right) =
      left ++ [(asked.around text).char] ++
        (text.flatMap (escapeChar (asked.around text)) ++ [(asked.around text).char] ++ right) := by
    simp [quoteChars]
  rw [whole, Chars.infix_append_guard_append_iff delimiter,
    Chars.infix_append_guard_append_iff delimiter, inside]

/-! CSS strings -/

theorem cssChar_of_isPlain (plain : isPlain piece = true) : ∀ c ∈ piece, cssChar c = [c] := by
  intro c member
  obtain ⟨backslash, -, double, -⟩ := (isPlain_iff piece).mp plain
  have kept : c ≠ '\\' ∧ c ≠ '"' := by
    refine ⟨?_, ?_⟩ <;> rintro rfl <;> contradiction
  simp [cssChar, kept]

theorem cssChar_images (plain : isPlain piece = true) (c : Char) :
    cssChar c = [c] ∨ ∃ first rest, cssChar c = first :: rest ∧ first ∉ piece ∧
      ∀ d ∈ rest, piece.head? ≠ some d := by
  obtain ⟨backslash, -, double, -⟩ := (isPlain_iff piece).mp plain
  have unstarted {d : Char} (foreign : d ∉ piece) : piece.head? ≠ some d :=
    fun head => foreign (List.mem_of_mem_head? head)
  unfold cssChar
  split_ifs with escaped
  · refine .inr ⟨_, _, rfl, backslash, List.forall_mem_singleton.mpr ?_⟩
    rcases escaped with rfl | rfl
    exacts [unstarted backslash, unstarted double]
  · exact .inl rfl

/-- A plain piece of a text stands in its CSS string. -/
theorem infix_cssChars (plain : isPlain piece = true) (inside : piece <:+: text) :
    piece <:+: cssChars text :=
  infix_delimited _ (Chars.infix_flatMap_of_infix (cssChar_of_isPlain plain) inside)

/-- What stands in a CSS string and is plain stands in its text. -/
theorem infix_of_infix_cssChars (nonempty : piece ≠ []) (plain : isPlain piece = true)
    (inside : piece <:+: cssChars text) : piece <:+: text := by
  have foreign := ((isPlain_iff piece).mp plain).2.2.1
  exact Chars.infix_of_infix_flatMap nonempty (cssChar_images plain)
    (infix_of_infix_delimited nonempty foreign inside)

/-! XPath expressions -/

namespace XPath

theorem joinChars_cons_cons (first second : XPath) (arguments : List XPath) :
    joinChars (first :: second :: arguments) =
      chars first ++ [',', ' '] ++ joinChars (second :: arguments) := by
  rw [joinChars]
  simp

/-- The characters of an argument stand in a joined expression. -/
theorem infix_joinChars {argument : XPath} {arguments : List XPath}
    (member : argument ∈ arguments) : argument.chars <:+: joinChars arguments := by
  induction arguments with
  | nil => simp at member
  | cons first arguments ih =>
      cases arguments with
      | nil =>
          rw [List.mem_singleton] at member
          rw [member, joinChars]
      | cons second arguments =>
          rw [joinChars_cons_cons]
          rcases List.mem_cons.mp member with rfl | member
          · exact ((List.prefix_append _ _).trans (List.prefix_append _ _)).isInfix
          · exact (ih member).trans (List.suffix_append _ _).isInfix

/-- What stands in a joined expression, but not in its commas, stands in an argument. -/
theorem exists_infix_of_infix_joinChars {arguments : List XPath} (nonempty : piece ≠ [])
    (guarded : Chars.guards piece [',', ' '] = true) (inside : piece <:+: joinChars arguments) :
    ∃ argument ∈ arguments, piece <:+: argument.chars := by
  induction arguments with
  | nil => simp [joinChars, nonempty] at inside
  | cons first arguments ih =>
      cases arguments with
      | nil => exact ⟨first, List.mem_cons_self, by rwa [joinChars] at inside⟩
      | cons second arguments =>
          rw [joinChars_cons_cons, Chars.infix_append_guard_append_iff guarded] at inside
          rcases inside with inFirst | inRest
          · exact ⟨first, List.mem_cons_self, inFirst⟩
          · obtain ⟨argument, member, inArgument⟩ := ih inRest
            exact ⟨argument, List.mem_cons_of_mem _ member, inArgument⟩

/-- Every piece becomes an argument. -/
theorem single_mem_interleave {part : List Char} {parts : List (List Char)}
    (member : part ∈ parts) : single part ∈ interleave parts := by
  induction parts with
  | nil => simp at member
  | cons first parts ih =>
      cases parts with
      | nil =>
          rw [List.mem_singleton] at member
          simp [interleave, member]
      | cons second parts =>
          rcases List.mem_cons.mp member with rfl | member
          · simp [interleave]
          · simp [interleave, ih member]

/-- Every argument is a piece or the quote between two of them. -/
theorem eq_of_mem_interleave {argument : XPath} {parts : List (List Char)}
    (member : argument ∈ interleave parts) :
    (∃ part ∈ parts, argument = single part) ∨ argument = double ['\''] := by
  induction parts with
  | nil => simp [interleave] at member
  | cons first parts ih =>
      cases parts with
      | nil =>
          rw [interleave, List.mem_singleton] at member
          exact .inl ⟨first, List.mem_cons_self, member⟩
      | cons second parts =>
          simp only [interleave, List.mem_cons] at member ih
          rcases member with rfl | rfl | member
          · exact .inl ⟨first, List.mem_cons_self, rfl⟩
          · exact .inr rfl
          · rcases ih member with ⟨part, inParts, rfl⟩ | rfl
            · exact .inl ⟨part, List.mem_cons_of_mem _ (List.mem_cons.mpr inParts), rfl⟩
            · exact .inr rfl

/-- A plain piece of a text stands in its expression. -/
theorem infix_chars_ofChars (plain : isPlain piece = true) (inside : piece <:+: text) :
    piece <:+: (ofChars text).chars := by
  rw [ofChars]
  split_ifs
  · have unmarked : ∀ c ∈ piece, (c == '\'') = false := by
      intro c member
      rw [beq_eq_false_iff_ne]
      rintro rfl
      exact ((isPlain_iff piece).mp plain).2.1 member
    obtain ⟨part, member, inPart⟩ := Chars.exists_infix_splitAt unmarked inside
    have inArgument : piece <:+: (single part).chars := by
      rw [chars]
      exact infix_delimited _ inPart
    rw [chars]
    exact (inArgument.trans (infix_joinChars (single_mem_interleave member))).trans
      (List.infix_append _ _ _)
  · rw [chars]
    exact infix_delimited _ inside
  · rw [chars]
    exact infix_delimited _ inside

/-- What stands in an expression, but not in the words that join its arguments, stands in its
text. -/
theorem infix_of_infix_chars_ofChars (nonempty : piece ≠ []) (plain : isPlain piece = true)
    (opened : Chars.guardsAfter piece joining = true)
    (parted : Chars.guards piece [',', ' '] = true)
    (closed : Chars.guardsBefore piece [')'] = true)
    (inside : piece <:+: (ofChars text).chars) : piece <:+: text := by
  obtain ⟨-, single, double, -⟩ := (isPlain_iff piece).mp plain
  rw [ofChars] at inside
  split_ifs at inside
  · rw [chars, Chars.infix_append_guard_iff closed, Chars.infix_guard_append_iff opened] at inside
    obtain ⟨argument, member, inArgument⟩ :=
      exists_infix_of_infix_joinChars nonempty parted inside
    rcases eq_of_mem_interleave member with ⟨part, inText, rfl⟩ | rfl
    · rw [chars] at inArgument
      exact (infix_of_infix_delimited nonempty single inArgument).trans
        (Chars.infix_of_mem_splitAt inText)
    · rw [chars] at inArgument
      have inQuote := infix_of_infix_delimited nonempty double inArgument
      obtain ⟨c, rest, rfl⟩ := List.exists_cons_of_ne_nil nonempty
      have same : c ∈ ['\''] := inQuote.subset List.mem_cons_self
      rw [List.mem_singleton] at same
      exact absurd (same ▸ List.mem_cons_self) single
  · rw [chars] at inside
    exact infix_of_infix_delimited nonempty double inside
  · rw [chars] at inside
    exact infix_of_infix_delimited nonempty single inside

end XPath

/-! Texts that show others -/

/-- Every plain piece of the part stands in the text. -/
def Shows (text part : String) : Prop :=
  ∀ piece, isPlain piece = true → piece <:+: part.toList → piece <:+: text.toList

namespace Shows

variable {text left right part : String}

@[grind ←]
theorem refl (text : String) : Shows text text := fun _ _ inside => inside

theorem trans {whole : String} (outer : Shows whole text) (inner : Shows text part) :
    Shows whole part := fun piece plain inside => outer piece plain (inner piece plain inside)

theorem of_infix_toList (inside : part.toList <:+: text.toList) : Shows text part :=
  fun _ _ inPart => inPart.trans inside

@[grind ←]
theorem append_left (shows : Shows left part) : Shows (left ++ right) part :=
  trans (of_infix_toList (by simpa using (List.prefix_append _ _).isInfix)) shows

@[grind ←]
theorem append_right (shows : Shows right part) : Shows (left ++ right) part :=
  trans (of_infix_toList (by simpa using (List.suffix_append _ _).isInfix)) shows

@[grind ←]
theorem quote (shows : Shows text part) : Shows (Literal.quote text) part :=
  trans (fun piece plain inside => by
    rw [Literal.quote, String.toList_ofList]
    exact infix_quoteChars plain .single inside) shows

@[grind ←]
theorem quoteDouble (shows : Shows text part) : Shows (Literal.quoteDouble text) part :=
  trans (fun piece plain inside => by
    rw [Literal.quoteDouble, String.toList_ofList]
    exact infix_quoteChars plain .double inside) shows

@[grind ←]
theorem css (shows : Shows text part) : Shows (Literal.css text) part :=
  trans (fun piece plain inside => by
    rw [Literal.css, String.toList_ofList]
    exact infix_cssChars plain inside) shows

@[grind ←]
theorem xpath (shows : Shows text part) : Shows (Literal.xpath text) part :=
  trans (fun piece plain inside => by
    rw [Literal.xpath, String.toList_ofList]
    exact XPath.infix_chars_ofChars plain inside) shows

end Shows

end PlainScript.Literal
