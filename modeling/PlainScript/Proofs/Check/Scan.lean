/-
The scan for additions, line by line and part by part. What cuts the code into parts stands in no
protected piece and in no word of an addition, so that each part can be judged on its own.
-/

import PlainScript.Proofs.Check.Delimited
import PlainScript.Proofs.Check.Strict

namespace PlainScript.Strict

open Masking

/-- Every addition holds one of these, which have no spaces and no brackets. -/
def cores : List (List Char) := [
  ['w', 'a', 'i', 't', 'F', 'o', 'r', 'T', 'i', 'm', 'e', 'o', 'u', 't'],
  ['w', 'a', 'i', 't', 'F', 'o', 'r', 'S', 'e', 'l', 'e', 'c', 't', 'o', 'r'],
  ['w', 'a', 'i', 't', '_', 'f', 'o', 'r', '_', 't', 'i', 'm', 'e', 'o', 'u', 't'],
  ['w', 'a', 'i', 't', '_', 'f', 'o', 'r', '_', 's', 'e', 'l', 'e', 'c', 't', 'o', 'r'],
  ['t', 'r', 'y'],
  ['c', 'a', 't', 'c', 'h'],
  ['e', 'x', 'c', 'e', 'p', 't'],
  ['.', 'r', 'e', 'l', 'o', 'a', 'd'],
  ['.', 'g', 'o', 'B', 'a', 'c', 'k'],
  ['.', 'g', 'o', 'F', 'o', 'r', 'w', 'a', 'r', 'd'],
  ['.', 'g', 'o', '_', 'b', 'a', 'c', 'k'],
  ['.', 'g', 'o', '_', 'f', 'o', 'r', 'w', 'a', 'r', 'd'],
  ['.', 'r', 'e', 'f', 'r', 'e', 's', 'h'],
  ['t', 'e', 's', 't', 'u', 's', 'e', 'r'],
  ['p', 'a', 's', 's', 'w', 'o', 'r', 'd', '1', '2', '3']]

theorem exists_core_infix {token : String} (member : token ∈ forbidden ++ placeholders) :
    ∃ core ∈ cores, core <:+: token.toList := by
  have all : ∀ token ∈ forbidden ++ placeholders,
      (cores.any fun core => Chars.contains core token.toList) = true := by
    decide
  obtain ⟨core, inside, found⟩ := List.any_eq_true.mp (all token member)
  exact ⟨core, inside, (Chars.contains_iff_infix _ _).mp found⟩

/-- What a core has and what it has not. -/
theorem cores_shape : ∀ core ∈ cores, core ≠ [] ∧ ' ' ∉ core ∧ '\'' ∉ core ∧ '"' ∉ core := by
  decide

variable {titles known : List (List Char)} {text front back : List Char} {c : Char}

/-- The text that is left of a part after both maskings. -/
def scan (titles known : List (List Char)) (text : List Char) : List Char :=
  maskChars (maskChars text titles) known

theorem fades_scan (titles known : List (List Char)) (text : List Char) :
    Fades text (scan titles known text) :=
  (fades_maskChars text titles).trans (fades_maskChars _ known)

/-- No addition is found in the part. -/
def Quiet (titles known : List (List Char)) (text : List Char) : Prop :=
  ∀ core ∈ cores, ¬ core <:+: scan titles known text

/-- No addition stands in the text to begin with. -/
def harmless (text : List Char) : Bool := cores.all fun core => !Chars.contains core text

theorem harmless_iff (text : List Char) :
    harmless text = true ↔ ∀ core ∈ cores, ¬ core <:+: text := by
  simp [harmless, ← Chars.contains_iff_infix]

theorem harmless_of_infix {part : List Char} (inside : part <:+: text)
    (safe : harmless text = true) : harmless part = true := by
  rw [harmless_iff] at safe ⊢
  exact fun core member found => safe core member (found.trans inside)

/-- Nothing is found in what is left of harmless text. -/
theorem quiet_of_fades {faded : List Char} (safe : harmless faded = true)
    (fades : Fades faded (scan titles known text)) : Quiet titles known text :=
  fun core member inside => (harmless_iff faded).mp safe core member
    (fades.occurs_of_occurs (cores_shape core member).2.1 inside)

theorem quiet_of_harmless (safe : harmless text = true) : Quiet titles known text :=
  quiet_of_fades safe (fades_scan titles known text)

/-- A character that stands in no piece and in no core. -/
structure Cuts (titles known : List (List Char)) (c : Char) : Prop where
  titles : ∀ piece ∈ titles, c ∉ piece
  known : ∀ piece ∈ known, c ∉ piece
  cores : ∀ core ∈ cores, c ∉ core

/-- The parts on the two sides of such a character are judged on their own. -/
theorem quiet_append_cons_iff (cuts : Cuts titles known c) :
    Quiet titles known (front ++ c :: back) ↔
      Quiet titles known front ∧ Quiet titles known back := by
  have cut : scan titles known (front ++ c :: back) =
      scan titles known front ++ [c] ++ scan titles known back := by
    rw [scan, maskChars_append_cons cuts.titles, maskChars_append_cons cuts.known,
      List.append_assoc, List.singleton_append]
    rfl
  have parted (core) (member : core ∈ cores) := Chars.infix_append_guard_append_iff
    (Chars.guards_singleton (cores_shape core member).1 (cuts.cores core member))
    (scan titles known front) (scan titles known back)
  simp +contextual only [Quiet, cut, parted, not_or]
  exact ⟨fun both => ⟨fun core member => (both core member).1,
    fun core member => (both core member).2⟩,
    fun both core member => ⟨both.1 core member, both.2 core member⟩⟩

theorem quiet_nil : Quiet titles known [] := quiet_of_harmless (by decide)

/-- A part between harmless texts that end and begin with such characters. -/
theorem quiet_around_iff {c d : Char} (cuts : Cuts titles known c) (cuts' : Cuts titles known d)
    (front_harmless : harmless front = true) (back_harmless : harmless back = true) :
    Quiet titles known (front ++ c :: (text ++ d :: back)) ↔ Quiet titles known text := by
  rw [quiet_append_cons_iff cuts, quiet_append_cons_iff cuts']
  simp only [quiet_of_harmless front_harmless, quiet_of_harmless back_harmless, true_and, and_true]

/-! Parts that are blanked out -/

/-- Blanks between two texts part them for every core. -/
theorem harmless_append_blanked_append {piece : List Char} (nonempty : piece ≠ [])
    (front_harmless : harmless front = true) (back_harmless : harmless back = true) :
    harmless (front ++ blanked piece ++ back) = true := by
  rw [harmless_iff] at front_harmless back_harmless ⊢
  intro core member
  obtain ⟨shaped, spaceless, -⟩ := cores_shape core member
  obtain ⟨c, rest, rfl⟩ := List.exists_cons_of_ne_nil nonempty
  have blanks : blanked (c :: rest) = [' '] ++ List.replicate rest.length ' ' := rfl
  have after : ¬ core <:+: List.replicate rest.length ' ' ++ back := by
    rw [Chars.infix_foreign_append_iff shaped]
    · exact back_harmless core member
    · intro d blank
      rwa [(List.mem_replicate.mp blank).2]
  rw [blanks, List.append_assoc, List.append_assoc, ← List.append_assoc,
    Chars.infix_append_guard_append_iff (Chars.guards_singleton shaped spaceless), not_or]
  exact ⟨front_harmless core member, after⟩

/-- A part in which the longest title leaves harmless text. -/
theorem quiet_of_title {piece : List Char} (member : piece ∈ titles) (begins : piece.head? = some c)
    (foreign : c ∉ front)
    (longest : ∀ other ∈ titles, other <:+: front ++ piece ++ back →
      other.length < piece.length ∨ other = piece)
    (front_harmless : harmless front = true) (back_harmless : harmless back = true) :
    Quiet titles known (front ++ piece ++ back) := by
  have nonempty : piece ≠ [] := by
    rintro rfl
    cases begins
  refine quiet_of_fades (harmless_append_blanked_append nonempty front_harmless back_harmless) ?_
  exact (fades_maskOne_around begins foreign back).trans
    ((fades_maskOne_maskChars member nonempty longest).trans (fades_maskChars _ known))

/-- A title alone is blanked out as a whole. -/
theorem quiet_of_mem_titles {piece : List Char} (member : piece ∈ titles) :
    Quiet titles known piece := by
  cases piece with
  | nil => exact quiet_nil
  | cons c rest =>
      have whole : Quiet titles known ([] ++ c :: rest ++ []) := by
        refine quiet_of_title member rfl List.not_mem_nil (fun other _ inside => ?_)
          (by decide) (by decide)
        rw [List.nil_append, List.append_nil] at inside
        exact (Nat.lt_or_eq_of_le inside.length_le).imp_right inside.eq_of_length
      rwa [List.nil_append, List.append_nil] at whole

/-- A part that holds no title and in which the longest known piece leaves harmless text. -/
theorem quiet_of_known {piece : List Char}
    (untitled : ∀ other ∈ titles, ¬ other <:+: front ++ piece ++ back)
    (member : piece ∈ known) (begins : piece.head? = some c) (foreign : c ∉ front)
    (longest : ∀ other ∈ known, other <:+: front ++ piece ++ back →
      other.length < piece.length ∨ other = piece)
    (front_harmless : harmless front = true) (back_harmless : harmless back = true) :
    Quiet titles known (front ++ piece ++ back) := by
  have nonempty : piece ≠ [] := by
    rintro rfl
    cases begins
  refine quiet_of_fades (harmless_append_blanked_append nonempty front_harmless back_harmless) ?_
  rw [scan, maskChars_eq_self fun other inside _ => untitled other inside]
  exact (fades_maskOne_around begins foreign back).trans
    (fades_maskOne_maskChars member nonempty longest)

/-- Lines are judged on their own. -/
theorem quiet_intercalate (feed : Cuts titles known '\n') {lines : List (List Char)}
    (quiet : ∀ line ∈ lines, Quiet titles known line) :
    Quiet titles known (['\n'].intercalate lines) := by
  induction lines with
  | nil => exact quiet_nil
  | cons first lines ih =>
      cases lines with
      | nil => simpa using quiet first List.mem_cons_self
      | cons second lines =>
          rw [List.intercalate_cons_cons, List.append_assoc, List.singleton_append,
            quiet_append_cons_iff feed]
          exact ⟨quiet first List.mem_cons_self,
            ih fun line member => quiet line (List.mem_cons_of_mem first member)⟩

/-! The check of code -/

/-- The characters of the titles of an instruction. -/
abbrev titlePieces (instruction : String) : List (List Char) :=
  (Strict.titles instruction).map String.toList

/-- The characters of the values and of the context. -/
abbrev knownPieces (values : List (String × String)) (context : List String) : List (List Char) :=
  (values.map (·.2) ++ context).map String.toList

/-- A text is blanked out bare and as a literal of either kind. -/
theorem mem_spellings_iff {text piece : String} : piece ∈ spellings text ↔
    piece = text ∨ ∃ mark, piece.toList = Literal.quoteChars mark text.toList := by
  have literal (mark : Literal.Mark) : piece = .ofList (Literal.quoteChars mark text.toList) ↔
      piece.toList = Literal.quoteChars mark text.toList := by
    rw [← String.toList_inj, String.toList_ofList]
  simp only [spellings, List.mem_cons, List.not_mem_nil, or_false]
  refine or_congr_right ⟨?_, ?_⟩
  · rintro (same | same)
    · exact ⟨.single, (literal .single).mp same⟩
    · exact ⟨.double, (literal .double).mp same⟩
  · rintro ⟨_ | _, same⟩
    · exact .inl ((literal .single).mpr same)
    · exact .inr ((literal .double).mpr same)

/-- The titles of an instruction on one line and without annotations are spellings of itself and of
the names made of it. -/
theorem mem_titles_iff {instruction : String} (oneLine : Text.oneLine instruction = instruction)
    (unlocked : Lock.strip instruction = instruction) {piece : String} :
    piece ∈ Strict.titles instruction ↔
      ∃ title ∈ [instruction, Name.derive instruction, Name.camel (Name.derive instruction)],
        piece ∈ spellings title := by
  have twice (text name className title : String) :
      title ∈ [text, name, className, name, className] ↔ title ∈ [text, name, className] := by
    grind
  rw [Strict.titles, List.mem_flatMap]
  simp only [oneLine, unlocked, List.flatMap_cons, List.flatMap_nil, List.append_nil,
    List.cons_append, List.nil_append, twice]

variable {instruction code : String} {values : List (String × String)} {context : List String}

/-- If every line that is no comment is quiet, no addition is found in the code. -/
theorem additions_eq_nil (feed : Cuts (titlePieces instruction) (knownPieces values context) '\n')
    (quiet : ∀ line ∈ Chars.lines code.toList, isComment line = false →
      Quiet (titlePieces instruction) (knownPieces values context) line) :
    additions (mask (body instruction code) (values.map (·.2) ++ context)) = [] := by
  have scanned : (mask (body instruction code) (values.map (·.2) ++ context)).toList =
      scan (titlePieces instruction) (knownPieces values context) (statements code).toList := by
    rw [mask, String.toList_ofList, body, mask, String.toList_ofList, scan]
  have whole : Quiet (titlePieces instruction) (knownPieces values context)
      (statements code).toList := by
    rw [toList_statements]
    refine quiet_intercalate feed fun line member => ?_
    rw [List.mem_filter, Bool.not_eq_true'] at member
    exact quiet line member.1 member.2
  have absent : ∀ token ∈ forbidden ++ placeholders, Text.contains
      (mask (body instruction code) (values.map (·.2) ++ context)) token = false := by
    intro token member
    obtain ⟨core, listed, inToken⟩ := exists_core_infix member
    rw [Text.contains_eq_false_iff, scanned]
    exact fun inside => whole core listed (inToken.trans inside)
  simp only [List.forall_mem_append] at absent
  rw [additions, List.filter_eq_nil_iff.mpr (by simpa using absent.1),
    List.filter_eq_nil_iff.mpr (by simpa using absent.2)]
  rfl

/-- A part without titles between characters outside them is kept. -/
theorem infix_maskChars_of_cut {part : List Char} {d : Char}
    (foreign : ∀ piece ∈ titles, c ∉ piece ∧ d ∉ piece)
    (untitled : ∀ piece ∈ titles, ¬ piece <:+: part)
    (inside : c :: (part ++ [d]) <:+: text) : part <:+: maskChars text titles := by
  obtain ⟨front, back, rfl⟩ := inside
  have cut : maskChars (front ++ c :: (part ++ [d]) ++ back) titles =
      maskChars front titles ++ [c] ++ part ++ d :: maskChars back titles := by
    rw [List.append_assoc, List.cons_append, List.append_assoc, List.singleton_append,
      maskChars_append_cons fun piece member => (foreign piece member).1,
      maskChars_append_cons fun piece member => (foreign piece member).2,
      maskChars_eq_self fun piece member _ => untitled piece member]
    simp only [List.append_assoc, List.cons_append, List.nil_append]
  rw [cut, List.append_assoc]
  exact List.infix_append' _ _ _

/-- A line of the code holds the value in a part without titles. -/
def Holds (instruction code value : String) : Prop :=
  ∃ line ∈ Chars.lines code.toList, isComment line = false ∧
    ∃ (part : List Char) (c d : Char), c :: (part ++ [d]) <:+: line ∧ value.toList <:+: part ∧
      ∀ piece ∈ titlePieces instruction, c ∉ piece ∧ d ∉ piece ∧ ¬ piece <:+: part

/-- Values that lines of the code hold are not missing. -/
theorem missing_eq_nil (held : ∀ value ∈ values, Holds instruction code value.2) :
    missing (body instruction code) values = [] := by
  rw [missing, List.map_eq_nil_iff, List.filter_eq_nil_iff]
  intro value member
  obtain ⟨line, inCode, kept, part, c, d, inLine, inPart, untitled⟩ := held value member
  have inStatements : line <:+: (statements code).toList := by
    rw [toList_statements]
    exact Chars.infix_intercalate_of_mem (List.mem_filter.mpr ⟨inCode, by simpa using kept⟩)
  have found : value.2.toList <:+: (body instruction code).toList := by
    rw [body, mask, String.toList_ofList]
    exact inPart.trans (infix_maskChars_of_cut
      (fun piece member => ⟨(untitled piece member).1, (untitled piece member).2.1⟩)
      (fun piece member => (untitled piece member).2.2) (inLine.trans inStatements))
  simpa [← Text.contains_iff_infix] using found

end PlainScript.Strict
