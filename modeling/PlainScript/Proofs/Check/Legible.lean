/-
Values that the check can read in a line of the code: titles are blanked out line by line, and a
value on which no title comes to stand is left.
-/

import PlainScript.Proofs.Check.Additions
import PlainScript.Proofs.Check.Scan
import PlainScript.Proofs.TestCase.Name
import PlainScript.Proofs.Text.Feed

namespace PlainScript

namespace Masking

variable {pieces : List (List Char)} {before part after : List Char} {c : Char}

/-- Lines that are joined by a character outside all pieces are masked each on its own. -/
theorem maskChars_intercalate (foreign : ∀ piece ∈ pieces, c ∉ piece) (lines : List (List Char)) :
    maskChars ([c].intercalate lines) pieces =
      [c].intercalate (lines.map fun line => maskChars line pieces) := by
  induction lines with
  | nil => exact List.forall₂_nil_left_iff.mp (fades_maskChars [] pieces)
  | cons first lines ih =>
      cases lines with
      | nil => simp only [List.intercalate_singleton, List.map_cons, List.map_nil]
      | cons second lines =>
          rw [List.intercalate_cons_cons, List.append_assoc, List.singleton_append,
            maskChars_append_cons foreign, ih]
          simp only [List.map_cons, List.intercalate_cons_cons, List.append_assoc,
            List.singleton_append]

/-- With some places all places between them are spared. -/
theorem Spares.mono {text : List Char} {start stop start' stop' : Nat}
    (spares : Spares pieces text start stop) (later : start ≤ start') (earlier : stop' ≤ stop) :
    Spares pieces text start' stop' := by
  intro piece member visible i stands
  have := spares piece member visible i stands
  omega

/-- A part that is spared is left. -/
theorem Spares.infix_maskChars (spares : Spares pieces (before ++ part ++ after) before.length
      (before.length + part.length)) :
    part <:+: maskChars (before ++ part ++ after) pieces := by
  refine List.IsInfix.trans (List.prefix_iff_getElem?.mpr fun k inPart => ?_).isInfix
    (List.drop_suffix before.length _).isInfix
  rw [List.getElem?_drop, spares.getElem?_maskChars (by omega) (by omega), List.append_assoc,
    List.getElem?_append_right (by omega), Nat.add_sub_cancel_left,
    List.getElem?_append_left inPart, List.getElem?_eq_getElem inPart]

end Masking

/-! Titles stand on one line -/

namespace Strict

/-- A spelling of a text on one line is on one line. -/
theorem lineFeed_notMem_of_mem_spellings {text spelling : String} (oneLine : '\n' ∉ text.toList)
    (member : spelling ∈ spellings text) : '\n' ∉ spelling.toList := by
  rcases mem_spellings_iff.mp member with rfl | ⟨mark, same⟩
  · exact oneLine
  · rw [same]
    exact Literal.lineFeed_notMem_quoteChars mark _

theorem lineFeed_notMem_derive (text : String) :
    '\n' ∉ (Name.derive text).toList ∧ '\n' ∉ (Name.camel (Name.derive text)).toList := by
  have derived : ∀ c ∈ (Name.derive text).toList, Name.isNameChar c = true ∨ c = '_' := by
    rw [Name.derive, String.toList_ofList]
    exact Name.isNameChar_of_mem_deriveChars
  exact ⟨fun member => absurd (derived _ member) (by decide),
    fun member => absurd (Name.isAlphanum_camel derived _ member) (by decide)⟩

/-- Titles are on one line each. -/
theorem lineFeed_notMem_of_mem_titlePieces (instruction : String) :
    ∀ piece ∈ titlePieces instruction, '\n' ∉ piece := by
  intro piece member
  obtain ⟨title, listed, rfl⟩ := List.mem_map.mp member
  obtain ⟨text, given, spelled⟩ := List.mem_flatMap.mp listed
  refine lineFeed_notMem_of_mem_spellings ?_ spelled
  rcases List.mem_cons.mp given with rfl | named
  · exact Text.isOneLine_oneLine instruction
  · obtain ⟨source, -, inPair⟩ := List.mem_flatMap.mp named
    simp only [List.mem_cons, List.not_mem_nil, or_false] at inPair
    rcases inPair with rfl | rfl
    · exact (lineFeed_notMem_derive source).1
    · exact (lineFeed_notMem_derive source).2

/-! Legible values -/

/-- The value can be read in the line: no literal escapes any of it, the line is read as a whole,
and no title comes to stand on the value. -/
structure Legible (instruction line value : String) : Prop where
  unescaped : '\\' ∉ value.toList ∧ '\n' ∉ value.toList
  unbroken : ∀ c ∈ line.toList, Text.isLineEnd c = false
  untitled : ∀ before after, line.toList = before ++ value.toList ++ after →
    Masking.Spares (titlePieces instruction) line.toList before.length
      (before.length + value.toList.length)

variable {instruction code line value : String}

/-- What a line that is no comment is left of after masking stands in the body. -/
theorem infix_body_of_mem_lines {chars : List Char} (member : chars ∈ Chars.lines code.toList)
    (live : isComment chars = false) :
    Masking.maskChars chars (titlePieces instruction) <:+: (body instruction code).toList := by
  rw [body, Masking.mask, String.toList_ofList, toList_statements,
    Masking.maskChars_intercalate (lineFeed_notMem_of_mem_titlePieces instruction)]
  refine Chars.infix_intercalate_of_mem (List.mem_map_of_mem ?_)
  exact List.mem_filter.mpr ⟨member, by rw [live]; rfl⟩

/-- A legible value in a line that is no comment is found. -/
theorem Legible.contains_body (legible : Legible instruction line value)
    (member : line.toList ∈ Chars.lines code.toList) (live : isComment line.toList = false)
    (stands : value.toList <:+: line.toList) :
    Text.contains (body instruction code) value = true := by
  obtain ⟨before, after, same⟩ := stands
  have spares := legible.untitled before after same.symm
  rw [Text.contains_iff_infix]
  refine List.IsInfix.trans ?_ (infix_body_of_mem_lines member live)
  rw [← same] at spares ⊢
  exact spares.infix_maskChars

/-! Values that are missing -/

/-- Of the values those are reported that the body does not contain. -/
theorem missingValue_mem_missing_iff {body label : String} {values : List (String × String)} :
    .missingValue label value ∈ missing body values ↔
      (label, value) ∈ values ∧ Text.contains body value = false := by
  simp [missing]

/-- The words that are not allowed are not reported as values. -/
theorem missingValue_notMem_additions (scanned label : String) :
    .missingValue label value ∉ additions scanned := by
  simp [additions]

theorem missingValue_notMem_replacements (lock : Lock) (label : String) :
    .missingValue label value ∉ replacements code lock := by
  intro member
  unfold replacements at member
  split at member
  · cases member
  · split at member
    · split at member <;> simp at member
    · rw [List.mem_append] at member
      rcases member with member | member <;> split at member <;> simp at member
    · cases member

/-- A value is reported only if the body does not contain it. -/
theorem contains_eq_false_of_missingValue {label : String} {values : List (String × String)}
    {locks : List Lock} {context : List String}
    (member : .missingValue label value ∈
      (verdict instruction code values locks context).deviations) :
    Text.contains (body instruction code) value = false := by
  have checked {known : List (String × String)}
      (member : .missingValue label value ∈ (check instruction code known context).deviations) :
      Text.contains (body instruction code) value = false :=
    (missingValue_mem_missing_iff.mp
      ((List.mem_append.mp member).resolve_right (missingValue_notMem_additions _ label))).2
  rw [verdict] at member
  split at member
  · exact checked member
  · rcases List.mem_append.mp member with byValues | byLocks
    · exact checked byValues
    · rcases List.mem_append.mp byLocks with byLock | replaced
      · exact checked byLock
      · obtain ⟨lock, -, found⟩ := List.mem_flatMap.mp replaced
        exact absurd found (missingValue_notMem_replacements lock label)

end Strict

end PlainScript
