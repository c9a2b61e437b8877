/-
Places in a YAML text: the characters of one line are passed over column by column, and a line end
leads to the next line.
-/

import PlainScript.Yaml.Writer

namespace PlainScript.Yaml

/-! Characters -/

/-- A character of ASCII that can be printed. -/
def IsBasic (c : Char) : Prop := 0x20 ≤ c.toNat ∧ c.toNat ≤ 0x7E

instance (c : Char) : Decidable (IsBasic c) := inferInstanceAs (Decidable (_ ∧ _))

namespace IsBasic

variable {c : Char}

theorem ne {d : Char} (basic : IsBasic c) (other : ¬IsBasic d) : c ≠ d :=
  fun same => other (same ▸ basic)

theorem isBreak_eq_false (basic : IsBasic c) : isBreak c = false := by
  simp [isBreak, basic.ne (show ¬IsBasic '\r' by decide), basic.ne (show ¬IsBasic '\n' by decide),
    basic.ne (show ¬IsBasic '\u0085' by decide), basic.ne (show ¬IsBasic '\u2028' by decide),
    basic.ne (show ¬IsBasic '\u2029' by decide)]

theorem isLineMark_eq_false (basic : IsBasic c) : isLineMark c = false := by
  simp [isLineMark, basic.ne (show ¬IsBasic '\n' by decide),
    basic.ne (show ¬IsBasic '\u0085' by decide), basic.ne (show ¬IsBasic '\u2028' by decide),
    basic.ne (show ¬IsBasic '\u2029' by decide)]

theorem isSpecial_eq_false (basic : IsBasic c) : isSpecial c = false := by
  simp [isSpecial, basic.1, basic.2]

/-- The only gap is a space. -/
theorem isGap_eq (basic : IsBasic c) : isGap c = (c == ' ') := by
  simp [isGap, basic.ne (show ¬IsBasic '\t' by decide)]

theorem isAllowed (basic : IsBasic c) : isAllowed c = true := by
  simp [Yaml.isAllowed, basic.1, basic.2]

end IsBasic

theorem isBasic_of_mem_replicate {count : Nat} {c : Char} (member : c ∈ List.replicate count ' ') :
    IsBasic c := by
  rw [List.eq_of_mem_replicate member]
  decide

theorem lineFeed_notMem {chars : List Char} (basic : ∀ c ∈ chars, IsBasic c) : '\n' ∉ chars :=
  fun member => absurd (basic _ member) (by decide)

/-- What may follow spaces: the end of the text, or a character that is no space, begins no comment
and ends no line. -/
def StartsToken (rest : List Char) : Prop :=
  ∀ c ∈ rest.head?, c ≠ ' ' ∧ c ≠ '#' ∧ isBreak c = false

theorem startsToken_nil : StartsToken [] := nofun

theorem startsToken_cons {c : Char} (basic : IsBasic c) (noSpace : c ≠ ' ') (noComment : c ≠ '#')
    (rest : List Char) : StartsToken (c :: rest) := by
  intro d first
  cases first
  exact ⟨noSpace, noComment, basic.isBreak_eq_false⟩

namespace StartsToken

variable {rest : List Char}

theorem noSpace (starts : StartsToken rest) : ∀ c ∈ rest.head?, (c == ' ') = false :=
  fun c first => beq_eq_false_iff_ne.mpr (starts c first).1

theorem noComment (starts : StartsToken rest) : rest.head? ≠ some '#' :=
  fun comment => (starts '#' comment).2.1 rfl

theorem noBreak (starts : StartsToken rest) : rest.head?.any isBreak = false := by
  cases rest with
  | nil => rfl
  | cons c rest => exact (starts c rfl).2.2

end StartsToken

/-! Places -/

/-- The place after a text; in one line only columns are counted. -/
structure Leads (place : Place) (written : List Char) (after : Place) : Prop where
  rest : place.rest = written ++ after.rest
  line : place.line ≤ after.line
  column : '\n' ∉ written → after.line = place.line ∧ after.column = place.column + written.length ∧
    after.offset = place.offset + written.length

namespace Leads

variable {place middle after : Place} {written more rest : List Char}

theorem refl (place : Place) : Leads place [] place :=
  ⟨rfl, Nat.le_refl _, fun _ => ⟨rfl, rfl, rfl⟩⟩

theorem eq_self (leads : Leads place [] after) : after = place := by
  obtain ⟨line, column, offset⟩ := leads.column List.not_mem_nil
  have rest := leads.rest
  cases place
  cases after
  simp_all

theorem trans (first : Leads place written middle) (second : Leads middle more after) :
    Leads place (written ++ more) after := by
  refine ⟨?_, Nat.le_trans first.line second.line, fun oneLine => ?_⟩
  · rw [first.rest, second.rest, List.append_assoc]
  · rw [List.mem_append, not_or] at oneLine
    obtain ⟨line, column, offset⟩ := first.column oneLine.1
    obtain ⟨line', column', offset'⟩ := second.column oneLine.2
    rw [line', column', offset', line, column, offset, List.length_append, Nat.add_assoc,
      Nat.add_assoc]
    exact ⟨rfl, rfl, rfl⟩

theorem rest_eq (leads : Leads place written after) (whole : place.rest = written ++ rest) :
    after.rest = rest :=
  List.append_cancel_left (leads.rest.symm.trans whole)

end Leads

namespace Place

variable {place : Place} {run rest : List Char} {test : Char → Bool}

theorem peek_eq {c : Char} (whole : place.rest = c :: rest) : place.peek = some c := by
  rw [peek, whole, List.head?_cons]

/-- A character of a line takes one column. -/
theorem leads_next {c : Char} (basic : IsBasic c) (whole : place.rest = c :: rest) :
    Leads place [c] place.next ∧ place.next.rest = rest := by
  obtain ⟨line, column, offset, chars⟩ := place
  cases whole
  have next : next ⟨line, column, offset, c :: rest⟩ = ⟨line, column + 1, offset + 1, rest⟩ := by
    simp [next, basic.isBreak_eq_false, basic.ne (show ¬IsBasic '\ufeff' by decide)]
  rw [next]
  exact ⟨⟨rfl, Nat.le_refl _, fun _ => ⟨rfl, rfl, rfl⟩⟩, rfl⟩

theorem leads_skip (basic : ∀ c ∈ run, IsBasic c) (whole : place.rest = run ++ rest) :
    Leads place run (place.skip run.length) := by
  induction run generalizing place with
  | nil => exact .refl place
  | cons c run ih =>
      rw [List.forall_mem_cons] at basic
      obtain ⟨leads, later⟩ := leads_next basic.1 whole
      exact leads.trans (ih basic.2 later)

/-- What passes a test is a run in front of a character that does not. -/
theorem span_eq (basic : ∀ c ∈ run, IsBasic c) (whole : place.rest = run ++ rest)
    (passes : ∀ c ∈ run, test c = true) (ends : ∀ c ∈ rest.head?, test c = false) :
    ∃ after, Leads place run after ∧ after.rest = rest ∧ place.span test = (run, after) := by
  have all : place.rest.takeWhile test = run := by
    rw [whole, List.takeWhile_append_of_pos passes]
    cases rest with
    | nil => rw [List.takeWhile_nil, List.append_nil]
    | cons c rest =>
        rw [List.takeWhile_cons_of_neg (by simp [ends c rfl]), List.append_nil]
  have leads := leads_skip basic whole
  refine ⟨_, leads, leads.rest_eq whole, ?_⟩
  unfold span
  rw [all]

/-- No run at all. -/
theorem span_eq_nil (whole : place.rest = rest) (ends : ∀ c ∈ rest.head?, test c = false) :
    place.span test = ([], place) := by
  unfold span
  have none : place.rest.takeWhile test = [] := by
    rw [whole]
    cases rest with
    | nil => exact List.takeWhile_nil
    | cons c rest => exact List.takeWhile_cons_of_neg (by simp [ends c rfl])
  rw [none]
  rfl

/-- A line end leads to the start of the next line. -/
theorem lineBreak_eq (whole : place.rest = '\n' :: rest) :
    place.lineBreak = (['\n'], ⟨place.line + 1, 0, place.offset + 1, rest⟩) := by
  obtain ⟨line, column, offset, chars⟩ := place
  cases whole
  rfl

/-- A line that begins with something else than a dash or a dot separates no documents. -/
theorem atMarker_eq_false {c : Char} (here : place.peek = some c) (noDash : c ≠ '-')
    (noDot : c ≠ '.') : place.atMarker = false := by
  obtain ⟨rest, whole⟩ := List.head?_eq_some_iff.mp here
  rw [atMarker, whole]
  simp [noDash, noDot]

/-- Nor does an indented line. -/
theorem atMarker_of_indented {count : Nat} (indented : 0 < count)
    (whole : place.rest = List.replicate count ' ' ++ rest) : place.atMarker = false := by
  obtain ⟨more, rfl⟩ := Nat.exists_eq_add_of_le' indented
  exact atMarker_eq_false (peek_eq whole) (by decide) (by decide)

/-- Spaces in front of a token are passed over. -/
theorem skipComment_eq {count : Nat} (noSpace : ∀ c ∈ rest.head?, (c == ' ') = false)
    (noComment : rest.head? ≠ some '#') (whole : place.rest = List.replicate count ' ' ++ rest) :
    Leads place (List.replicate count ' ') place.skipComment ∧
      place.skipComment.rest = rest := by
  obtain ⟨after, leads, same, spaces⟩ := span_eq (fun _ => isBasic_of_mem_replicate) whole
    (fun c member => beq_iff_eq.mpr (List.eq_of_mem_replicate member)) noSpace
  have skipped : place.skipComment = after := by
    unfold skipComment skipWhile
    rw [spaces]
    simp [peek, same, noComment]
  rw [skipped]
  exact ⟨leads, same⟩

end Place

end PlainScript.Yaml
