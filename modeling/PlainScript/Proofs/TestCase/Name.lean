/-
The characters of derived names and of the class names made of them.
-/

import PlainScript.Proofs.Text.Ascii
import PlainScript.Proofs.Text.Pieces
import PlainScript.TestCase.Basic
import PlainScript.TestCase.Name

namespace PlainScript

/-- The name has only characters that derived names have. -/
def Heading.HasDerivedName (heading : Heading) : Prop :=
  ∀ c ∈ heading.name.toList, Name.isNameChar c = true ∨ c = '_'

instance (heading : Heading) : Decidable heading.HasDerivedName :=
  decidable_of_iff ((heading.name.toList.all fun c => Name.isNameChar c || c == '_') = true)
    (by simp [Heading.HasDerivedName])

namespace Name

theorem toNat_lt_of_isNameChar {c : Char} (name : isNameChar c = true) : c.toNat < 128 :=
  Chars.toNat_lt_of_small name

/-- Either case of a name character is a letter or a digit. -/
theorem isAlphanum_of_isNameChar {c : Char} (name : isNameChar c = true) :
    (∀ d ∈ Text.titleCase c, d.isAlphanum = true) ∧ c.toLower.isAlphanum = true := by
  have all : ∀ code < 128, isNameChar (Char.ofNat code) = true →
      (∀ d ∈ Text.titleCase (Char.ofNat code), d.isAlphanum = true) ∧
        (Char.ofNat code).toLower.isAlphanum = true := by
    decide
  exact Chars.forall_ascii (P := fun c => isNameChar c = true →
    (∀ d ∈ Text.titleCase c, d.isAlphanum = true) ∧ c.toLower.isAlphanum = true) all
    (toNat_lt_of_isNameChar name) name

theorem isAlphanum_capitalize {chars : List Char} (name : ∀ c ∈ chars, isNameChar c = true) :
    ∀ d ∈ Chars.capitalize chars, d.isAlphanum = true := by
  cases chars with
  | nil => simp [Chars.capitalize]
  | cons c chars =>
      rw [List.forall_mem_cons] at name
      intro d member
      rw [Chars.capitalize,
        Chars.lowerFrom_of_ascii fun e inside => toNat_lt_of_isNameChar (name.2 e inside),
        List.mem_append, List.mem_map] at member
      rcases member with first | ⟨e, inside, rfl⟩
      · exact (isAlphanum_of_isNameChar name.1).1 d first
      · exact (isAlphanum_of_isNameChar (name.2 e inside)).2

/-- The parts of a derived name have letters and digits only. -/
theorem isAlphanum_capitalizedParts {chars : List Char}
    (derived : ∀ c ∈ chars, isNameChar c = true ∨ c = '_') :
    ∀ d ∈ capitalizedParts chars, d.isAlphanum = true := by
  intro d member
  obtain ⟨part, inName, inPart⟩ := List.mem_flatMap.mp member
  refine isAlphanum_capitalize (fun c inside => ?_) d inPart
  have unmarked := Chars.mark_eq_false_of_mem_splitAt inName c inside
  exact (derived c ((Chars.infix_of_mem_splitAt inName).subset inside)).resolve_right
    (by simpa using unmarked)

/-- A class name made of a derived name has letters and digits only. -/
theorem isAlphanum_camel {name : String}
    (derived : ∀ c ∈ name.toList, isNameChar c = true ∨ c = '_') :
    ∀ d ∈ (camel name).toList, d.isAlphanum = true := by
  have parts := isAlphanum_capitalizedParts derived
  intro d member
  rw [camel, String.toList_ofList, camelChars] at member
  split at member
  · rcases List.mem_append.mp member with inWord | inParts
    · have word : "Generated".toList.all Char.isAlphanum = true := by
        rw [String.toList_ofList]
        decide
      exact List.all_eq_true.mp word d inWord
    · exact parts d inParts
  · exact parts d member

/-! Letters and digits -/

/-- The case of a character makes no difference to the count, and the letters and digits are those
that a name keeps in lower case. -/
theorem isAlphanum_cases {c : Char} (ascii : c.toNat < 128) :
    (Text.titleCase c).countP Char.isAlphanum = [c].countP Char.isAlphanum ∧
      c.toLower.isAlphanum = c.isAlphanum ∧
      (c.toLower.isAlphanum && !Text.isBlank c.toLower &&
        (isNameChar c.toLower || Text.isBlank c.toLower)) = c.isAlphanum := by
  refine Chars.forall_ascii (P := fun c => (Text.titleCase c).countP Char.isAlphanum =
    [c].countP Char.isAlphanum ∧ c.toLower.isAlphanum = c.isAlphanum ∧
    (c.toLower.isAlphanum && !Text.isBlank c.toLower &&
      (isNameChar c.toLower || Text.isBlank c.toLower)) = c.isAlphanum) ?_ ascii
  decide

/-- A derived name has no fewer letters and digits than the description. -/
theorem countP_deriveChars {chars : List Char} (ascii : ∀ c ∈ chars, c.toNat < 128) :
    chars.countP Char.isAlphanum ≤ (deriveChars chars).countP Char.isAlphanum := by
  have count : (Chars.words ((Chars.lower chars).filter fun c =>
      isNameChar c || Text.isBlank c)).flatten.countP Char.isAlphanum =
      chars.countP Char.isAlphanum := by
    rw [Chars.flatten_words, Chars.lower, Chars.lowerFrom_of_ascii ascii, List.countP_filter,
      List.countP_filter, List.countP_map]
    refine List.countP_congr fun c member => ?_
    rw [Function.comp_apply, (isAlphanum_cases (ascii c member)).2.2]
  rw [deriveChars, ← count]
  generalize Chars.words _ = words
  cases words with
  | nil => exact Nat.zero_le _
  | cons word words => rw [Chars.countP_intercalate (by decide)]

/-- What a derived name is made of, whatever it is derived from: words of name characters with one
underscore between them. -/
theorem exists_runs_deriveChars (chars : List Char) :
    ∃ runs : List (List Char), runs ≠ [] ∧
      (∀ run ∈ runs, run ≠ [] ∧ ∀ c ∈ run, isNameChar c = true) ∧
      deriveChars chars = ['_'].intercalate runs := by
  rw [deriveChars]
  split
  · refine ⟨[['u', 'n', 't', 'i', 't', 'l', 'e', 'd'], ['t', 'e', 's', 't']], by simp, by decide, ?_⟩
    rw [String.toList_ofList]
    rfl
  · rename_i nonempty
    refine ⟨_, nonempty, fun run inWords => ?_, rfl⟩
    obtain ⟨piece, filled⟩ := List.mem_filter.mp inWords
    refine ⟨by simpa using filled, fun c inRun => ?_⟩
    have unblank := Chars.mark_eq_false_of_mem_splitAt piece c inRun
    obtain ⟨-, kept⟩ := List.mem_filter.mp ((Chars.infix_of_mem_words inWords).subset inRun)
    rwa [unblank, Bool.or_false] at kept

/-- The characters of a derived name. -/
theorem isNameChar_of_mem_deriveChars {chars : List Char} :
    ∀ c ∈ deriveChars chars, isNameChar c = true ∨ c = '_' := by
  obtain ⟨runs, -, plain, whole⟩ := exists_runs_deriveChars chars
  rw [whole]
  exact Chars.forall_mem_intercalate (by simp) fun run member c inside =>
    .inl ((plain run member).2 c inside)

theorem countP_capitalize {chars : List Char} (ascii : ∀ c ∈ chars, c.toNat < 128) :
    (Chars.capitalize chars).countP Char.isAlphanum = chars.countP Char.isAlphanum := by
  cases chars with
  | nil => rfl
  | cons c chars =>
      rw [List.forall_mem_cons] at ascii
      have rest : chars.countP (Char.isAlphanum ∘ Char.toLower) = chars.countP Char.isAlphanum :=
        List.countP_congr fun d member => by
          rw [Function.comp_apply, (isAlphanum_cases (ascii.2 d member)).2.1]
      rw [Chars.capitalize, Chars.lowerFrom_of_ascii ascii.2, List.countP_append, List.countP_map,
        (isAlphanum_cases ascii.1).1, rest, ← List.countP_append, List.singleton_append]

/-- A class name has no fewer letters and digits than the name that it is made of. -/
theorem countP_camelChars {chars : List Char} (ascii : ∀ c ∈ chars, c.toNat < 128) :
    chars.countP Char.isAlphanum ≤ (camelChars chars).countP Char.isAlphanum := by
  have each : ∀ part ∈ Chars.splitAt (· == '_') chars,
      (Chars.capitalize part).countP Char.isAlphanum = part.countP Char.isAlphanum :=
    fun part member => countP_capitalize fun c inside =>
      ascii c ((Chars.infix_of_mem_splitAt member).subset inside)
  have parts : (capitalizedParts chars).countP Char.isAlphanum = chars.countP Char.isAlphanum := by
    have sums : (Chars.splitAt (· == '_') chars).map (List.countP Char.isAlphanum ∘
        Chars.capitalize) = (Chars.splitAt (· == '_') chars).map (List.countP Char.isAlphanum) :=
      List.map_congr_left each
    rw [capitalizedParts, List.countP_flatMap, sums, ← List.countP_flatten,
      Chars.flatten_splitAt, List.countP_filter]
    refine List.countP_congr fun c _ => ?_
    by_cases joint : c = '_'
    · subst joint
      decide
    · simp [joint]
  rw [camelChars]
  split
  · rw [List.countP_append, parts]
    exact Nat.le_add_left _ _
  · rw [parts]

end Name

end PlainScript
