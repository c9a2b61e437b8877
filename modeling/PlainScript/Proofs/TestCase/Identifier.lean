/-
Names that code can use as they are: a derived name is one in small letters, the class name made
of it is one in capitals, and with the words around them both are identifiers.
-/

import PlainScript.Proofs.TestCase.Name

namespace PlainScript

namespace Name

/-- Words of small letters and digits with one underscore between them. -/
def IsSnake (name : String) : Prop :=
  ∃ runs : List (List Char), runs ≠ [] ∧
    (∀ run ∈ runs, run ≠ [] ∧ ∀ c ∈ run, isNameChar c = true) ∧
    name.toList = ['_'].intercalate runs

/-- A capital with letters and digits behind it. -/
def IsCamel (name : String) : Prop :=
  ∃ first rest, name.toList = first :: rest ∧ first.isUpper = true ∧
    ∀ c ∈ rest, c.isAlphanum = true

/-- A letter or an underscore with letters, digits and underscores behind it. -/
def IsIdentifier (name : String) : Prop :=
  ∃ first rest, name.toList = first :: rest ∧ (first.isAlpha = true ∨ first = '_') ∧
    ∀ c ∈ rest, c.isAlphanum = true ∨ c = '_'

/-- What stands in an identifier may stand behind it. -/
theorem IsIdentifier.append {front back : String} (identifier : IsIdentifier front)
    (plain : ∀ c ∈ back.toList, c.isAlphanum = true ∨ c = '_') : IsIdentifier (front ++ back) := by
  obtain ⟨first, rest, whole, leads, follow⟩ := identifier
  refine ⟨first, rest ++ back.toList, by rw [String.toList_append, whole, List.cons_append],
    leads, ?_⟩
  rw [List.forall_mem_append]
  exact ⟨follow, plain⟩

/-- An identifier is one word. -/
theorem IsIdentifier.isBlank_eq_false {name : String} (identifier : IsIdentifier name) :
    ∀ c ∈ name.toList, Text.isBlank c = false := by
  have blanks : ∀ code ∈ Text.blankCodes, ((Char.ofNat code).isAlphanum = false) ∧
      Char.ofNat code ≠ '_' := by
    decide
  have chars : ∀ c ∈ name.toList, c.isAlphanum = true ∨ c = '_' := by
    obtain ⟨first, rest, whole, leads, follow⟩ := identifier
    rw [whole, List.forall_mem_cons]
    exact ⟨leads.imp_left fun letter => by rw [Char.isAlphanum, letter, Bool.true_or], follow⟩
  intro c member
  rw [← Bool.not_eq_true]
  intro blank
  have none := blanks c.toNat (Text.toNat_mem_blankCodes blank)
  rw [Char.ofNat_toNat] at none
  rcases chars c member with plain | joint
  · rw [none.1] at plain
    cases plain
  · exact none.2 joint

theorem IsCamel.isIdentifier {name : String} (camel : IsCamel name) : IsIdentifier name := by
  obtain ⟨first, rest, whole, capital, follow⟩ := camel
  have letter : first.isAlpha = true := Bool.or_eq_true_iff.mpr (.inl capital)
  exact ⟨first, rest, whole, .inl letter, fun c member => .inl (follow c member)⟩

/-- What becomes of a name character in capitals: a digit stays one, and a letter is a capital. -/
theorem isNameChar_cases {c : Char} (name : isNameChar c = true) :
    c.isAlphanum = true ∧ Text.titleCase c = [c.toUpper] ∧
      Text.isDigitLike c.toUpper = Text.isDigitLike c ∧
      c.toUpper.isUpper = !Text.isDigitLike c := by
  refine Chars.forall_ascii (P := fun c => isNameChar c = true → c.isAlphanum = true ∧
    Text.titleCase c = [c.toUpper] ∧ Text.isDigitLike c.toUpper = Text.isDigitLike c ∧
    c.toUpper.isUpper = !Text.isDigitLike c) ?_ (toNat_lt_of_isNameChar name) name
  decide

/-! Derived names -/

theorem isSnake_derive (description : String) : IsSnake (derive description) := by
  rw [IsSnake, derive, String.toList_ofList]
  exact exists_runs_deriveChars _

namespace IsSnake

variable {name : String} (snake : IsSnake name)

include snake

theorem isNameChar_or_eq : ∀ c ∈ name.toList, isNameChar c = true ∨ c = '_' := by
  obtain ⟨runs, -, plain, whole⟩ := snake
  rw [whole]
  exact Chars.forall_mem_intercalate (by simp) fun run member c inside =>
    .inl ((plain run member).2 c inside)

theorem isAlphanum_or_eq : ∀ c ∈ name.toList, c.isAlphanum = true ∨ c = '_' := fun c member =>
  (snake.isNameChar_or_eq c member).imp (fun name => (isNameChar_cases name).1) id

/-- A name begins with a character of a word, and the words run together begin with that character
in capitals. -/
theorem exists_head : ∃ first rest joined, name.toList = first :: rest ∧
    capitalizedParts name.toList = first.toUpper :: joined ∧ isNameChar first = true := by
  obtain ⟨runs, nonempty, plain, whole⟩ := snake
  have parts : Chars.splitAt (· == '_') name.toList = runs := by
    rw [whole]
    refine Chars.splitAt_intercalate (by decide) nonempty fun run member c inside => ?_
    rw [beq_eq_false_iff_ne]
    rintro rfl
    exact absurd ((plain run member).2 _ inside) (by decide)
  obtain ⟨run, runs, rfl⟩ := List.exists_cons_of_ne_nil nonempty
  obtain ⟨filled, chars⟩ := plain run List.mem_cons_self
  obtain ⟨first, run, rfl⟩ := List.exists_cons_of_ne_nil filled
  obtain ⟨rest, begins⟩ := Chars.prefix_intercalate_cons ['_'] (first :: run) runs
  have inName := chars first List.mem_cons_self
  refine ⟨first, run ++ rest, Chars.lowerFrom [first] run ++ runs.flatMap Chars.capitalize,
    whole.trans begins.symm, ?_, inName⟩
  rw [capitalizedParts, parts, List.flatMap_cons, Chars.capitalize, (isNameChar_cases inName).2.1]
  rfl

/-- A class name is the words run together, behind a word of its own if there is a digit in
front. -/
theorem camel_eq : camel name =
    if startsWithDigit name.toList = true then "Generated" ++ joined name else joined name := by
  obtain ⟨first, rest, behind, whole, parts, inName⟩ := snake.exists_head
  rw [camel, camelChars, joined, parts, whole, startsWithDigit, startsWithDigit,
    (isNameChar_cases inName).2.2.1, List.isEmpty_cons, Bool.false_or]
  split
  · rw [String.ofList_append, String.ofList_toList]
  · rfl

/-- The class name made of a name is one in capitals. -/
theorem isCamel_camel : IsCamel (camel name) := by
  have begins : ∃ first rest, (camel name).toList = first :: rest ∧ first.isUpper = true := by
    obtain ⟨first, rest, behind, whole, parts, inName⟩ := snake.exists_head
    rw [snake.camel_eq, whole, startsWithDigit]
    cases digit : Text.isDigitLike first with
    | false =>
        refine ⟨first.toUpper, behind, ?_, by rw [(isNameChar_cases inName).2.2.2, digit]; rfl⟩
        rw [if_neg Bool.false_ne_true, joined, String.toList_ofList, parts]
    | true =>
        rw [if_pos rfl, String.toList_append]
        exact ⟨'G', _, rfl, rfl⟩
  obtain ⟨first, rest, whole, capital⟩ := begins
  have follow := isAlphanum_camel snake.isNameChar_or_eq
  rw [whole] at follow
  exact ⟨first, rest, whole, capital, fun c member => follow c (List.mem_cons_of_mem _ member)⟩

/-- A name with a word and an underscore in front is an identifier. -/
theorem isIdentifier_test : IsIdentifier ("test_" ++ name) :=
  IsIdentifier.append ⟨'t', ['e', 's', 't', '_'], rfl, .inl rfl, by decide⟩ snake.isAlphanum_or_eq

/-- The name of the class with a test is an identifier. -/
theorem isIdentifier_class : IsIdentifier (camel name ++ "Test") :=
  snake.isCamel_camel.isIdentifier.append (by decide)

end IsSnake

end Name

end PlainScript
