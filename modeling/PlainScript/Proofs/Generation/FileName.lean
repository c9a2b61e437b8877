/-
The files that code is saved in: each is called after the test, which is called after the
instruction without its annotations, and so it can be an entry of any directory.
-/

import PlainScript.Proofs.File.Place
import PlainScript.Proofs.Generation.Soundness
import PlainScript.Proofs.TestCase.Identifier

namespace PlainScript

namespace File

/-- Letters, digits, underscores and dots. -/
def isPlainChar (c : Char) : Bool := c.isAlphanum || c == '_' || c == '.'

/-- A name with a letter or a digit in front and no other characters than plain ones. -/
def IsPlain (name : String) : Prop :=
  ∃ first rest, name.toList = first :: rest ∧ first.isAlphanum = true ∧
    ∀ c ∈ rest, isPlainChar c = true

theorem isPlainChar_of_isAlphanum_or_eq {c : Char} (plain : c.isAlphanum = true ∨ c = '_') :
    isPlainChar c = true := by
  rcases plain with plain | rfl
  · rw [isPlainChar, plain]
    rfl
  · rfl

/-- What stands in a plain name may stand behind it. -/
theorem IsPlain.append {front back : String} (plain : IsPlain front)
    (follow : ∀ c ∈ back.toList, isPlainChar c = true) : IsPlain (front ++ back) := by
  obtain ⟨first, rest, whole, leads, inFront⟩ := plain
  refine ⟨first, rest ++ back.toList, by rw [String.toList_append, whole, List.cons_append],
    leads, ?_⟩
  rw [List.forall_mem_append]
  exact ⟨inFront, follow⟩

/-- A plain name is the name of an entry: it has no slash, and the names that lead nowhere or back
begin with a dot. -/
theorem IsPlain.isName {name : String} (plain : IsPlain name) : IsName name := by
  obtain ⟨first, rest, whole, leads, follow⟩ := plain
  have other {c : Char} (unplain : c.isAlphanum = false) : c ≠ first := by
    rintro rfl
    rw [leads] at unplain
    cases unplain
  have named : name ≠ "" := by
    rintro rfl
    cases whole
  have undotted : ∀ rest, name ≠ .ofList ('.' :: rest) := by
    rintro dots rfl
    rw [String.toList_ofList] at whole
    exact other (by decide) (List.cons.inj whole).1
  refine ⟨⟨?_, ?_⟩, undotted ['.']⟩
  · rw [isStep, Bool.and_eq_true]
    exact ⟨by simpa using named, by simpa using undotted []⟩
  · rw [whole, List.mem_cons, not_or]
    exact ⟨other (by decide), fun inside => absurd (follow _ inside) (by decide)⟩

end File

namespace Generation

/-- A test that is called by a derived name is saved under a plain name. -/
theorem isPlain_fileName {generation : Generation} (snake : Name.IsSnake generation.testName) :
    File.IsPlain generation.fileName := by
  have stem : ∀ c ∈ generation.testName.toList, File.isPlainChar c = true := fun c member =>
    File.isPlainChar_of_isAlphanum_or_eq (snake.isAlphanum_or_eq c member)
  have named : File.IsPlain generation.testName := by
    obtain ⟨first, rest, -, whole, -, inName⟩ := snake.exists_head
    rw [whole, List.forall_mem_cons] at stem
    exact ⟨first, rest, whole, (Name.isNameChar_cases inName).1, stem.2⟩
  have tested : File.IsPlain ("test_" ++ generation.testName) :=
    File.IsPlain.append ⟨'t', ['e', 's', 't', '_'], rfl, rfl, by decide⟩ stem
  have joined : File.IsPlain (Name.joined generation.testName) := by
    have chars := Name.isAlphanum_capitalizedParts snake.isNameChar_or_eq
    obtain ⟨first, -, rest, -, whole, -⟩ := snake.exists_head
    rw [whole, List.forall_mem_cons] at chars
    refine ⟨_, rest, by rw [Name.joined, String.toList_ofList, whole], chars.1, ?_⟩
    exact fun c member => File.isPlainChar_of_isAlphanum_or_eq (.inl (chars.2 c member))
  unfold fileName
  dsimp only
  split
  · exact named.append (by decide)
  · exact tested.append (by decide)
  · exact tested.append (by decide)
  · exact joined.append (by decide)
  · rename_i dialect _ _ _ _
    refine named.append ?_
    cases dialect <;> decide

/-- And so the name is that of an entry of a directory. -/
theorem isName_fileName {generation : Generation} {description : String}
    (derived : generation.testName = Name.derive description) :
    File.IsName generation.fileName :=
  (isPlain_fileName (derived ▸ Name.isSnake_derive description)).isName

/-- What is called after a text has a name that can be used as it is, whatever the text: the name
is one in small letters, the class name made of it one in capitals, and the names of the function,
of the class and of the file that are made of them are identifiers and a plain name. -/
theorem names_of_derive (text : String) :
    Name.IsSnake (Name.derive text) ∧ Name.IsCamel (Name.camel (Name.derive text)) ∧
      Name.IsIdentifier ("test_" ++ Name.derive text) ∧
      (∀ heading : Heading, heading.name = Name.derive text →
        Name.IsIdentifier (Dialect.className heading)) ∧
      ∀ generation : Generation, generation.testName = Name.derive text →
        File.IsPlain generation.fileName := by
  have snake := Name.isSnake_derive text
  refine ⟨snake, snake.isCamel_camel, snake.isIdentifier_test, ?_, ?_⟩
  · intro heading named
    rw [Dialect.className, named]
    exact snake.isIdentifier_class
  · intro generation named
    exact isPlain_fileName (named ▸ snake)

/-- A test with a digit in front of its name. -/
def numbered : Generation where
  framework := "selenium"
  language := "java"
  case? := some { heading := ⟨"404_sayfa_istanbul", "", none, []⟩, steps := [] }

/-- Punctuation is left out, and a capital that is two characters in lower case is one again. -/
theorem names_of_derive_numbered :
    numbered.testName = Name.derive "404: Sayfa — İstanbul!" ∧
      Name.IsIdentifier (Dialect.className ⟨"404_sayfa_istanbul", "", none, []⟩) ∧
      File.IsPlain numbered.fileName := by
  have named : numbered.testName = Name.derive "404: Sayfa — İstanbul!" := by decide +kernel
  exact ⟨named, (names_of_derive _).2.2.2.1 _ named, (names_of_derive _).2.2.2.2 _ named⟩

end Generation

namespace Generator

variable {generator : Generator} {text baseUrl : String} {options : RenderOptions}
  {generation : Generation}

/-- A test is called after its instruction, unless there is none. -/
theorem testName_of_generate (done : generator.generate text baseUrl options = .ok generation)
    (clean : generation.problems = []) :
    generation.testName = Name.derive (Lock.strip (generator.substitute text)) := by
  rcases generate_cases done with ⟨-, found, rfl⟩ | ⟨-, case, resolved, finished⟩
  · exact absurd clean found
  · obtain ⟨_, _, _, rfl⟩ := exists_eq_of_finish finished
    unfold Resolver.resolve at resolved
    obtain ⟨steps, -, resolved⟩ := Except.exists_of_bind_eq_ok resolved
    obtain ⟨refined, -, resolved⟩ := Except.exists_of_bind_eq_ok resolved
    obtain rfl := Except.ok.inj resolved
    rfl

end Generator

end PlainScript
