/-
The names of a plain login. They begin with the verb of the instruction, and they have no fewer
letters and digits than the instruction, which has more of them than either value.
-/

import PlainScript.Proofs.Instruction.Login
import PlainScript.Proofs.TestCase.Name

namespace PlainScript.PlainLogin

variable (login : PlainLogin)

/-- The name of the test. -/
def name : String := Name.derive login.text

/-- The name of the class that holds the test, without its ending. -/
def className : String := Name.camel login.name

/-! The instruction by its words -/

/-- The words of the instruction. -/
def words : List (List Char) :=
  [['l', 'o', 'g', 'i', 'n'], ['w', 'i', 't', 'h'], usernameWord, login.user, andWord,
    passwordWord, login.secret]

theorem toList_text_eq_intercalate : login.text.toList = [' '].intercalate login.words := by
  rw [toList_text]
  simp [words, verb, tail]

theorem words_text : Chars.words login.text.toList = login.words := by
  rw [toList_text_eq_intercalate]
  have fixed : ∀ word ∈ [['l', 'o', 'g', 'i', 'n'], ['w', 'i', 't', 'h'], usernameWord, andWord,
      passwordWord], word ≠ [] ∧ ∀ c ∈ word, Text.isBlank c = false := by
    decide
  have user (c : Char) (member : c ∈ login.user) : Text.isBlank c = false :=
    (holds_of_mem_alphabet.2.2 c (mem_secretAlphabet_of_mem_user member)).2
  have secret (c : Char) (member : c ∈ login.secret) : Text.isBlank c = false :=
    (holds_of_mem_alphabet.2.2 c (login.mem_of_mem_secret c member)).2
  simp only [List.forall_mem_cons] at fixed
  refine Chars.words_intercalate ?_ ?_ <;> simp only [words, List.forall_mem_cons]
  · exact ⟨fixed.1.1, fixed.2.1.1, fixed.2.2.1.1, login.user_ne, fixed.2.2.2.1.1,
      fixed.2.2.2.2.1.1, login.secret_ne, by simp⟩
  · exact ⟨fixed.1.2, fixed.2.1.2, fixed.2.2.1.2, user, fixed.2.2.2.1.2, fixed.2.2.2.2.1.2,
      secret, by simp⟩

/-- The instruction stands on one line. -/
theorem oneLine_text : Text.oneLine login.text = login.text := by
  rw [← String.toList_inj, Text.toList_oneLine, words_text, toList_text_eq_intercalate]

theorem ascii_text : ∀ c ∈ login.text.toList, c.toNat < 128 := by
  have all : ∀ c ∈ ' ' :: secretAlphabet, c.toNat < 128 := by decide
  exact fun c member => all c (login.mem_of_mem_text c member)

/-! The derived names -/

/-- The name begins with the verb. -/
theorem exists_name_eq : ∃ rest, login.name.toList = ['l', 'o', 'g', 'i', 'n'] ++ '_' :: rest := by
  obtain ⟨rest, text⟩ : ∃ rest, login.text.toList =
      ['l', 'o', 'g', 'i', 'n'] ++ ' ' :: (['w', 'i', 't', 'h'] ++ ' ' :: rest) :=
    ⟨_, login.toList_text⟩
  have kept : (Chars.lower login.text.toList).filter (fun c =>
      Name.isNameChar c || Text.isBlank c) = ['l', 'o', 'g', 'i', 'n'] ++ ' ' ::
        (['w', 'i', 't', 'h'] ++ ' ' :: (rest.map Char.toLower).filter fun c =>
          Name.isNameChar c || Text.isBlank c) := by
    rw [Chars.lower, Chars.lowerFrom_of_ascii login.ascii_text, text]
    rfl
  rw [name, Name.derive, String.toList_ofList, Name.deriveChars, kept,
    Chars.words_append_cons (by decide) (by decide) (by decide),
    Chars.words_append_cons (by decide) (by decide) (by decide)]
  exact ⟨_, List.intercalate_cons_cons.trans (List.append_assoc _ _ _)⟩

theorem derived_name : ∀ c ∈ login.name.toList, Name.isNameChar c = true ∨ c = '_' := by
  rw [name, Name.derive, String.toList_ofList]
  exact Name.isNameChar_of_mem_deriveChars

/-- The name of the class begins with the verb in capitals. -/
theorem exists_className_eq :
    ∃ rest, login.className.toList = ['L', 'o', 'g', 'i', 'n'] ++ rest := by
  obtain ⟨rest, name⟩ := login.exists_name_eq
  have parts : Name.capitalizedParts login.name.toList =
      ['L', 'o', 'g', 'i', 'n'] ++ Name.capitalizedParts rest := by
    rw [name, Name.capitalizedParts, Chars.splitAt_append_cons (by decide) (by decide),
      List.flatMap_cons]
    rfl
  refine ⟨Name.capitalizedParts rest, ?_⟩
  rw [className, Name.camel, String.toList_ofList, Name.camelChars, parts, if_neg]
  have letter : Text.isDigitLike 'L' = false := by decide
  simp [Name.startsWithDigit, letter]

theorem isAlphanum_className : ∀ c ∈ login.className.toList, c.isAlphanum = true :=
  Name.isAlphanum_camel login.derived_name

/-! Letters and digits -/

/-- The instruction has more letters and digits than the values together. -/
theorem countP_values_lt : login.user.countP Char.isAlphanum +
    login.secret.countP Char.isAlphanum < login.text.toList.countP Char.isAlphanum := by
  have words : 0 < verb.countP Char.isAlphanum := by decide
  rw [toList_text]
  simp only [tail, List.countP_append, List.countP_cons]
  omega

theorem countP_text_le_name :
    login.text.toList.countP Char.isAlphanum ≤ login.name.toList.countP Char.isAlphanum := by
  rw [name, Name.derive, String.toList_ofList]
  exact Name.countP_deriveChars login.ascii_text

theorem countP_name_le_className : login.name.toList.countP Char.isAlphanum ≤
    login.className.toList.countP Char.isAlphanum := by
  rw [className, Name.camel, String.toList_ofList]
  refine Name.countP_camelChars fun c member => ?_
  rcases login.derived_name c member with name | rfl
  · exact Name.toNat_lt_of_isNameChar name
  · decide

end PlainScript.PlainLogin
