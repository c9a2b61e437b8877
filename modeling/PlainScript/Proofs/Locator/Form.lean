/-
The forms of Playwright selectors that are not CSS, and the locators that they name. Reading a
selector follows the forms: a trimmed selector with a form is read as what it names, and any other
is CSS.
-/

import PlainScript.Locator.Parser
import PlainScript.Proofs.Literal.Spelling

namespace PlainScript.Locator

open Literal

/-- A selector has a form of its own and names a locator in it. -/
inductive Form : (selector : String) → Locator → Prop
  | role {ariaRole inside name : String} (given : ariaRole ≠ "")
      (word : ∀ c ∈ ariaRole.toList, Text.isWord c = true) (nonempty : inside ≠ "")
      (spelled : Spells cssSpelling inside.toList name.toList) :
      Form ("role=" ++ ariaRole ++ "[name=\"" ++ inside ++ "\"]") (.role ariaRole name)
  | label {inside value : String} (nonempty : inside ≠ "")
      (spelled : Spells cssSpelling inside.toList value.toList) :
      Form ("label:has-text(\"" ++ inside ++ "\")") (.label value)
  | id {value : String} (nonempty : value ≠ "")
      (word : ∀ c ∈ value.toList, Text.isWord c = true ∨ c = '-') :
      Form ("#" ++ value) (.id value)
  | text (value : String) : Form ("text=" ++ value) (.text value)
  | xpath (value : String) : Form ("xpath=" ++ value) (.xpath value)
  | path (value : String) : Form ("//" ++ value) (.xpath ("//" ++ value))

/-! Readers of the forms -/

variable {start selector : String} {chars rest tail : List Char} {locator : Locator}

theorem dropStart?_eq_some_iff :
    dropStart? start chars = some rest ↔ chars = start.toList ++ rest := by
  rw [dropStart?]
  split_ifs with begins
  · obtain ⟨back, rfl⟩ := List.isPrefixOf_iff_prefix.mp begins
    rw [List.drop_left, Option.some_inj, List.append_cancel_left_eq]
  · simp only [false_iff]
    rintro rfl
    exact begins (List.isPrefixOf_iff_prefix.mpr (List.prefix_append _ _))

/-- A selector with another first character does not begin so. -/
theorem dropStart?_eq_none {c d : Char} {later : List Char} (first : start.toList.head? = some c)
    (other : d ≠ c) : dropStart? start (d :: later) = none := by
  rw [Option.eq_none_iff_forall_ne_some]
  intro rest found
  have same := congrArg List.head? (dropStart?_eq_some_iff.mp found)
  rw [List.head?_append, first] at same
  exact other (Option.some.inj same)

theorem readString?_eq_some_iff {value : String} :
    readString? tail chars = some value ↔
      ∃ inside, chars = '"' :: (inside ++ '"' :: tail) ∧ inside ≠ [] ∧
        Spells cssSpelling inside value.toList := by
  constructor
  · intro found
    unfold readString? at found
    split at found
    · rename_i rest
      split at found
      · rename_i inside after read
        split_ifs at found with refused
        obtain ⟨rfl, meant, spelled⟩ := exists_spells_of_readCss read
        have closed : inside ≠ [] ∧ after = tail := by simpa using refused
        refine ⟨inside, by rw [closed.2], closed.1, ?_⟩
        rw [← Option.some.inj found, String.toList_ofList, unescapeCss_eq spelled]
        exact spelled
      · cases found
    · cases found
  · rintro ⟨inside, rfl, nonempty, spelled⟩
    simp [readString?, readCss_append spelled, nonempty, unescapeCss_eq spelled]

theorem form_of_readRole? (found : readRole? selector.toList = some locator) :
    Form selector locator := by
  obtain ⟨rest, begins, found⟩ := Option.bind_eq_some_iff.mp found
  dsimp only at found
  split_ifs at found with unnamed
  obtain ⟨quoted, opens, found⟩ := Option.bind_eq_some_iff.mp found
  obtain ⟨name, read, named⟩ := Option.bind_eq_some_iff.mp found
  obtain ⟨inside, same, nonempty, spelled⟩ := readString?_eq_some_iff.mp read
  have word : ∀ c ∈ rest.takeWhile Text.isWord, Text.isWord c = true :=
    fun c member => List.mem_takeWhile_imp member
  have parts := rest.takeWhile_append_dropWhile (p := Text.isWord)
  rw [dropStart?_eq_some_iff.mp opens, same] at parts
  generalize rest.takeWhile Text.isWord = ariaRole at unnamed named word parts
  have whole : selector = "role=" ++ .ofList ariaRole ++ "[name=\"" ++ .ofList inside ++ "\"]" := by
    rw [← String.toList_inj, dropStart?_eq_some_iff.mp begins, ← parts]
    simp
  rw [whole, ← Option.some.inj named]
  exact .role (by simpa using unnamed) (by simpa using word) (by simpa using nonempty)
    (by simpa using spelled)

theorem form_of_readLabel? (found : readLabel? selector.toList = some locator) :
    Form selector locator := by
  obtain ⟨quoted, begins, found⟩ := Option.bind_eq_some_iff.mp found
  obtain ⟨value, read, named⟩ := Option.bind_eq_some_iff.mp found
  obtain ⟨inside, rfl, nonempty, spelled⟩ := readString?_eq_some_iff.mp read
  have whole : selector = "label:has-text(\"" ++ .ofList inside ++ "\")" := by
    rw [← String.toList_inj, dropStart?_eq_some_iff.mp begins]
    simp
  rw [whole, ← Option.some.inj named]
  exact .label (by simpa using nonempty) (by simpa using spelled)

theorem form_of_readId? (found : readId? selector.toList = some locator) :
    Form selector locator := by
  unfold readId? at found
  split at found
  · rename_i rest same
    split_ifs at found with named
    have whole : selector = "#" ++ .ofList rest := by
      rw [← String.toList_inj, same]
      simp
    rw [whole, ← Option.some.inj found]
    have known : rest ≠ [] ∧ ∀ c ∈ rest, Text.isWord c = true ∨ c = '-' := by simpa using named
    exact .id (by simpa using known.1) (by simpa using known.2)
  · cases found

theorem form_of_readText? (found : readText? selector.toList = some locator) :
    Form selector locator := by
  obtain ⟨rest, begins, rfl⟩ := Option.map_eq_some_iff.mp found
  have whole : selector = "text=" ++ .ofList rest := by
    rw [← String.toList_inj, dropStart?_eq_some_iff.mp begins]
    simp
  rw [whole]
  exact .text _

theorem form_of_readXPath? (found : readXPath? selector.toList = some locator) :
    Form selector locator := by
  unfold readXPath? at found
  split at found
  · rename_i rest begins
    have whole : selector = "xpath=" ++ .ofList rest := by
      rw [← String.toList_inj, dropStart?_eq_some_iff.mp begins]
      simp
    rw [whole, ← Option.some.inj found]
    exact .xpath _
  · split_ifs at found with begins
    obtain ⟨rest, same⟩ := List.isPrefixOf_iff_prefix.mp begins
    have whole : selector = "//" ++ .ofList rest := by
      rw [← String.toList_inj, ← same]
      simp
    rw [← Option.some.inj found, String.ofList_toList, whole]
    exact .path _

theorem readRole?_eq_some {ariaRole inside : List Char} {name : String} (given : ariaRole ≠ [])
    (word : ∀ c ∈ ariaRole, Text.isWord c = true) (nonempty : inside ≠ [])
    (spelled : Spells cssSpelling inside name.toList) :
    readRole? ("role=".toList ++
      (ariaRole ++ ("[name=".toList ++ '"' :: (inside ++ '"' :: [']'])))) =
      some (.role (some (.ofList ariaRole)) (some name)) := by
  have stop : Text.isWord '[' = false := by decide
  have opening : "[name=".toList = '[' :: ['n', 'a', 'm', 'e', '='] := by simp
  have before : (ariaRole ++ ("[name=".toList ++ '"' :: (inside ++ '"' :: [']']))).takeWhile
      Text.isWord = ariaRole := by
    rw [opening]
    exact Chars.takeWhile_append_cons word stop _
  have after : (ariaRole ++ ("[name=".toList ++ '"' :: (inside ++ '"' :: [']']))).dropWhile
      Text.isWord = "[name=".toList ++ '"' :: (inside ++ '"' :: [']']) := by
    rw [opening]
    exact Chars.dropWhile_append_cons word stop _
  rw [readRole?, dropStart?_eq_some_iff.mpr rfl]
  dsimp only [Option.bind_eq_bind, Option.bind_some]
  rw [before, after, dropStart?_eq_some_iff.mpr rfl, if_neg (by simpa using given)]
  dsimp only [Option.bind_some]
  rw [readString?_eq_some_iff.mpr ⟨inside, rfl, nonempty, spelled⟩]
  rfl

/-! The forms differ in their first character -/

variable {c : Char} {later : List Char}

theorem readRole?_eq_none (other : c ≠ 'r') : readRole? (c :: later) = none := by
  rw [readRole?, dropStart?_eq_none (by simp) other]
  rfl

theorem readLabel?_eq_none (other : c ≠ 'l') : readLabel? (c :: later) = none := by
  rw [readLabel?, dropStart?_eq_none (by simp) other]
  rfl

theorem readId?_eq_none (other : c ≠ '#') : readId? (c :: later) = none := by
  unfold readId?
  split
  · rename_i same
    exact absurd (List.cons.inj same).1 other
  · rfl

theorem readText?_eq_none (other : c ≠ 't') : readText? (c :: later) = none := by
  rw [readText?, dropStart?_eq_none (by simp) other]
  rfl

/-- A selector with a form is read as what it names. -/
theorem parseChars_eq_of_form (form : Form selector locator) :
    parseChars selector.toList = locator := by
  cases form with
  | @role ariaRole inside name given word nonempty spelled =>
      have parts : ("role=" ++ ariaRole ++ "[name=\"" ++ inside ++ "\"]").toList = "role=".toList ++
          (ariaRole.toList ++ ("[name=".toList ++ '"' :: (inside.toList ++ '"' :: [']']))) := by
        simp
      rw [parts, parseChars, readRole?_eq_some (by simpa using given) word (by simpa using nonempty)
        spelled, String.ofList_toList]
      rfl
  | @label inside value nonempty spelled =>
      have parts : ("label:has-text(\"" ++ inside ++ "\")").toList =
          "label:has-text(".toList ++ '"' :: (inside.toList ++ '"' :: [')']) := by
        simp
      have read : readLabel? ("label:has-text(\"" ++ inside ++ "\")").toList =
          some (.label value) := by
        rw [parts, readLabel?, dropStart?_eq_some_iff.mpr rfl]
        dsimp only [Option.bind_eq_bind, Option.bind_some]
        rw [readString?_eq_some_iff.mpr ⟨_, rfl, by simpa using nonempty, spelled⟩]
        rfl
      obtain ⟨later, first⟩ : ∃ later, ("label:has-text(\"" ++ inside ++ "\")").toList =
          'l' :: later := by simp
      rw [parseChars, read, first, readRole?_eq_none (by decide)]
      rfl
  | @id value nonempty word =>
      have first : ("#" ++ value).toList = '#' :: value.toList := by simp
      have known : (!value.toList.isEmpty &&
          value.toList.all fun c => Text.isWord c || c == '-') = true := by
        simpa [nonempty, List.all_eq_true] using word
      have read : readId? ('#' :: value.toList) = some (.id value) := by
        rw [readId?, if_pos known, String.ofList_toList]
      rw [first, parseChars, read, readRole?_eq_none (by decide), readLabel?_eq_none (by decide)]
      rfl
  | text value =>
      have read : readText? ("text=" ++ value).toList = some (.text value) := by
        rw [readText?, dropStart?_eq_some_iff.mpr (String.toList_append ..), Option.map_some,
          String.ofList_toList]
      obtain ⟨later, first⟩ : ∃ later, ("text=" ++ value).toList = 't' :: later := by simp
      rw [parseChars, read, first, readRole?_eq_none (by decide), readLabel?_eq_none (by decide),
        readId?_eq_none (by decide)]
      rfl
  | xpath value =>
      have read : readXPath? ("xpath=" ++ value).toList = some (.xpath value) := by
        rw [readXPath?, dropStart?_eq_some_iff.mpr (String.toList_append ..)]
        dsimp only
        rw [String.ofList_toList]
      obtain ⟨later, first⟩ : ∃ later, ("xpath=" ++ value).toList = 'x' :: later := by simp
      rw [parseChars, read, first, readRole?_eq_none (by decide), readLabel?_eq_none (by decide),
        readId?_eq_none (by decide), readText?_eq_none (by decide)]
      rfl
  | path value =>
      have first : ("//" ++ value).toList = '/' :: '/' :: value.toList := by simp
      have read : readXPath? ('/' :: '/' :: value.toList) = some (.xpath ("//" ++ value)) := by
        rw [readXPath?, dropStart?_eq_none (c := 'x') (by simp) (by decide), ← first,
          String.ofList_toList]
        exact if_pos (by simp)
      rw [first, parseChars, read, readRole?_eq_none (by decide), readLabel?_eq_none (by decide),
        readId?_eq_none (by decide), readText?_eq_none (by decide)]
      rfl

/-- A selector without a form is CSS. -/
theorem parseChars_eq_css (formless : ∀ locator, ¬ Form selector locator) :
    parseChars selector.toList = .css selector := by
  have missed {read : List Char → Option Locator}
      (sound : ∀ {locator}, read selector.toList = some locator → Form selector locator) :
      read selector.toList = none :=
    Option.eq_none_iff_forall_ne_some.mpr fun locator found => formless locator (sound found)
  rw [parseChars, missed form_of_readRole?, missed form_of_readLabel?,
    missed form_of_readId?, missed form_of_readText?, missed form_of_readXPath?,
    String.ofList_toList]
  rfl

theorem parse_eq (selector : String) :
    parse selector = parseChars (Text.trim selector).toList := by
  rw [parse, Text.trim, String.toList_ofList]

/-- A selector is read as what its form names without the blanks around it, or as CSS if it has no
form. -/
theorem parse_eq_iff :
    parse selector = locator ↔ Form (Text.trim selector) locator ∨
      (∀ other, ¬ Form (Text.trim selector) other) ∧ locator = .css (Text.trim selector) := by
  rw [parse_eq]
  constructor
  · rintro rfl
    by_cases formed : ∃ other, Form (Text.trim selector) other
    · obtain ⟨other, form⟩ := formed
      rw [parseChars_eq_of_form form]
      exact .inl form
    · rw [not_exists] at formed
      exact .inr ⟨formed, parseChars_eq_css formed⟩
  · rintro (form | ⟨formless, rfl⟩)
    · exact parseChars_eq_of_form form
    · exact parseChars_eq_css formless

end PlainScript.Locator
