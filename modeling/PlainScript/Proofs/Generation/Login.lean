/-
Strict generation never rejects a plain login: its code holds both values, leaves nothing open and
adds nothing, whatever words the values and the host are made of.
-/

import PlainScript.Proofs.Generation.Success
import PlainScript.Proofs.Render.Login

namespace PlainScript.PlainLogin

open Literal Strict

variable (login : PlainLogin) (site : PlainSite)

/-! Values in the code -/

variable {assertion : Assertion} (listed : assertion ∈ checks)
include listed

/-- The code holds a value in the literal that is filled in. -/
theorem holds_value (dialect : Dialect) {label value : String}
    (kind : label = "Username" ∨ label = "Password")
    (given : value = login.username ∨ value = login.password)
    (inCase : Step.fill (.label label) value ∈ (login.testCase site assertion).steps) :
    Holds login.text (dialect.code dialect.defaults (login.testCase site assertion)
      dialect.defaultTimeout) value := by
  have nonempty : value ≠ "" := by
    rcases given with rfl | rfl
    exacts [login.username_ne, login.password_ne]
  have chars := given.imp (congrArg String.toList) (congrArg String.toList)
  have plain : isPlain value.toList = true := by
    refine isPlain_of_alphabet (login.mem_of_mem_known site value.toList ?_)
    rw [known_eq]
    rcases chars with same | same <;> simp [same]
  have inCode := List.mem_map_of_mem (f := String.toList)
    (dialect.exists_line_mem_lines dialect.defaults dialect.defaultTimeout inCase)
  rw [← login.lines_code site listed] at inCode
  obtain ⟨front, back, mark, same, call, callEnd⟩ :=
    isCallWith_fill dialect (login.testCase site assertion).heading.baseUrl kind nonempty
  simp only [isCall, isCallEnd, Bool.and_eq_true, beq_iff_eq] at call callEnd
  obtain ⟨init, opened⟩ := List.getLast?_eq_some_iff.mp call.1.2
  obtain ⟨rest, closed⟩ := List.head?_eq_some_iff.mp callEnd.2
  rw [same, String.toList_append, String.toList_append, String.toList_ofList] at inCode
  refine ⟨_, inCode, ?_, quoteChars mark value.toList, '(', ')', ⟨init, rest, ?_⟩,
    infix_quoteChars plain mark (List.infix_refl _), fun piece member => ?_⟩
  · rw [List.append_assoc]
    exact isComment_eq_false call.2 _
  · simp [opened, closed]
  · refine ⟨(login.cuts site (by decide)).titles piece member,
      (login.cuts site (by decide)).titles piece member, ?_⟩
    rw [quoteChars_of_isPlain plain]
    exact login.not_infix_quoteChars_value member chars mark

/-- Both values are found. -/
theorem missing_eq_nil (dialect : Dialect) :
    missing (body login.text (dialect.code dialect.defaults (login.testCase site assertion)
      dialect.defaultTimeout)) login.values.toList = [] := by
  refine Strict.missing_eq_nil ?_
  rw [toList_values]
  simp only [List.forall_mem_cons]
  exact ⟨login.holds_value site listed dialect (.inl rfl) (.inl rfl) (by simp [testCase, actions]),
    login.holds_value site listed dialect (.inr rfl) (.inr rfl) (by simp [testCase, actions]),
    by simp⟩

/-- Nothing is added. -/
theorem additions_eq_nil (dialect : Dialect) :
    additions (Masking.mask
      (body login.text (dialect.code dialect.defaults (login.testCase site assertion)
        dialect.defaultTimeout))
      (login.values.toList.map (·.2) ++ [site.address, "/login"])) = [] := by
  refine Strict.additions_eq_nil (login.cuts site (by decide)) ?_
  rw [login.lines_code site listed, List.forall_mem_map]
  exact fun line member => (login.settled_lines site listed dialect line member).quiet

/-! Nothing left open -/

omit listed

/-- A text is unmarked without some character of the word and some character of the tag. -/
theorem isUnmarked_of_notMem {text : String} {c d : Char} (inWord : c ∈ "TODO:".toList)
    (inTag : d ∈ Unresolved.tag.toList) (withoutWord : c ∉ text.toList)
    (withoutTag : d ∉ text.toList) : IsUnmarked text :=
  ⟨fun inside => withoutWord (inside.subset inWord), fun inside => withoutTag (inside.subset inTag)⟩

/-- Neither value holds the tag of what is unresolved. -/
def IsUntagged : Prop :=
  Text.contains login.username Unresolved.tag = false ∧
    Text.contains login.password Unresolved.tag = false

/-- Without colons a text is unmarked if the tag is not in it. -/
theorem isUnmarked_of_alphabet {text : String}
    (alphabet : ∀ c ∈ text.toList, c ∈ ' ' :: secretAlphabet)
    (untagged : ¬ Unresolved.tag.toList <:+: text.toList) : IsUnmarked text := by
  have colon : ':' ∈ "TODO:".toList ∧ ':' ∉ ' ' :: secretAlphabet := by
    simp [secretAlphabet, userAlphabet]
  exact ⟨fun inside => colon.2 (alphabet _ (inside.subset colon.1)), untagged⟩

variable {login}

theorem isUnmarked_values (untagged : login.IsUntagged) :
    IsUnmarked login.username ∧ IsUnmarked login.password := by
  rw [IsUntagged, Text.contains_eq_false_iff, Text.contains_eq_false_iff] at untagged
  exact ⟨isUnmarked_of_alphabet
      (fun c member => List.mem_cons_of_mem _ (mem_secretAlphabet_of_mem_user member)) untagged.1,
    isUnmarked_of_alphabet
      (fun c member => List.mem_cons_of_mem _ (login.mem_of_mem_secret c member)) untagged.2⟩

/-- The tag stands in none of the words of the instruction. -/
theorem isUnmarked_text (untagged : login.IsUntagged) : IsUnmarked login.text := by
  rw [IsUntagged, Text.contains_eq_false_iff, Text.contains_eq_false_iff] at untagged
  have shape : Unresolved.tag.toList ≠ [] ∧ ' ' ∉ Unresolved.tag.toList := by decide
  have fixed : ∀ word ∈ [['l', 'o', 'g', 'i', 'n'], ['w', 'i', 't', 'h'], usernameWord, andWord,
      passwordWord], ¬ Unresolved.tag.toList <:+: word := by
    decide
  refine isUnmarked_of_alphabet login.mem_of_mem_text ?_
  rw [toList_text_eq_intercalate, Chars.infix_intercalate_iff shape.1
    (Chars.guards_singleton shape.1 shape.2)]
  simp only [List.forall_mem_cons] at fixed
  simp only [words, List.mem_cons, List.not_mem_nil, or_false, exists_eq_or_imp, exists_eq_left,
    not_or]
  exact ⟨fixed.1, fixed.2.1, fixed.2.2.1, untagged.1, fixed.2.2.2.1, fixed.2.2.2.2.1, untagged.2⟩

theorem isUnmarked_texts (listed : assertion ∈ checks) (untagged : login.IsUntagged) :
    ∀ text ∈ (login.testCase site assertion).texts, IsUnmarked text := by
  have signs : 'T' ∈ "TODO:".toList ∧ 'U' ∈ Unresolved.tag.toList := by
    simp [Unresolved.tag]
  have name : IsUnmarked login.name := by
    refine isUnmarked_of_notMem signs.1 signs.2 ?_ ?_ <;>
      exact fun member => absurd (login.derived_name _ member) (by decide)
  have address : IsUnmarked site.address := by
    refine isUnmarked_of_notMem signs.1 signs.2 ?_ ?_ <;>
      exact fun member => absurd (site.mem_of_mem_address _ member) (by decide)
  have tags : ∀ tag ∈ Tags.cues.map (·.1), IsUnmarked tag := by
    unfold IsUnmarked
    decide
  have words : ∀ word ∈ ["goto", "/login", "fill", "label", "Username", "Password", "click",
      "button", "Login", "assert"], IsUnmarked word := by
    unfold IsUnmarked
    decide
  have checked : ∀ assertion ∈ checks, ∀ text ∈ assertion.texts, IsUnmarked text := by
    unfold IsUnmarked
    decide
  have values := isUnmarked_values untagged
  simp only [List.forall_mem_cons] at words
  obtain ⟨goto, path, fill, label, username, password, click, button, button', assert, -⟩ := words
  have steps : (login.testCase site assertion).steps.flatMap Step.texts =
      ["goto", "/login", "fill", "label", "Username", login.username, "fill", "label", "Password",
        login.password, "click", "button", "Login", "assert"] ++ assertion.texts := by
    simp [testCase, actions, Step.texts, Step.goto, Step.fill, Step.click, Step.check,
      Locator.label, Locator.texts]
  rw [TestCase.texts, steps, List.forall_mem_append, List.forall_mem_append]
  refine ⟨?_, ?_, checked assertion listed⟩
  · have listedTags : ∀ tag ∈ (login.heading site).tags, IsUnmarked tag :=
      fun tag member => tags tag (login.mem_tags site member)
    rw [testCase]
    rw [heading_eq] at listedTags ⊢
    simp only [Heading.texts, Option.toList_some, List.forall_mem_cons, List.forall_mem_append,
      List.not_mem_nil, IsEmpty.forall_iff, implies_true, and_true]
    exact ⟨name, address, isUnmarked_text untagged, listedTags⟩
  · simp only [List.forall_mem_cons]
    exact ⟨goto, path, fill, label, username, values.1, fill, label, password, values.2, click,
      button, button', assert, by simp⟩

/-- Labels, role and CSS locators have selectors in every framework. -/
theorem not_isLacking (framework : Framework) {locator : Locator}
    (known : locator ∈ [.label "Username", .label "Password",
      .role (some "button") (some "Login"), Resolver.errorLocator, Resolver.successLocator]) :
    ¬ Locator.IsLacking framework (some locator) := by
  have selected : ¬ locator.IsUnresolvable framework := by
    simp only [List.mem_cons, List.not_mem_nil, or_false] at known
    rcases known with rfl | rfl | rfl | rfl | rfl <;>
      simp [Locator.IsUnresolvable, Locator.label, Locator.css, Resolver.errorLocator,
        Resolver.successLocator, filled, LocatorKind.ofName?]
  exact fun lacking => selected (lacking locator rfl)

theorem complete_steps (listed : assertion ∈ checks) (framework : Framework) :
    ∀ step ∈ (login.testCase site assertion).steps, ¬ step.IsIncomplete framework := by
  have steps : (login.testCase site assertion).steps = [.goto "/login",
      .fill (.label "Username") login.username, .fill (.label "Password") login.password,
      .click (.role (some "button") (some "Login")), .check assertion] := rfl
  have fills (label value : String) (given : filled (some value) = some value)
      (known : ¬ Locator.IsLacking framework (some (.label label))) :
      ¬ (Step.fill (.label label) value).IsIncomplete framework := by
    simp [Step.IsIncomplete, Step.fill, Step.kind?, Action.ofName?, known, given]
  have checked : ¬ assertion.IsIncomplete framework := by
    have visible (locator : Locator) (found : ¬ Locator.IsLacking framework (some locator)) :
        ¬ (Resolver.isVisible locator).IsIncomplete framework := by
      have kind : (Resolver.isVisible locator).kind? = some (.element .visible) := rfl
      rw [Assertion.IsIncomplete, kind]
      simpa [ElementCheck.needsValue, Resolver.isVisible] using found
    simp only [checks, List.mem_cons, List.not_mem_nil, or_false] at listed
    rcases listed with rfl | rfl | rfl
    · have kind : (Resolver.urlContains "/dashboard").kind? = some .urlContains := by decide
      rw [Assertion.IsIncomplete, kind]
      simp [Resolver.urlContains, filled]
    · exact visible _ (not_isLacking framework (by simp))
    · exact visible _ (not_isLacking framework (by simp))
  simp only [steps, List.forall_mem_cons]
  refine ⟨?_, fills _ _ login.filled_username (not_isLacking framework (by simp)),
    fills _ _ login.filled_password (not_isLacking framework (by simp)), ?_, ?_, by simp⟩
  · simp [Step.IsIncomplete, Step.goto, Step.kind?, Action.ofName?, filled]
  · exact not_isLacking framework (by simp)
  · exact fun incomplete => checked (incomplete assertion rfl)

theorem gaps_eq_nil (listed : assertion ∈ checks) (untagged : login.IsUntagged)
    (dialect : Dialect) :
    gaps (dialect.code dialect.defaults (login.testCase site assertion)
      dialect.defaultTimeout) = [] := by
  rw [gaps_eq_nil_iff]
  have timeout :=
    Dialect.clean_of_isNumeral (Dialect.isNumeral_of_timeoutText dialect.timeoutText_defaults)
  refine (Dialect.clean_code (complete_steps site listed dialect.framework) ?_
    (isUnmarked_texts site listed untagged) timeout).not_unfinished
  rw [testCase, heading_eq]
  exact login.derived_name

/-! The generation -/

variable (login)

/-- The check of the code finds nothing. -/
theorem problems_eq_nil (listed : assertion ∈ checks) (untagged : login.IsUntagged)
    (dialect : Dialect) :
    (Strict.verdict login.text (dialect.code dialect.defaults (login.testCase site assertion)
      dialect.defaultTimeout) login.values.toList []
      (Generator.context (login.testCase site assertion))).problems = [] := by
  have context : Generator.context (login.testCase site assertion) = [site.address, "/login"] := by
    have goto : ((login.actions ++ [Step.check assertion]).filter fun step : Step =>
        step.kind? == some Action.goto) = [Step.goto "/login"] := rfl
    rw [Generator.context, testCase, heading_eq, goto]
    rfl
  rw [Verdict.problems_eq_nil_iff, context, Strict.verdict, List.isEmpty_nil, if_pos rfl]
  refine ⟨gaps_eq_nil site listed untagged dialect, ?_⟩
  rw [check, login.missing_eq_nil site listed, login.additions_eq_nil site listed]
  rfl

/-- Strict generation never rejects a plain login: whatever words the values and the host hold, the
result has no errors. -/
theorem exists_generate_without_errors (untagged : login.IsUntagged) (dialect : Dialect) :
    ∃ generation, ({} : Generator).generate login.text site.address dialect.defaults =
        .ok generation ∧ generation.errors = [] := by
  obtain ⟨assertion, listed, resolved⟩ := login.exists_resolve_text site.address
  have passes : ({} : Generator).Passes login.text site.address dialect.defaults
      (login.testCase site assertion) ⟨dialect.code dialect.defaults
        (login.testCase site assertion) dialect.defaultTimeout, dialect.framework.name,
        dialect.language, dialect.dependencies, dialect.setup (login.heading site)⟩ := by
    refine ⟨?_, ?_, render_defaults _ dialect, ?_⟩
    · rw [ofText_text]
      rfl
    · rw [ofText_text, extract_text]
      exact resolved
    · rw [ofText_text, extract_text]
      exact login.problems_eq_nil site listed untagged dialect
  obtain ⟨done, clean⟩ := (Generator.generate_eq_ok_iff rfl _).mpr ⟨_, _, passes, rfl⟩
  exact ⟨_, done, (Generation.errors_eq_nil_iff _).mpr clean⟩

/-- Values that are words which code may not hold. -/
def forbiddenWords : PlainLogin :=
  ⟨"retry", "testuser", by decide, by decide, by decide, by decide⟩

/-- Words that code may not hold are values like any other. -/
theorem exists_generate_forbiddenWords :
    forbiddenWords.IsUntagged ∧ ∃ generation, ({} : Generator).generate
      "login with username retry and password testuser" "https://password123"
      { framework := "selenium", language := "python" } = .ok generation ∧
        generation.errors = [] :=
  have untagged : forbiddenWords.IsUntagged := by
    unfold IsUntagged
    decide +kernel
  ⟨untagged, forbiddenWords.exists_generate_without_errors
    ⟨"password123", by decide, by decide⟩ untagged .seleniumPython⟩

end PlainScript.PlainLogin
