/-
Locators and their Playwright selectors: which locators are told by their selectors, and that
reading any selector leads to such a locator unless the locator has no content.
-/

import PlainScript.Locator.Selector
import PlainScript.Proofs.Locator.Form
import PlainScript.Proofs.Render.Target

namespace PlainScript

namespace Locator

open Literal

/-- The locators that their Playwright selectors tell. -/
inductive IsCanonical : Locator → Prop
  | role {ariaRole name : String} (given : ariaRole ≠ "")
      (word : ∀ c ∈ ariaRole.toList, Text.isWord c = true) (nonempty : name ≠ "") :
      IsCanonical (.role ariaRole name)
  | label {value : String} (nonempty : value ≠ "") : IsCanonical (.label value)
  | id {value : String} (nonempty : value ≠ "")
      (word : ∀ c ∈ value.toList, Text.isWord c = true ∨ c = '-') : IsCanonical (.id value)
  | text {value : String} (nonempty : value ≠ "")
      (trimmed : ∀ c ∈ value.toList.getLast?, Text.isBlank c = false) : IsCanonical (.text value)
  | xpath {value : String} (nonempty : value ≠ "")
      (trimmed : ∀ c ∈ value.toList.getLast?, Text.isBlank c = false) : IsCanonical (.xpath value)
  | css {value : String} (nonempty : value ≠ "") (trimmed : Text.trim value = value)
      (formless : ∀ other, ¬ Form value other) : IsCanonical (.css value)

/-- The locator has a value or a name that is not empty. -/
def HasContent (locator : Locator) : Prop :=
  (filled locator.value?).isSome ∨ (filled locator.name?).isSome

variable {locator : Locator} {selector : String}

/-! Selectors of canonical locators -/

theorem playwright_of_target_eq_ok {target : Target} (complete : locator.target = .ok target) :
    locator.playwright = target.playwright := by
  rw [playwright, complete]

theorem playwright_role {ariaRole name : String} (given : ariaRole ≠ "") (nonempty : name ≠ "") :
    (role ariaRole name).playwright = (Target.role ariaRole name).playwright := by
  refine playwright_of_target_eq_ok ?_
  simp only [target, (filled_eq_some_iff (some ariaRole) _).mpr ⟨rfl, given⟩,
    (filled_eq_some_iff (some name) _).mpr ⟨rfl, nonempty⟩]

theorem playwright_plain {type value : String} {notRole : type ≠ "role"} {kind : LocatorKind}
    (nonempty : value ≠ "") (known : LocatorKind.ofName? type = some kind) :
    (plain type notRole value).playwright = (Target.plain kind value).playwright := by
  refine playwright_of_target_eq_ok ?_
  simp only [target, (filled_eq_some_iff (some value) _).mpr ⟨rfl, nonempty⟩, known]

/-- A CSS string is the spelling of its text between quotes. -/
theorem exists_css_eq {text : String} (nonempty : text ≠ "") :
    ∃ inside, Literal.css text = "\"" ++ inside ++ "\"" ∧ inside ≠ "" ∧
      Spells cssSpelling inside.toList text.toList := by
  have spelled := spells_flatMap writes_cssChar text.toList
  have whole : Literal.css text = "\"" ++ .ofList (text.toList.flatMap cssChar) ++ "\"" := by
    rw [← String.toList_inj]
    simp [Literal.css, cssChars]
  refine ⟨_, whole, ?_, by rwa [String.toList_ofList]⟩
  rw [Ne, ← String.toList_inj, String.toList_ofList, String.toList_empty, spelled.eq_nil_iff]
  simpa using nonempty

/-- A selector with a form and without blanks at its ends is read as what it names. -/
theorem parse_eq_of_form (form : Form selector locator) (trimmed : Text.trim selector = selector) :
    parse selector = locator :=
  parse_eq_iff.mpr (.inl (trimmed.symm ▸ form))

/-- Reading the selector of a canonical locator gives it back. -/
theorem IsCanonical.parse_playwright (canonical : locator.IsCanonical) :
    parse locator.playwright = locator := by
  cases canonical with
  | @role ariaRole name given word nonempty =>
      obtain ⟨inside, whole, filled, spelled⟩ := exists_css_eq nonempty
      have written : (Locator.role ariaRole name).playwright =
          "role=" ++ ariaRole ++ "[name=\"" ++ inside ++ "\"]" := by
        rw [playwright_role given nonempty, Target.playwright, whole,
          ← String.toList_inj]
        simp
      rw [written]
      exact parse_eq_of_form (.role given word filled spelled)
        (Text.trim_append_eq_self (c := 'r') (by simp) (by decide) (by decide)
          (by simp [Text.isBlank]))
  | @label value nonempty =>
      obtain ⟨inside, whole, filled, spelled⟩ := exists_css_eq nonempty
      have written : (Locator.label value).playwright = "label:has-text(\"" ++ inside ++ "\")" := by
        rw [Locator.label, playwright_plain nonempty rfl, Target.playwright, whole,
          ← String.toList_inj]
        simp
      rw [written]
      exact parse_eq_of_form (.label filled spelled)
        (Text.trim_append_eq_self (c := 'l') (by simp) (by decide) (by decide)
          (by simp [Text.isBlank]))
  | @id value nonempty word =>
      have written : (Locator.id value).playwright = "#" ++ value := by
        rw [Locator.id, playwright_plain nonempty rfl, Target.playwright]
      have last : ∀ c ∈ value.toList.getLast?, Text.isBlank c = false := by
        intro c last
        rcases word c (List.mem_of_getLast? last) with word | rfl
        · exact Text.isBlank_eq_false_of_isWord word
        · rfl
      rw [written]
      exact parse_eq_of_form (.id nonempty word)
        (Text.trim_append_eq_self (c := '#') (by simp) (by decide) nonempty last)
  | @text value nonempty trimmed =>
      have written : (Locator.text value).playwright = "text=" ++ value := by
        rw [Locator.text, playwright_plain nonempty rfl, Target.playwright]
      rw [written]
      exact parse_eq_of_form (.text value)
        (Text.trim_append_eq_self (c := 't') (by simp) (by decide) nonempty trimmed)
  | @xpath value nonempty trimmed =>
      have written : (Locator.xpath value).playwright = "xpath=" ++ value := by
        rw [Locator.xpath, playwright_plain nonempty rfl, Target.playwright]
      rw [written]
      exact parse_eq_of_form (.xpath value)
        (Text.trim_append_eq_self (c := 'x') (by simp) (by decide) nonempty trimmed)
  | @css value nonempty trimmed formless =>
      have written : (Locator.css value).playwright = value := by
        rw [Locator.css, playwright_plain nonempty rfl, Target.playwright]
      rw [written]
      exact parse_eq_iff.mpr (.inr ⟨by rwa [trimmed], by rw [trimmed]⟩)

/-! Reading leads to canonical locators -/

theorem hasContent_plain_iff {type value : String} {notRole : type ≠ "role"} :
    (plain type notRole value).HasContent ↔ value ≠ "" := by
  simp [HasContent, value?, name?, filled]

theorem hasContent_role_iff {ariaRole : Option String} {name : String} :
    (role ariaRole name).HasContent ↔ name ≠ "" := by
  simp [HasContent, value?, name?, filled]

/-- The value at the end of a trimmed selector ends without a blank. -/
theorem isBlank_getLast?_of_append {front value : String} (nonempty : value ≠ "")
    (last : ∀ c ∈ (front ++ value).toList.getLast?, Text.isBlank c = false) :
    ∀ c ∈ value.toList.getLast?, Text.isBlank c = false := by
  rwa [String.toList_append, List.getLast?_append_of_ne_nil _ (by simpa using nonempty)] at last

/-- What the form of a trimmed selector names is canonical if it has content. -/
theorem Form.isCanonical (form : Form selector locator)
    (last : ∀ c ∈ selector.toList.getLast?, Text.isBlank c = false) (content : locator.HasContent) :
    locator.IsCanonical := by
  cases form with
  | @role ariaRole inside name given word nonempty spelled =>
      exact .role given word (hasContent_role_iff.mp content)
  | @label inside value nonempty spelled => exact .label (hasContent_plain_iff.mp content)
  | @id value nonempty word => exact .id nonempty word
  | text value =>
      have nonempty : value ≠ "" := hasContent_plain_iff.mp content
      exact .text nonempty (isBlank_getLast?_of_append nonempty last)
  | xpath value =>
      have nonempty : value ≠ "" := hasContent_plain_iff.mp content
      exact .xpath nonempty (isBlank_getLast?_of_append nonempty last)
  | path value => exact .xpath (hasContent_plain_iff.mp content) last

/-- A selector is read as a canonical locator or as one without content. -/
theorem isCanonical_parse (content : (parse selector).HasContent) :
    (parse selector).IsCanonical := by
  rcases parse_eq_iff.mp (rfl : parse selector = parse selector) with form | ⟨formless, same⟩
  · refine form.isCanonical ?_ content
    rw [Text.trim, String.toList_ofList]
    exact Chars.isBlank_getLast?_trim selector.toList
  · rw [same] at content ⊢
    refine .css (hasContent_plain_iff.mp content) ?_ formless
    rw [Text.trim, Text.trim, String.toList_ofList, Chars.trim_trim]

/-! Only canonical locators are read back -/

theorem hasContent_of_target_eq_ok {target : Target} (complete : locator.target = .ok target) :
    locator.HasContent := by
  cases locator with
  | role ariaRole name =>
      rw [Locator.target] at complete
      split at complete
      · cases complete
      · split at complete
        · cases complete
        · rename_i found
          exact .inr (Option.isSome_iff_exists.mpr ⟨_, found⟩)
  | plain type notRole value =>
      rw [Locator.target] at complete
      split at complete
      · cases complete
      · rename_i found
        exact .inl (Option.isSome_iff_exists.mpr ⟨_, found⟩)

/-- Only the words of forms can stand in a selector whose form names a locator without content. -/
theorem Form.hasContent (form : Form selector locator) {c : Char} (member : c ∈ selector.toList)
    (foreign : c ∉ "text=xpath=".toList) : locator.HasContent := by
  have valued {front value : String} (words : ∀ d ∈ front.toList, d ∈ "text=xpath=".toList)
      (member : c ∈ (front ++ value).toList) : value ≠ "" := by
    rintro rfl
    rw [String.append_empty] at member
    exact foreign (words c member)
  have spelt {inside value : String} (nonempty : inside ≠ "")
      (spelled : Spells cssSpelling inside.toList value.toList) : value ≠ "" := by
    have same := spelled.eq_nil_iff
    simp only [String.toList_eq_nil_iff] at same
    exact fun empty => nonempty (same.mpr empty)
  cases form with
  | @role ariaRole inside name given word nonempty spelled =>
      exact hasContent_role_iff.mpr (spelt nonempty spelled)
  | @label inside value nonempty spelled =>
      exact hasContent_plain_iff.mpr (spelt nonempty spelled)
  | @id value nonempty word => exact hasContent_plain_iff.mpr nonempty
  | text value => exact hasContent_plain_iff.mpr (valued (by simp) member)
  | xpath value => exact hasContent_plain_iff.mpr (valued (by simp) member)
  | path value => exact hasContent_plain_iff.mpr (by simp)

/-- A marker is read as CSS, or as another locator with content. -/
theorem hasContent_parse_marker (cause : Unresolved) : (parse cause.marker).HasContent := by
  have member : 'U' ∈ (Text.trim cause.marker).toList := by
    rw [Text.trim, String.toList_ofList]
    exact Chars.mem_trim (by simp [Unresolved.marker, Unresolved.tag]) (by decide)
  rcases parse_eq_iff.mp (rfl : parse cause.marker = parse cause.marker) with form | ⟨-, same⟩
  · exact form.hasContent member (by simp)
  · rw [same]
    refine hasContent_plain_iff.mpr ?_
    intro empty
    rw [empty] at member
    simp at member

/-- Exactly the canonical locators are read back from their selectors. -/
theorem parse_playwright_eq_self_iff :
    parse locator.playwright = locator ↔ locator.IsCanonical := by
  constructor
  · intro same
    rw [← same]
    refine isCanonical_parse ?_
    cases complete : locator.target with
    | ok target =>
        rw [same]
        exact hasContent_of_target_eq_ok complete
    | error cause =>
        rw [playwright, complete]
        exact hasContent_parse_marker cause
  · exact IsCanonical.parse_playwright

/-- Reading a selector inverts writing it. Exactly the canonical locators are read back from their
selectors, and whatever is read from a selector is read back, unless it has no content. -/
theorem parse_inverts_playwright :
    (∀ locator, parse locator.playwright = locator ↔ locator.IsCanonical) ∧
      ∀ selector, (parse selector).HasContent →
        parse (parse selector).playwright = parse selector :=
  ⟨fun _ => parse_playwright_eq_self_iff,
    fun _ content => (isCanonical_parse content).parse_playwright⟩

/-- A button whose name holds what a selector escapes, and a line feed. -/
def quotedButton : Locator := .role "button" "say \"C:\\\"\n"

theorem parse_inverts_playwright_quotedButton :
    quotedButton.IsCanonical ∧ parse quotedButton.playwright = quotedButton ∧
      (parse quotedButton.playwright).HasContent ∧
      parse (parse quotedButton.playwright).playwright = parse quotedButton.playwright := by
  have canonical : quotedButton.IsCanonical :=
    .role (by decide) (by simp [Text.isWord, Text.isAlphanumeric]) (by decide)
  have same := (parse_inverts_playwright.1 quotedButton).mpr canonical
  have content : (parse quotedButton.playwright).HasContent := by
    rw [same]
    exact hasContent_role_iff.mpr (by decide)
  exact ⟨canonical, same, content, parse_inverts_playwright.2 _ content⟩

end Locator

end PlainScript
