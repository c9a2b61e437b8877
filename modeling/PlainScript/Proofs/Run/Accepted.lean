/-
What the check before a run makes sure of, and what it overlooks: a locator without the form that
its selector needs, and every flaw of the locator of an assertion.
-/

import PlainScript.Proofs.Run.Precheck
import PlainScript.Run.Action

namespace PlainScript

open Strict

namespace Precheck

/-- What a case without errors has. -/
structure Accepts (case : TestCase) : Prop where
  address : ∃ address, Address.read case.heading.baseUrl = .ok address ∧
    address.isReachable = true
  steps : ∀ step ∈ case.steps, ∃ number, stepErrors number step = []

theorem exists_of_addressErrors {baseUrl : String} (clear : addressErrors baseUrl = .ok []) :
    ∃ address, Address.read baseUrl = .ok address ∧ address.isReachable = true := by
  unfold addressErrors at clear
  split at clear
  · cases clear
  · cases read : Address.read baseUrl with
    | error fault =>
        rw [read] at clear
        cases clear
    | ok address =>
        refine ⟨address, rfl, ?_⟩
        by_contra unreachable
        simp [read, Except.map, unreachable] at clear

theorem accepts_of_isValid {case : TestCase} {check : Precheck}
    (checked : ofCase case = .ok check) (valid : check.isValid = true) : Accepts case := by
  unfold ofCase at checked
  cases judged : addressErrors case.heading.baseUrl with
  | error fault =>
      rw [judged] at checked
      cases checked
  | ok found =>
      rw [judged] at checked
      cases checked
      simp only [isValid, List.isEmpty_iff, List.append_eq_nil_iff] at valid
      obtain ⟨⟨rfl, -⟩, clear⟩ := valid
      constructor
      · exact exists_of_addressErrors judged
      · intro step member
        obtain ⟨index, inRange, rfl⟩ := List.getElem_of_mem member
        refine ⟨1 + index, List.flatMap_eq_nil_iff.mp clear (case.steps[index], 1 + index) ?_⟩
        rw [List.mk_mem_zipIdx_iff_le_and_getElem?_sub]
        simp

end Precheck

/-! Locators whose selector is a marker -/

namespace Locator

/-- A role locator has a role, and any other one has a known type. -/
def HasForm : Locator → Prop
  | role ariaRole _ => filled ariaRole ≠ none
  | plain type _ _ => LocatorKind.ofName? type ≠ none

/-- The text that the locator goes by. -/
def label? : Locator → Option String
  | role _ name => filled name
  | plain _ _ value => filled value

/-- The locator is a CSS selector that begins like a marker. -/
def IsMarker (locator : Locator) : Prop :=
  ∃ value, locator.target = .ok (.plain .css value) ∧ Text.startsWith value Unresolved.tag = true

/-- What is unresolvable lacks its form or the text that it goes by. -/
theorem isUnresolvable_iff (locator : Locator) :
    locator.IsUnresolvable .playwright ↔ ¬ locator.HasForm ∨ locator.label? = none := by
  cases locator with
  | role ariaRole name => simp [IsUnresolvable, HasForm, label?]
  | plain type notRole value => simp [IsUnresolvable, HasForm, label?, or_comm]

/-- A text that begins with another letter is no marker. -/
theorem startsWith_tag_eq_false (front : String) {c : Char} (head : front.toList.head? = some c)
    (other : c ≠ 'U') (back : String) :
    Text.startsWith (front ++ back) Unresolved.tag = false := by
  obtain ⟨rest, same⟩ := List.head?_eq_some_iff.mp head
  have tagged : Unresolved.tag.toList = 'U' :: "NRESOLVED_SELECTOR".toList := by decide
  simp [Text.startsWith, same, tagged, List.isPrefixOf, Ne.symm other]

theorem startsWith_marker (cause : Unresolved) :
    Text.startsWith cause.marker Unresolved.tag = true := by
  rw [Text.startsWith, List.isPrefixOf_iff_prefix, Unresolved.marker, String.toList_append,
    String.toList_append, List.append_assoc]
  exact List.prefix_append _ _

/-- A selector begins like a marker if the locator is unresolvable or is such a text itself. -/
theorem startsWith_playwright_iff (locator : Locator) :
    Text.startsWith locator.playwright Unresolved.tag = true ↔
      locator.IsUnresolvable .playwright ∨ locator.IsMarker := by
  by_cases unresolvable : locator.IsUnresolvable .playwright
  · obtain ⟨cause, missing⟩ := exists_target_eq_error unresolvable (by decide)
    simp only [unresolvable, true_or, iff_true]
    rw [playwright, missing]
    exact startsWith_marker cause
  · obtain ⟨target, resolved, -⟩ := exists_target_eq_ok unresolvable
    simp only [unresolvable, false_or, IsMarker, playwright, resolved, Except.ok.injEq]
    cases target with
    | role ariaRole name =>
        rw [Target.playwright, String.append_assoc, String.append_assoc, String.append_assoc,
          startsWith_tag_eq_false "role=" (c := 'r') (by decide) (by decide)]
        simp
    | plain kind value =>
        cases kind with
        | css => simp [Target.playwright]
        | label =>
            rw [Target.playwright, String.append_assoc,
              startsWith_tag_eq_false "label:has-text(" (c := 'l') (by decide) (by decide)]
            simp
        | id =>
            have plain := startsWith_tag_eq_false "#" (c := '#') (by decide) (by decide)
            simp [Target.playwright, plain]
        | text =>
            have plain := startsWith_tag_eq_false "text=" (c := 't')
              (by decide) (by decide)
            simp [Target.playwright, plain]
        | xpath =>
            have plain := startsWith_tag_eq_false "xpath=" (c := 'x')
              (by decide) (by decide)
            simp [Target.playwright, plain]

/-- A complete locator goes by the label of its target. -/
theorem label?_of_target_eq_ok {locator : Locator} {target : Target}
    (resolved : locator.target = .ok target) : locator.label? = some target.label := by
  cases locator with
  | role ariaRole name =>
      rw [Locator.target] at resolved
      split at resolved
      · cases resolved
      · split at resolved
        · cases resolved
        · rename_i present
          cases resolved
          exact present
  | plain type notRole value =>
      rw [Locator.target] at resolved
      split at resolved
      · cases resolved
      · split at resolved
        · cases resolved
        · rename_i present _ _ _
          cases resolved
          exact present

/-- A marker is unfinished. -/
theorem IsMarker.unfinished {locator : Locator} (isMarker : locator.IsMarker) :
    ∃ text, locator.label? = some text ∧ Unfinished text := by
  obtain ⟨value, resolved, begins⟩ := isMarker
  refine ⟨value, label?_of_target_eq_ok resolved, .inl ?_⟩
  rw [Text.startsWith, List.isPrefixOf_iff_prefix] at begins
  exact begins.isInfix

end Locator

/-! Steps that look for an element -/

namespace Step

/-- The step looks for the element of the locator. -/
inductive Seeks (step : Step) : Option Locator → Prop where
  | target (acts : step.kind? = some .fill ∨ step.kind? = some .click) : step.Seeks step.locator
  | assertion (checks : step.kind? = some .check) {assertion : Assertion}
      (given : step.assertion = some assertion)
      (onPage : assertion.kind? ≠ some .urlContains) : step.Seeks assertion.locator

/-- What the check before a run does not see: a locator without its form, and in an assertion
also one that goes by nothing or by a marker. -/
def Overlooks (step : Step) (locator : Locator) : Prop :=
  ¬ locator.HasForm ∨
    step.kind? = some .check ∧ (locator.label? = none ∨ locator.IsMarker)

end Step

namespace Precheck

theorem lacksTarget_some_iff (found : Locator) :
    lacksTarget (some found) = true ↔ ∀ text, found.label? = some text → Unfinished text := by
  cases found with
  | role ariaRole name => exact isPlaceholder_iff name
  | plain type notRole value => exact isPlaceholder_iff value

/-- A target that is not lacking goes by a text that is finished. -/
theorem exists_label_of_lacksTarget {locator : Option Locator}
    (present : lacksTarget locator = false) :
    ∃ found text, locator = some found ∧ found.label? = some text ∧ ¬ Unfinished text := by
  cases locator with
  | none => cases present
  | some found =>
      have held : ¬ ∀ text, found.label? = some text → Unfinished text := by
        rw [← lacksTarget_some_iff, present]
        exact Bool.false_ne_true
      push Not at held
      obtain ⟨text, given, finished⟩ := held
      exact ⟨found, text, rfl, given, finished⟩

/-- A step without errors has a locator where it looks for an element, and its selector begins like
a marker exactly where the check sees nothing. -/
theorem exists_startsWith_iff_of_stepErrors {step : Step} {sought : Option Locator} {number : Nat}
    (clear : stepErrors number step = []) (seeks : step.Seeks sought) :
    ∃ locator, sought = some locator ∧
      (Text.startsWith locator.playwright Unresolved.tag = true ↔ step.Overlooks locator) := by
  cases seeks with
  | target acts =>
      have present : lacksTarget step.locator = false := by
        rcases acts with fills | clicks
        · by_contra lacking
          simp [stepErrors, fills, lacking] at clear
        · by_contra lacking
          simp [stepErrors, clicks, lacking] at clear
      have unchecked : step.kind? ≠ some .check := by
        intro checks
        simp [checks] at acts
      obtain ⟨locator, text, same, given, finished⟩ := exists_label_of_lacksTarget present
      have unmarked : ¬ locator.IsMarker := by
        intro isMarker
        obtain ⟨other, sameText, unfinished⟩ := isMarker.unfinished
        rw [given, Option.some.injEq] at sameText
        exact finished (sameText ▸ unfinished)
      refine ⟨locator, same, ?_⟩
      rw [Locator.startsWith_playwright_iff, Locator.isUnresolvable_iff, Step.Overlooks]
      simp [given, unmarked, unchecked]
  | assertion checks given onPage =>
      rename_i assertion
      cases located : assertion.locator with
      | none => simp [stepErrors, checks, given, assertionErrors, onPage, located] at clear
      | some locator =>
          refine ⟨locator, rfl, ?_⟩
          rw [Locator.startsWith_playwright_iff, Locator.isUnresolvable_iff, Step.Overlooks]
          simp only [checks, true_and]
          exact or_assoc

end Precheck

/-! Runs of such steps -/

namespace Run

variable {σ : Type}

/-- A step whose selector begins like a marker fails before the page is asked for anything. -/
theorem act_eq_fail_of_startsWith {step : Step} {locator : Locator}
    (seeks : step.Seeks (some locator))
    (begins : Text.startsWith locator.playwright Unresolved.tag = true) (page : Page σ)
    (timeout : Int) (baseUrl : String) :
    act page timeout baseUrl step = fail (.notFound locator.playwright) := by
  have unresolved : selectorOf (some locator) = .error (.notFound locator.playwright) := by
    simp only [selectorOf, begins, if_true]
  have lost (next : String → StepAct σ Unit) :
      (locate page (some locator) >>= next) = fail (.notFound locator.playwright) := by
    rw [locate, unresolved]
    rfl
  generalize same : some locator = sought at seeks
  cases seeks with
  | target acts =>
      unfold act
      rw [← same]
      rcases acts with fills | clicks
      · rw [fills]
        exact lost _
      · rw [clicks]
        exact lost _
  | assertion checks given onPage =>
      rename_i assertion
      unfold act
      simp only [checks, given]
      unfold check
      rw [← same]
      cases known : assertion.kind? with
      | none => exact lost _
      | some kind =>
          cases kind with
          | urlContains => exact absurd known onPage
          | element element =>
              cases element with
              | visible => simp only [unresolved]
              | _ => exact lost _

end Run

namespace Precheck

/-- In a case that is accepted every step that looks for an element has a locator. Its selector
begins like a marker exactly where the check sees nothing, and then the step fails on every page. -/
theorem startsWith_iff_overlooks_of_isValid {case : TestCase} {check : Precheck} {step : Step}
    {sought : Option Locator} (checked : ofCase case = .ok check) (valid : check.isValid = true)
    (member : step ∈ case.steps) (seeks : step.Seeks sought) :
    ∃ locator, sought = some locator ∧
      (Text.startsWith locator.playwright Unresolved.tag = true ↔ step.Overlooks locator) ∧
      (¬ step.Overlooks locator → Run.selectorOf sought = .ok locator.playwright) ∧
      (step.Overlooks locator → ∀ {σ : Type} (page : Page σ) (timeout : Int),
        Run.act page timeout case.heading.baseUrl step =
          Run.fail (.notFound locator.playwright)) := by
  obtain ⟨number, clear⟩ := (accepts_of_isValid checked valid).steps step member
  obtain ⟨locator, rfl, begins⟩ := exists_startsWith_iff_of_stepErrors clear seeks
  refine ⟨locator, rfl, begins, ?_, ?_⟩
  · intro seen
    rw [← begins, Bool.not_eq_true] at seen
    simp only [Run.selectorOf, seen, Bool.false_eq_true, if_false]
  · intro unseen σ page timeout
    exact Run.act_eq_fail_of_startsWith seeks (begins.mpr unseen) page timeout _

/-- A click on a button without a role is accepted, and fails on every page. -/
theorem startsWith_iff_overlooks_roleless :
    let click := Step.click (.role none (some "Save"))
    ofCase ⟨⟨"menu", "https://app.test", none, []⟩, [.goto "/", click]⟩ = .ok ⟨[], [.noCheck]⟩ ∧
      ∀ {σ : Type} (page : Page σ) (timeout : Int),
        Run.act page timeout "https://app.test" click =
          Run.fail (.notFound "UNRESOLVED_SELECTOR: role locator requires a role") := by
  intro click
  have checked : ofCase ⟨⟨"menu", "https://app.test", none, []⟩, [.goto "/", click]⟩ =
      .ok ⟨[], [.noCheck]⟩ := by decide +kernel
  refine ⟨checked, ?_⟩
  intro σ page timeout
  have clicks : click.kind? = some .click := by decide
  obtain ⟨locator, same, -, -, fails⟩ :=
    @startsWith_iff_overlooks_of_isValid _ _ click _ checked rfl (by simp) (.target (.inr clicks))
  obtain rfl := Option.some.inj same
  apply fails
  left
  simp [Locator.HasForm, filled]

/-- An assertion about an element that is not named is accepted. -/
theorem exists_accepted_startsWith_tag :
    ¬ ∀ (case : TestCase) (check : Precheck) (step : Step) (sought : Option Locator),
      ofCase case = .ok check → check.isValid = true → step ∈ case.steps → step.Seeks sought →
        ∀ locator ∈ sought, Text.startsWith locator.playwright Unresolved.tag = false := by
  intro all
  let assertion : Assertion := ⟨"visible", some (.plain "css" (by decide) none), none⟩
  have checked : ofCase ⟨⟨"menu", "https://app.test", none, []⟩, [.goto "/", .check assertion]⟩ =
      .ok ⟨[], []⟩ := by decide +kernel
  have seeks : (Step.check assertion).Seeks assertion.locator :=
    .assertion (by decide) rfl (by decide)
  have plain := all _ _ (.check assertion) _ checked rfl (by simp) seeks _ rfl
  revert plain
  decide +kernel

end Precheck

end PlainScript
