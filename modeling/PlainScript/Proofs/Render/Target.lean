/-
The argument that finds an element: a marker if the locator lacks something, and otherwise a
selector that is as clean as the locator's texts.
-/

import PlainScript.Proofs.Check.Clean
import PlainScript.Render.Statement

namespace PlainScript

open Strict

theorem filled_eq_some_iff (text : Option String) (value : String) :
    filled text = some value ↔ text = some value ∧ value ≠ "" := by
  simp [filled, Option.filter_eq_some_iff]

/-! Locators that lack something -/

namespace Locator

/-- The framework has no selector for the locator. -/
def IsUnresolvable (framework : Framework) : Locator → Prop
  | role ariaRole name => filled ariaRole = none ∨ filled name = none
  | plain type _ value => filled value = none ∨ LocatorKind.ofName? type = none ∨
      framework = .cypress ∧ type = "xpath"

/-- There is no locator, or none that has a selector. -/
def IsLacking (framework : Framework) (locator : Option Locator) : Prop :=
  ∀ found ∈ locator, found.IsUnresolvable framework

/-- The texts of a locator. -/
def texts : Locator → List String
  | role ariaRole name => ariaRole.toList ++ name.toList
  | plain type _ value => type :: value.toList

end Locator

/-- The texts of a complete locator. -/
def Target.texts : Target → List String
  | role ariaRole name => [ariaRole, name]
  | plain _ value => [value]

/-- The text that a target goes by. -/
def Target.label : Target → String
  | role _ name => name
  | plain _ value => value

/-- Only the type of that name is looked up by XPath. -/
theorem LocatorKind.ofName?_eq_xpath_iff (type : String) :
    ofName? type = some .xpath ↔ type = "xpath" := by
  constructor
  · intro named
    unfold ofName? at named
    split at named <;> simp_all
  · rintro rfl
    rfl

namespace Locator

variable {locator : Locator} {framework : Framework}

/-- Outside Cypress a locator without a selector has no target. -/
theorem exists_target_eq_error (lacking : locator.IsUnresolvable framework)
    (other : framework ≠ .cypress) : ∃ cause, locator.target = .error cause := by
  cases locator with
  | role ariaRole name =>
      rw [target]
      rcases lacking with none | none
      · exact ⟨_, by rw [none]⟩
      · cases filled ariaRole with
        | none => exact ⟨_, rfl⟩
        | some ariaRole => exact ⟨_, by rw [none]⟩
  | plain type notRole value =>
      rw [target]
      rcases lacking with none | none | ⟨cypress, -⟩
      · exact ⟨_, by rw [none]⟩
      · cases filled value with
        | none => exact ⟨_, rfl⟩
        | some value => exact ⟨_, by rw [none]⟩
      · exact absurd cypress other

/-- In Cypress a locator without a selector has no target or one that is looked up by XPath. -/
theorem exists_cypress_eq_error (lacking : locator.IsUnresolvable .cypress) :
    ∃ cause, locator.target.bind Target.cypress = .error cause := by
  by_cases other : locator.IsUnresolvable .selenium
  · obtain ⟨cause, missing⟩ := exists_target_eq_error other (by decide)
    exact ⟨cause, by rw [missing]; rfl⟩
  · cases locator with
    | role ariaRole name => exact absurd lacking other
    | plain type notRole value =>
        simp only [IsUnresolvable, not_or] at other lacking
        obtain ⟨rfl⟩ : type = "xpath" := by simpa [other] using lacking
        obtain ⟨value, present⟩ := Option.ne_none_iff_exists'.mp other.1
        exact ⟨.xpathUnsupported, by rw [target, present]; rfl⟩

/-- A locator with a selector has a target made of its texts. -/
theorem exists_target_eq_ok (complete : ¬ locator.IsUnresolvable framework) :
    ∃ target, locator.target = .ok target ∧ ∀ text ∈ target.texts, text ∈ locator.texts := by
  cases locator with
  | role ariaRole name =>
      simp only [IsUnresolvable, not_or] at complete
      obtain ⟨ariaRole', presentRole⟩ := Option.ne_none_iff_exists'.mp complete.1
      obtain ⟨name', presentName⟩ := Option.ne_none_iff_exists'.mp complete.2
      refine ⟨.role ariaRole' name', by simp only [target, presentRole, presentName], ?_⟩
      rw [filled_eq_some_iff] at presentRole presentName
      simp [Target.texts, texts, presentRole, presentName]
  | plain type notRole value =>
      simp only [IsUnresolvable, not_or] at complete
      obtain ⟨value', present⟩ := Option.ne_none_iff_exists'.mp complete.1
      obtain ⟨kind, known⟩ := Option.ne_none_iff_exists'.mp complete.2.1
      refine ⟨.plain kind value', by simp only [target, present, known], ?_⟩
      rw [filled_eq_some_iff] at present
      simp [Target.texts, texts, present]

/-- The target of a locator with a selector in Cypress is not looked up by XPath. -/
theorem ne_xpath_of_target_eq_ok (complete : ¬ locator.IsUnresolvable .cypress) {value : String} :
    locator.target ≠ .ok (.plain .xpath value) := by
  intro same
  cases locator with
  | role ariaRole name =>
      rw [target] at same
      split at same
      · cases same
      · split at same <;> cases same
  | plain type notRole value =>
      rw [target] at same
      split at same
      · cases same
      · split at same
        · cases same
        · rename_i known
          cases same
          exact complete (.inr (.inr ⟨rfl, (LocatorKind.ofName?_eq_xpath_iff type).mp known⟩))

end Locator

/-! Selectors show what their targets go by -/

namespace Target

variable {target : Target}

theorem shows_playwright (target : Target) : Literal.Shows target.playwright target.label := by
  cases target with
  | role ariaRole name =>
      delta playwright label
      grind
  | plain kind value =>
      cases kind <;>
        delta playwright label <;>
        grind

theorem shows_selenium (target : Target) : Literal.Shows target.selenium.2 target.label := by
  cases target with
  | role ariaRole name =>
      delta selenium label
      grind
  | plain kind value =>
      cases kind <;>
        delta selenium label <;>
        grind

theorem shows_cypress {selector : String} (known : target.cypress = .ok selector) :
    Literal.Shows selector target.label := by
  cases target with
  | role ariaRole name =>
      cases known
      delta label
      grind
  | plain kind value =>
      cases kind <;>
        cases known <;>
        delta label <;>
        grind

end Target

/-! Clean selectors -/

namespace Target

variable {target : Target}

theorem clean_playwright (unmarked : ∀ text ∈ target.texts, IsUnmarked text) :
    Clean target.playwright := by
  have clean : ∀ text ∈ target.texts, Clean text := fun text member => (unmarked text member).clean
  cases target with
  | role ariaRole name =>
      simp only [texts, List.mem_cons, List.not_mem_nil, or_false, forall_eq_or_imp,
        forall_eq] at clean
      delta playwright
      dsimp only
      simp (disch := (apply guarded_ofList; decide)) only [clean_append_barrier_append_iff,
        clean_front_append_iff, clean_append_back_iff, clean_css_iff, clean, and_self]
  | plain kind value =>
      simp only [texts, List.mem_cons, List.not_mem_nil, or_false, forall_eq] at clean
      cases kind <;>
        delta playwright <;>
        dsimp only <;>
        simp (disch := (apply guarded_ofList; decide)) only [clean_front_append_iff,
          clean_append_back_iff, clean_css_iff, clean]

theorem clean_selenium (unmarked : ∀ text ∈ target.texts, IsUnmarked text) :
    Clean target.selenium.2 := by
  have clean : ∀ text ∈ target.texts, Clean text := fun text member => (unmarked text member).clean
  cases target with
  | role ariaRole name =>
      simp only [texts, List.mem_cons, List.not_mem_nil, or_false, forall_eq_or_imp,
        forall_eq] at clean unmarked
      -- The words after the role begin with a blank, which a marker has inside.
      have words : " or @role='" = String.singleton ' ' ++ "or @role='" := by rfl
      have start : IsUnmarked ("//*[(self::" ++ ariaRole) := by
        refine ⟨?_, ?_⟩ <;>
          rw [String.toList_append, Chars.infix_guard_append_iff (by decide)]
        · exact unmarked.1.1
        · exact unmarked.1.2
      have begun := start.clean_append_singleton (c := ' ') (by decide)
      delta selenium
      dsimp only
      rw [words, ← String.append_assoc]
      simp (disch := (apply guarded_ofList; decide)) only [clean_append_barrier_append_iff,
        clean_append_back_iff, clean_xpath_iff, begun, clean, and_self]
  | plain kind value =>
      simp only [texts, List.mem_cons, List.not_mem_nil, or_false, forall_eq] at clean
      cases kind <;>
        delta selenium <;>
        dsimp only <;>
        simp (disch := (apply guarded_ofList; decide)) only [clean_front_append_iff,
          clean_append_back_iff, clean_xpath_iff, clean]

theorem clean_cypress (unmarked : ∀ text ∈ target.texts, IsUnmarked text) {selector : String}
    (known : target.cypress = .ok selector) : Clean selector := by
  have clean : ∀ text ∈ target.texts, Clean text := fun text member => (unmarked text member).clean
  cases target with
  | role ariaRole name =>
      simp only [texts, List.mem_cons, List.not_mem_nil, or_false, forall_eq_or_imp,
        forall_eq] at clean unmarked
      -- The words after the role begin with a colon, which a marker has inside.
      have words : ":contains(" = String.singleton ':' ++ "contains(" := by rfl
      have start : Clean (ariaRole ++ String.singleton ':') :=
        unmarked.1.clean_append_singleton (by decide)
      delta cypress at known
      dsimp only at known
      rw [Except.ok.injEq, words, ← String.append_assoc] at known
      subst known
      simp (disch := (apply guarded_ofList; decide)) only [clean_append_barrier_append_iff,
        clean_append_back_iff, clean_css_iff, start, clean, and_self]
  | plain kind value =>
      simp only [texts, List.mem_cons, List.not_mem_nil, or_false, forall_eq] at clean
      cases kind <;>
        cases known <;>
        simp (disch := (apply guarded_ofList; decide)) only [clean_front_append_iff,
          clean_append_back_iff, clean_css_iff, clean]

end Target

/-- An argument shows what is looked up. -/
theorem shows_seleniumArgument (python : Bool) (found : Lookup × String) :
    Literal.Shows (seleniumArgument python found) found.2 := by
  rw [seleniumArgument]
  split
  · exact (Literal.Shows.refl _).quoteDouble.append_right
  · exact (Literal.Shows.refl _).quoteDouble.append_right.append_left

theorem clean_seleniumArgument (python : Bool) {found : Lookup × String} (clean : Clean found.2) :
    Clean (seleniumArgument python found) := by
  have pythonName : Clean found.1.pythonName := by
    cases found.1 <;> exact clean_ofList (by decide)
  have javaName : Clean found.1.javaName := by
    cases found.1 <;> exact clean_ofList (by decide)
  rw [seleniumArgument]
  split <;>
    simp (disch := (apply guarded_ofList; decide)) only [clean_append_barrier_append_iff,
      clean_append_back_iff, clean_quoteDouble_iff, clean, pythonName, javaName, and_self]

namespace Dialect

variable {dialect : Dialect} {locator : Option Locator}

/-- Where there is no selector, the argument is a marker or looks one up. -/
theorem unfinished_target (user : String) (lacking : Locator.IsLacking dialect.framework locator) :
    Unfinished (dialect.target user locator) := by
  rw [target]
  cases locator with
  | none =>
      have missing := unfinished_marker (.noLocator user)
      cases dialect.framework
      · exact missing
      · exact missing.of_shows (shows_seleniumArgument _ _)
      · exact missing
  | some found =>
      have unresolvable := lacking found rfl
      generalize dialect.framework = framework at unresolvable
      cases framework with
      | playwright =>
          obtain ⟨cause, missing⟩ := Locator.exists_target_eq_error unresolvable (by decide)
          simpa [Locator.playwright, missing] using unfinished_marker cause
      | selenium =>
          obtain ⟨cause, missing⟩ := Locator.exists_target_eq_error unresolvable (by decide)
          simpa [Locator.selenium, missing] using
            (unfinished_marker cause).of_shows (shows_seleniumArgument _ (.css, cause.marker))
      | cypress =>
          obtain ⟨cause, missing⟩ := Locator.exists_cypress_eq_error unresolvable
          simpa [Locator.cypress, missing] using unfinished_marker cause

/-- The argument shows what the target of its locator goes by, unless it is a marker. -/
theorem shows_or_unfinished_target (user : String) {found : Locator} {target : Target}
    (resolved : found.target = .ok target) :
    Literal.Shows (dialect.target user (some found)) target.label ∨
      dialect.framework = .cypress ∧ (∃ cause, target.cypress = .error cause) ∧
        Unfinished (dialect.target user (some found)) := by
  rw [Dialect.target]
  cases dialect.framework with
  | playwright =>
      left
      simpa [Locator.playwright, resolved] using target.shows_playwright
  | selenium =>
      left
      simpa [Locator.selenium, resolved] using
        (shows_seleniumArgument _ target.selenium).trans target.shows_selenium
  | cypress =>
      cases known : target.cypress with
      | ok selector =>
          left
          simpa [Locator.cypress, resolved, Except.bind, known] using target.shows_cypress known
      | error cause =>
          right
          simpa [Locator.cypress, resolved, Except.bind, known] using unfinished_marker cause

theorem unfinished_target_of_label (user : String) {found : Locator} {target : Target}
    (resolved : found.target = .ok target) (unfinished : Unfinished target.label) :
    Unfinished (dialect.target user (some found)) := by
  rcases shows_or_unfinished_target user resolved with shows | ⟨-, -, marked⟩
  · exact unfinished.of_shows shows
  · exact marked

/-- Where there is a selector, the argument is as clean as the texts of the locator. -/
theorem clean_target (user : String) {found : Locator}
    (complete : ¬ found.IsUnresolvable dialect.framework)
    (unmarked : ∀ text ∈ found.texts, IsUnmarked text) :
    Clean (dialect.target user (some found)) := by
  obtain ⟨target, resolved, texts⟩ := Locator.exists_target_eq_ok complete
  have unmarkedTarget : ∀ text ∈ target.texts, IsUnmarked text :=
    fun text member => unmarked text (texts text member)
  rw [Dialect.target]
  generalize dialect.framework = framework at complete
  cases framework with
  | playwright => simpa [Locator.playwright, resolved] using target.clean_playwright unmarkedTarget
  | selenium =>
      simpa [Locator.selenium, resolved] using
        clean_seleniumArgument _ (target.clean_selenium unmarkedTarget)
  | cypress =>
      cases known : target.cypress with
      | ok selector =>
          simpa [Locator.cypress, resolved, Except.bind, known] using
            target.clean_cypress unmarkedTarget known
      | error cause =>
          exfalso
          cases target with
          | role ariaRole name => cases known
          | plain kind value =>
              cases kind with
              | xpath => exact Locator.ne_xpath_of_target_eq_ok complete resolved
              | _ => cases known

end Dialect

end PlainScript
