/-
Incomplete steps: their statements show an unfinished text. The statements of all other steps
show texts that are as clean as those of the step.
-/

import PlainScript.Proofs.Render.Line
import PlainScript.Proofs.Render.Target

namespace PlainScript

open Strict

/-! Incomplete steps -/

/-- The assertion lacks something that its code needs; unknown kinds need nothing. -/
def Assertion.IsIncomplete (framework : Framework) (assertion : Assertion) : Prop :=
  match assertion.kind? with
  | some .urlContains => filled assertion.value = none
  | some (.element check) =>
      Locator.IsLacking framework assertion.locator ∨
        check.needsValue = true ∧ filled assertion.value = none
  | none => False

/-- The step lacks something that its code needs; unknown actions need nothing. -/
def Step.IsIncomplete (framework : Framework) (step : Step) : Prop :=
  match step.kind? with
  | some .goto => filled step.path = none
  | some .fill => Locator.IsLacking framework step.locator ∨ filled step.text = none
  | some .click => Locator.IsLacking framework step.locator
  | some .check => ∀ assertion ∈ step.assertion, assertion.IsIncomplete framework
  | none => False

/-- The texts of an assertion. -/
def Assertion.texts (assertion : Assertion) : List String :=
  assertion.type :: (assertion.locator.elim [] Locator.texts ++ assertion.value.toList)

/-- The texts of a step. -/
def Step.texts (step : Step) : List String :=
  step.action :: (step.path.toList ++ step.locator.elim [] Locator.texts ++ step.text.toList ++
    step.assertion.elim [] Assertion.texts)

namespace Dialect

variable {dialect : Dialect}

/-- An incomplete assertion becomes a check of an unfinished text. -/
theorem exists_unfinished_assertion {assertion : Assertion}
    (incomplete : assertion.IsIncomplete dialect.framework) :
    ∃ text ∈ (dialect.assertionStatement assertion).shown, Unfinished text := by
  rw [Assertion.IsIncomplete] at incomplete
  rw [assertionStatement]
  cases known : assertion.kind? with
  | none => simp [known] at incomplete
  | some kind =>
      cases kind with
      | urlContains =>
          simp only [known] at incomplete
          refine ⟨Marker.unspecified "expected url", ?_,
            unfinished_unspecified (by decide) (by decide)⟩
          simp [Statement.shown, incomplete]
      | element check =>
          simp only [known] at incomplete
          rcases incomplete with lacking | ⟨needed, none⟩
          · refine ⟨_, ?_, unfinished_target "assertion" lacking⟩
            simp only [Statement.shown]
            split <;> exact List.mem_cons_self
          · refine ⟨Marker.unspecified "expected value", ?_,
              unfinished_unspecified (by decide) (by decide)⟩
            simp [Statement.shown, needed, none]

/-- An incomplete step becomes a statement that shows an unfinished text. -/
theorem exists_unfinished_statement (base : String) {step : Step}
    (incomplete : step.IsIncomplete dialect.framework) :
    ∃ text ∈ (dialect.statement base step).shown, Unfinished text := by
  rw [Step.IsIncomplete] at incomplete
  rw [statement]
  cases known : step.kind? with
  | none => simp [known] at incomplete
  | some kind =>
      simp only [known] at incomplete
      cases kind with
      | goto =>
          refine ⟨Marker.unspecified "url", ?_,
            unfinished_unspecified (by decide) (by decide)⟩
          simp [Statement.shown, incomplete]
      | fill =>
          rcases incomplete with lacking | none
          · exact ⟨_, List.mem_cons_self, unfinished_target "fill" lacking⟩
          · refine ⟨Marker.unspecified "text", ?_,
              unfinished_unspecified (by decide) (by decide)⟩
            simp [Statement.shown, none]
      | click => exact ⟨_, List.mem_singleton.mpr rfl, unfinished_target "click" incomplete⟩
      | check =>
          cases given : step.assertion with
          | none =>
              refine ⟨Marker.unspecified "assertion", List.mem_singleton.mpr rfl,
                unfinished_unspecified (by decide) (by decide)⟩
          | some assertion => exact exists_unfinished_assertion (incomplete assertion given)

/-! Complete steps -/

/-- Where a path leads is written with the characters of the path and of the base address. -/
theorem clean_targetUrl {base path : String} (cleanBase : Clean base) (cleanPath : Clean path) :
    Clean (targetUrl base path) := by
  have frontOfBase : (dropLastSlashes base).toList <:+: base.toList := by
    rw [dropLastSlashes, String.toList_ofList]
    exact (Chars.trimRightWhere_prefix_self _ _).isInfix
  have tailOfPath : (dropSlashes path).toList <:+: path.toList := by
    rw [dropSlashes, String.toList_ofList]
    exact (List.dropWhile_suffix _).isInfix
  rw [targetUrl]
  split
  · exact cleanPath
  · split
    · rw [joinUrl, clean_append_barrier_append_iff (guarded_ofList (by decide))]
      exact ⟨cleanBase.of_infix frontOfBase, cleanPath.of_infix tailOfPath⟩
    · exact cleanPath

theorem exists_of_not_isLacking {framework : Framework} {locator : Option Locator}
    (present : ¬ Locator.IsLacking framework locator) :
    ∃ found, locator = some found ∧ ¬ found.IsUnresolvable framework := by
  simpa [Locator.IsLacking] using present

/-- A complete assertion becomes a check of clean texts. -/
theorem clean_assertion {assertion : Assertion}
    (complete : ¬ assertion.IsIncomplete dialect.framework)
    (unmarked : ∀ text ∈ assertion.texts, IsUnmarked text) :
    ∀ text ∈ (dialect.assertionStatement assertion).shown, Clean text := by
  rw [Assertion.IsIncomplete] at complete
  rw [assertionStatement]
  have value : ∀ text, filled assertion.value = some text → Clean text := by
    intro text present
    rw [filled_eq_some_iff] at present
    exact (unmarked text (by simp [Assertion.texts, present])).clean
  cases known : assertion.kind? with
  | none =>
      have type := (unmarked assertion.type (by simp [Assertion.texts])).clean
      have note : Clean ("Unknown assertion type: " ++ assertion.type) :=
        (clean_front_append_iff (guarded_ofList (by decide))).mpr type
      simpa [Statement.shown] using note
  | some kind =>
      simp only [known] at complete
      cases kind with
      | urlContains =>
          obtain ⟨text, present⟩ := Option.ne_none_iff_exists'.mp complete
          simpa [Statement.shown, present] using value text present
      | element check =>
          rw [not_or, not_and] at complete
          obtain ⟨found, given, resolvable⟩ := exists_of_not_isLacking complete.1
          have target : Clean (dialect.target "assertion" assertion.locator) := by
            rw [given]
            exact clean_target "assertion" resolvable fun text member =>
              unmarked text (by simp [Assertion.texts, given, member])
          simp only [Statement.shown]
          split
          · rename_i needed
            obtain ⟨text, present⟩ := Option.ne_none_iff_exists'.mp (complete.2 needed)
            simp [present, target, value text present]
          · simpa using target

/-- A complete step becomes a statement that shows clean texts only. -/
theorem clean_statement {base : String} {step : Step}
    (complete : ¬ step.IsIncomplete dialect.framework) (cleanBase : Clean base)
    (unmarked : ∀ text ∈ step.texts, IsUnmarked text) :
    ∀ text ∈ (dialect.statement base step).shown, Clean text := by
  rw [Step.IsIncomplete] at complete
  rw [statement]
  cases known : step.kind? with
  | none =>
      have action := (unmarked step.action (by simp [Step.texts])).clean
      have note : Clean ("Unknown action: " ++ step.action) :=
        (clean_front_append_iff (guarded_ofList (by decide))).mpr action
      simpa [Statement.shown] using note
  | some kind =>
      simp only [known] at complete
      cases kind with
      | goto =>
          obtain ⟨path, present⟩ := Option.ne_none_iff_exists'.mp complete
          have given := (filled_eq_some_iff _ _).mp present
          have clean := (unmarked path (by simp [Step.texts, given])).clean
          simpa [Statement.shown, present] using clean_targetUrl cleanBase clean
      | fill =>
          rw [not_or] at complete
          obtain ⟨found, given, resolvable⟩ := exists_of_not_isLacking complete.1
          obtain ⟨text, present⟩ := Option.ne_none_iff_exists'.mp complete.2
          have typed := (filled_eq_some_iff _ _).mp present
          have target := clean_target "fill" resolvable fun text member =>
            unmarked text (by simp [Step.texts, given, member])
          have clean := (unmarked text (by simp [Step.texts, typed])).clean
          simp [Statement.shown, given, present, target, clean]
      | click =>
          obtain ⟨found, given, resolvable⟩ := exists_of_not_isLacking complete
          have target := clean_target "click" resolvable fun text member =>
            unmarked text (by simp [Step.texts, given, member])
          simpa [Statement.shown, given] using target
      | check =>
          obtain ⟨assertion, given, resolvable⟩ : ∃ assertion, step.assertion = some assertion ∧
              ¬ assertion.IsIncomplete dialect.framework := by simpa using complete
          simp only [given]
          exact clean_assertion resolvable fun text member =>
            unmarked text (by simp [Step.texts, given, member])

end Dialect

end PlainScript
