/-
The check before a run agrees with the check of the code: what keeps a known step from being run
shows in its line as unfinished text.
-/

import PlainScript.Proofs.Render.Code
import PlainScript.Run.Precheck

namespace PlainScript

open Strict

/-- The action is known, and so is the kind of what is checked. -/
def Step.IsKnown (step : Step) : Prop :=
  ∃ action, step.kind? = some action ∧
    (action = .check → ∀ assertion ∈ step.assertion, ∃ kind, assertion.kind? = some kind)

namespace Precheck

/-- A placeholder is a text that is not there or unfinished. -/
theorem isPlaceholder_iff (text : Option String) :
    isPlaceholder text = true ↔ ∀ value, filled text = some value → Unfinished value := by
  rw [isPlaceholder]
  cases filled text with
  | none => simp
  | some value =>
      simp [Unfinished, Marker.occursIn_iff, Text.contains_iff_infix, or_comm]

/-- The text that a complete locator goes by is a placeholder only if it is unfinished. -/
theorem unfinished_label {found : Locator} {target : Target} (resolved : found.target = .ok target)
    (lacking : lacksTarget (some found) = true) : Unfinished target.label := by
  cases found with
  | role ariaRole name =>
      rw [Locator.target] at resolved
      split at resolved
      · cases resolved
      · split at resolved
        · cases resolved
        · rename_i present
          cases resolved
          exact (isPlaceholder_iff name).mp lacking _ present
  | plain type notRole value =>
      rw [Locator.target] at resolved
      split at resolved
      · cases resolved
      · split at resolved
        · cases resolved
        · rename_i present _ _ _
          cases resolved
          exact (isPlaceholder_iff value).mp lacking _ present

/-- The argument of a step whose target is lacking is unfinished. -/
theorem unfinished_target_of_lacksTarget (dialect : Dialect) (user : String)
    {locator : Option Locator} (lacking : lacksTarget locator = true) :
    Unfinished (dialect.target user locator) := by
  cases locator with
  | none => exact Dialect.unfinished_target user fun found member => by cases member
  | some found =>
      by_cases unresolvable : found.IsUnresolvable dialect.framework
      · exact Dialect.unfinished_target user fun other member => by
          obtain rfl := Option.some.inj member
          exact unresolvable
      · obtain ⟨target, resolved, -⟩ := Locator.exists_target_eq_ok unresolvable
        exact Dialect.unfinished_target_of_label user resolved (unfinished_label resolved lacking)

/-- A text that falls back on a marker is unfinished where it is a placeholder. -/
theorem unfinished_getD {text : Option String} (placeholder : isPlaceholder text = true)
    {marker : String} (unfinished : Unfinished marker) :
    Unfinished ((filled text).getD marker) := by
  cases present : filled text with
  | none => exact unfinished
  | some value => exact (isPlaceholder_iff text).mp placeholder value present

/-- An assertion of a known kind in which an error is found becomes a check of an unfinished
text. -/
theorem exists_unfinished_of_assertionErrors (dialect : Dialect) {number : Nat}
    {assertion : Assertion} {kind : AssertionKind} (known : assertion.kind? = some kind)
    (found : assertionErrors number (some assertion) ≠ []) :
    ∃ text ∈ (dialect.assertionStatement assertion).shown, Unfinished text := by
  rw [assertionErrors] at found
  simp only [needsValue, known] at found
  rw [Dialect.assertionStatement]
  simp only [known]
  cases kind with
  | urlContains =>
      have placeholder : isPlaceholder assertion.value = true := by simpa using found
      exact ⟨_, List.mem_singleton.mpr rfl, unfinished_getD placeholder
        (unfinished_unspecified (by decide) (by decide))⟩
  | element check =>
      by_cases absent : assertion.locator.isNone = true
      · have lacking : Locator.IsLacking dialect.framework assertion.locator := by
          rw [Option.isNone_iff_eq_none.mp absent]
          exact fun other member => by cases member
        refine ⟨_, ?_, Dialect.unfinished_target "assertion" lacking⟩
        simp only [Statement.shown]
        split <;> exact List.mem_cons_self
      · have both : check.needsValue = true ∧ isPlaceholder assertion.value = true := by
          simpa [absent] using found
        have unfinished : Unfinished
            ((filled assertion.value).getD (Marker.unspecified "expected value")) :=
          unfinished_getD both.2 (unfinished_unspecified (by decide) (by decide))
        exact ⟨_, by simp [Statement.shown, both.1], unfinished⟩

/-- A known step in which an error is found becomes a statement that shows an unfinished text. -/
theorem exists_unfinished_of_stepErrors (dialect : Dialect) (base : String) {number : Nat}
    {step : Step} (isKnown : step.IsKnown) (found : stepErrors number step ≠ []) :
    ∃ text ∈ (dialect.statement base step).shown, Unfinished text := by
  obtain ⟨action, known, kinds⟩ := isKnown
  rw [stepErrors] at found
  rw [Dialect.statement]
  simp only [known] at found ⊢
  cases action with
  | goto => exact absurd rfl found
  | fill =>
      by_cases lacking : lacksTarget step.locator = true
      · exact ⟨_, List.mem_cons_self, unfinished_target_of_lacksTarget dialect "fill" lacking⟩
      · have placeholder : isPlaceholder step.text = true := by simpa [lacking] using found
        exact ⟨_, List.mem_cons_of_mem _ (List.mem_singleton.mpr rfl), unfinished_getD placeholder
          (unfinished_unspecified (by decide) (by decide))⟩
  | click =>
      have lacking : lacksTarget step.locator = true := by simpa using found
      exact ⟨_, List.mem_singleton.mpr rfl,
        unfinished_target_of_lacksTarget dialect "click" lacking⟩
  | check =>
      cases given : step.assertion with
      | none =>
          exact ⟨_, List.mem_singleton.mpr rfl,
            unfinished_unspecified (by decide) (by decide)⟩
      | some assertion =>
          obtain ⟨kind, knownKind⟩ := kinds rfl assertion given
          rw [given] at found
          exact exists_unfinished_of_assertionErrors dialect knownKind found

/-- A case of known steps whose code is finished has no errors, if its address can be visited. -/
theorem ofCase_eq_of_not_unfinished {case : TestCase} {dialect : Dialect} {options : RenderOptions}
    {address : Address} (read : Address.read case.heading.baseUrl = .ok address)
    (reachable : address.isReachable = true) (nonempty : case.steps ≠ [])
    (known : ∀ step ∈ case.steps, step.IsKnown)
    {timeout : String} (finished : ¬ Unfinished (dialect.code options case timeout)) :
    ofCase case = .ok ⟨[], warningsOf case.steps⟩ := by
  have address : addressErrors case.heading.baseUrl = .ok [] := by
    have given : case.heading.baseUrl.isEmpty = false := by
      rw [← Bool.not_eq_true, String.isEmpty_iff]
      intro empty
      rw [empty] at read
      cases read
      exact absurd reachable (by decide)
    rw [addressErrors, given, read]
    simp [Except.map, reachable]
  rw [ofCase, address, List.flatMap_eq_nil_iff.mpr]
  · simp [Except.map, nonempty]
  · rintro ⟨step, number⟩ member
    by_contra found
    have inCase : step ∈ case.steps := List.fst_mem_of_mem_zipIdx member
    obtain ⟨text, shown, unfinished⟩ := exists_unfinished_of_stepErrors dialect
      case.heading.baseUrl (known step inCase) found
    exact finished (Dialect.unfinished_code_of_shown inCase shown unfinished)

end Precheck

end PlainScript
