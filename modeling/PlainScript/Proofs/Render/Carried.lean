/-
Values that steps carry into code: the line of a complete step shows the value that the step visits,
types, clicks or expects.
-/

import PlainScript.Proofs.Render.Live

namespace PlainScript

/-- The code of the assertion compares with its value. -/
def Assertion.comparesValue (assertion : Assertion) : Bool :=
  match assertion.kind? with
  | some .urlContains => true
  | some (.element check) => check.needsValue
  | none => false

/-- The step carries the value: it visits it, types it, clicks what has it for a name or expects
it. -/
inductive Step.Carries (step : Step) (value : String) : Prop where
  | visited (kind : step.kind? = some .goto) (given : step.path = some value)
  | typed (kind : step.kind? = some .fill) (given : step.text = some value)
  | clicked (kind : step.kind? = some .click) (ariaRole : Option String)
      (given : step.locator = some (.role ariaRole (some value)))
  | expected (kind : step.kind? = some .check) (assertion : Assertion)
      (given : step.assertion = some assertion) (compared : assertion.comparesValue = true)
      (wanted : assertion.value = some value)

variable {step : Step} {value : String}

/-- A step that carries a value is of known action, and so is the assertion that it checks. -/
theorem Step.Carries.isKnown (carries : step.Carries value) : step.IsKnown := by
  cases carries with
  | visited kind => exact ⟨.goto, kind, nofun⟩
  | typed kind => exact ⟨.fill, kind, nofun⟩
  | clicked kind => exact ⟨.click, kind, nofun⟩
  | expected kind assertion given compared =>
      refine ⟨.check, kind, fun _ other same => ?_⟩
      obtain rfl : assertion = other := Option.some.inj (given.symm.trans same)
      refine Option.ne_none_iff_exists'.mp fun unknown => ?_
      rw [Assertion.comparesValue, unknown] at compared
      cases compared

/-- A text that is not missing is filled in. -/
theorem filled_eq_of_ne_none (present : filled (some value) ≠ none) :
    filled (some value) = some value := by
  obtain ⟨text, same⟩ := Option.ne_none_iff_exists'.mp present
  obtain ⟨⟨rfl⟩, -⟩ := (filled_eq_some_iff _ _).mp same
  exact same

/-- Where a path leads shows the path, unless slashes in front of it become one. -/
theorem shows_targetUrl (base : String) {path : String}
    (single : ¬ ['/', '/'] <+: path.toList) : Literal.Shows (targetUrl base path) path := by
  have joined : Literal.Shows (joinUrl base path) path := by
    refine Literal.Shows.of_infix_toList ?_
    have whole : (joinUrl base path).toList =
        (dropLastSlashes base).toList ++ '/' :: path.toList.dropWhile (· == '/') := by
      simp [joinUrl, dropSlashes]
    rw [whole]
    cases same : path.toList with
    | nil => exact List.nil_infix
    | cons c rest =>
        by_cases slash : c = '/'
        · subst slash
          have kept : rest.dropWhile (· == '/') = rest := by
            cases rest with
            | nil => rfl
            | cons d rest =>
                refine List.dropWhile_cons_of_neg fun again => single ?_
                rw [same, eq_of_beq again]
                exact List.prefix_append ['/', '/'] rest
          rw [List.dropWhile_cons_of_pos (by rfl), kept]
          exact (List.suffix_append _ _).isInfix
        · rw [List.dropWhile_cons_of_neg (by simpa using slash)]
          exact ((List.suffix_cons _ _).trans (List.suffix_append _ _)).isInfix
  rw [targetUrl]
  split
  · exact .refl path
  · split
    · exact joined
    · exact .refl path

namespace Dialect

variable {dialect : Dialect}

/-- The element that is clicked by its name is looked up by a text that shows the name. -/
theorem shows_target_role (user : String) {ariaRole : Option String}
    (complete : ¬ (Locator.role ariaRole (some value)).IsUnresolvable dialect.framework) :
    Literal.Shows (dialect.target user (some (.role ariaRole (some value)))) value := by
  simp only [Locator.IsUnresolvable, not_or] at complete
  obtain ⟨word, present⟩ := Option.ne_none_iff_exists'.mp complete.1
  have named := filled_eq_of_ne_none complete.2
  have resolved : (Locator.role ariaRole (some value)).target = .ok (.role word value) := by
    simp only [Locator.target, present, named]
  rcases dialect.shows_or_unfinished_target user resolved with shows | ⟨-, ⟨cause, failed⟩, -⟩
  · exact shows
  · cases failed

/-- The statement of a complete step shows the value that the step carries. -/
theorem exists_shown_of_carries (base : String)
    (complete : ¬ step.IsIncomplete dialect.framework) (carries : step.Carries value)
    (single : step.kind? = some .goto → ¬ ['/', '/'] <+: value.toList) :
    ∃ text ∈ (dialect.statement base step).shown, Literal.Shows text value := by
  rw [Step.IsIncomplete] at complete
  rw [statement]
  cases carries with
  | visited kind given =>
      simp only [kind, given] at complete ⊢
      rw [filled_eq_of_ne_none complete]
      exact ⟨_, List.mem_singleton.mpr rfl, shows_targetUrl base (single kind)⟩
  | typed kind given =>
      simp only [kind, given, not_or] at complete ⊢
      rw [filled_eq_of_ne_none complete.2]
      exact ⟨value, by simp [Statement.shown], .refl value⟩
  | clicked kind ariaRole given =>
      simp only [kind, given] at complete ⊢
      obtain ⟨found, ⟨rfl⟩, resolvable⟩ := exists_of_not_isLacking complete
      exact ⟨_, List.mem_singleton.mpr rfl, shows_target_role "click" resolvable⟩
  | expected kind assertion given compared wanted =>
      simp only [kind, given, Option.mem_some_iff, forall_eq'] at complete ⊢
      rw [Assertion.IsIncomplete] at complete
      rw [Assertion.comparesValue] at compared
      rw [assertionStatement]
      cases known : assertion.kind? with
      | none => simp [known] at compared
      | some kind =>
          simp only [known, wanted] at complete compared ⊢
          cases kind with
          | urlContains =>
              rw [filled_eq_of_ne_none complete]
              exact ⟨value, List.mem_singleton.mpr rfl, .refl value⟩
          | element check =>
              simp only [not_or, not_and] at complete compared
              rw [filled_eq_of_ne_none (complete.2 compared)]
              exact ⟨value, by simp [Statement.shown, compared], .refl value⟩

/-- A plain value stands in the line of the complete step that carries it. -/
theorem infix_line_of_carries (base : String)
    (complete : ¬ step.IsIncomplete dialect.framework) (carries : step.Carries value)
    (single : step.kind? = some .goto → ¬ ['/', '/'] <+: value.toList)
    (plain : Literal.isPlain value.toList = true) :
    value.toList <:+: (dialect.line (dialect.statement base step)).toList := by
  obtain ⟨text, shown, shows⟩ := exists_shown_of_carries base complete carries single
  exact (dialect.shows_line shown).trans shows _ plain List.infix_rfl

end Dialect

end PlainScript
