/-
What resolution makes of an instruction: steps with known actions and assertions of known kinds,
the first of them a visit.
-/

import PlainScript.Proofs.Computation
import PlainScript.Proofs.Run.Precheck
import PlainScript.Resolver.Resolve

namespace PlainScript

theorem Step.isKnown_goto (path : String) : (Step.goto path).IsKnown := ⟨.goto, rfl, nofun⟩

theorem Step.isKnown_fill (locator : Locator) (text : String) : (Step.fill locator text).IsKnown :=
  ⟨.fill, rfl, nofun⟩

theorem Step.isKnown_click (locator : Locator) : (Step.click locator).IsKnown :=
  ⟨.click, rfl, nofun⟩

theorem Step.isKnown_check {assertion : Assertion} {kind : AssertionKind}
    (known : assertion.kind? = some kind) : (Step.check assertion).IsKnown :=
  ⟨.check, rfl, fun _ other member => by
    obtain rfl := Option.some.inj member
    exact ⟨kind, known⟩⟩

namespace Resolver

variable {resolver : Resolver} {text : String} {values : Values} {locks : List Lock}

/-- A locked text is the value of a lock of its type. -/
theorem exists_lock_of_locked? {type : LockType} {words : String}
    (locked : locked? locks type = some words) :
    ∃ lock ∈ locks, lock.type = type ∧ lock.value = words := by
  obtain ⟨given, -⟩ := (filled_eq_some_iff _ _).mp locked
  obtain ⟨lock, found, same⟩ := Option.map_eq_some_iff.mp given
  have member := List.mem_of_find?_eq_some found
  have typed := List.find?_some found
  exact ⟨lock, List.mem_reverse.mp member, by simpa using typed, same⟩

theorem isKnown_of_mem_credentialSteps {steps : List Step}
    (done : resolver.credentialSteps text values locks = .ok steps) :
    ∀ step ∈ steps, step.IsKnown := by
  rw [credentialSteps] at done
  split at done
  all_goals
    obtain ⟨about, -, made⟩ := Except.exists_of_bind_eq_ok done
    cases about <;> cases made <;> simp [fillCredential, Step.isKnown_fill]

theorem isKnown_of_mem_emailSteps : ∀ step ∈ emailSteps values, step.IsKnown := by
  simp [emailSteps, Step.isKnown_fill]

theorem isKnown_of_mem_clickSteps {steps : List Step}
    (done : resolver.clickSteps text values = .ok steps) : ∀ step ∈ steps, step.IsKnown := by
  rw [clickSteps] at done
  split at done
  · obtain ⟨name, -, made⟩ := Except.exists_of_bind_eq_ok done
    cases made
    simp [Step.isKnown_click]
  · cases done
    simp

theorem kind?_containsText (locator : Option Locator) (value : Option String) :
    Assertion.kind? ⟨"containsText", locator, value⟩ = some (.element .containsText) := rfl

theorem kind?_urlContains (value : String) : (urlContains value).kind? = some .urlContains := rfl

theorem kind?_isVisible (locator : Locator) :
    (isVisible locator).kind? = some (.element .visible) := rfl

/-- The cues ask for assertions of known kinds. -/
theorem exists_kind_of_cuedAssertion? {tables : Tables} {assertion : Assertion}
    (done : cuedAssertion? tables text = .ok (some assertion)) :
    ∃ kind, assertion.kind? = some kind := by
  rw [cuedAssertion?] at done
  obtain ⟨dashboard, -, done⟩ := Except.exists_of_bind_eq_ok done
  cases dashboard with
  | true => cases done; exact ⟨_, kind?_urlContains _⟩
  | false =>
      obtain ⟨error, -, done⟩ := Except.exists_of_bind_eq_ok done
      cases error with
      | true => cases done; exact ⟨_, kind?_isVisible _⟩
      | false =>
          obtain ⟨success, -, done⟩ := Except.exists_of_bind_eq_ok done
          cases success with
          | true => cases done; exact ⟨_, kind?_isVisible _⟩
          | false =>
              simp only [Bool.false_eq_true, if_false] at done
              split at done
              · cases done; exact ⟨_, kind?_urlContains _⟩
              · cases done

/-- Without a lock of its type an assertion is of a known kind. -/
theorem exists_kind_of_plainAssertion? {assertion : Assertion}
    (done : resolver.plainAssertion? text values locks = .ok (some assertion)) :
    ∃ kind, assertion.kind? = some kind := by
  rw [plainAssertion?] at done
  split at done
  · cases done
    exact ⟨.element .containsText, kind?_containsText _ _⟩
  · cases done
    exact ⟨.urlContains, kind?_urlContains _⟩
  · exact exists_kind_of_cuedAssertion? done

theorem kind?_retyped (assertion : Assertion) (type : String) :
    Assertion.kind? { assertion with type } = AssertionKind.ofName? type := rfl

/-- The step checks an assertion of a type that a lock sets and that is no known kind. -/
def ChecksUnknown (locks : List Lock) (step : Step) : Prop :=
  ∃ words assertion, locked? locks .assertionType = some words ∧
    AssertionKind.ofName? (assertionType words) = none ∧ step.kind? = some .check ∧
    step.assertion = some assertion ∧ assertion.type = assertionType words

/-- An assertion is of a known kind, or else it is checked in a step of a locked type. -/
theorem isKnown_or_checksUnknown_of_assertion? {assertion : Assertion}
    (done : resolver.assertion? text values locks = .ok (some assertion)) :
    (Step.check assertion).IsKnown ∨ ChecksUnknown locks (.check assertion) := by
  obtain ⟨found, plain, made⟩ := Except.exists_of_bind_eq_ok done
  obtain ⟨original, rfl, typed⟩ := Option.map_eq_some_iff.mp (Except.ok.inj made)
  cases locked : locked? locks .assertionType with
  | none =>
      rw [locked] at typed
      obtain rfl : original = assertion := typed
      obtain ⟨kind, known⟩ := exists_kind_of_plainAssertion? plain
      exact .inl (Step.isKnown_check known)
  | some words =>
      simp only [locked] at typed
      subst typed
      rcases Option.eq_none_or_eq_some (AssertionKind.ofName? (assertionType words)) with
        named | ⟨kind, named⟩
      · exact .inr ⟨words, _, locked, named, rfl, rfl, by dsimp only⟩
      · exact .inl (Step.isKnown_check ((kind?_retyped original _).trans named))

/-- Resolution begins with a visit and makes known steps, but for a check of a locked type. -/
theorem isKnown_or_checksUnknown_of_mem_steps {steps : List Step}
    (done : resolver.steps text values locks = .ok steps) :
    steps ≠ [] ∧ ∀ step ∈ steps, step.IsKnown ∨ ChecksUnknown locks step := by
  rw [Resolver.steps] at done
  obtain ⟨path, -, done⟩ := Except.exists_of_bind_eq_ok done
  obtain ⟨credentials, credentialsMade, done⟩ := Except.exists_of_bind_eq_ok done
  obtain ⟨clicks, clicksMade, done⟩ := Except.exists_of_bind_eq_ok done
  obtain ⟨assertion, assertionMade, done⟩ := Except.exists_of_bind_eq_ok done
  obtain rfl := Except.ok.inj done
  refine ⟨List.cons_ne_nil _ _, ?_⟩
  simp only [List.cons_append, List.forall_mem_cons, List.forall_mem_append]
  refine ⟨.inl (Step.isKnown_goto path), ⟨⟨fun step member => .inl ?_, fun step member => .inl ?_⟩,
    fun step member => .inl ?_⟩, ?_⟩
  · exact isKnown_of_mem_credentialSteps credentialsMade step member
  · exact isKnown_of_mem_emailSteps step member
  · exact isKnown_of_mem_clickSteps clicksMade step member
  · intro step member
    obtain ⟨checked, given, rfl⟩ := List.mem_map.mp member
    obtain rfl := Option.mem_toList.mp given
    exact isKnown_or_checksUnknown_of_assertion? assertionMade

/-- A step with another locator, or the same one. -/
def IsRelocated (before after : Step) : Prop := ∃ locator, after = { before with locator }

/-- The catalog changes nothing but locators. -/
theorem isRelocated_of_catalog_refine {catalog : Catalog} {step refined : Step}
    {page : Option String} (done : catalog.refine step page = .ok refined) :
    IsRelocated step refined := by
  rw [Catalog.refine] at done
  split at done
  · split at done
    · obtain ⟨found, -, rfl⟩ := Except.exists_of_map_eq_ok done
      exact ⟨_, rfl⟩
    · cases done
      exact ⟨_, rfl⟩
  · cases done
    exact ⟨_, rfl⟩

/-- Refined steps are the steps before, step by step, up to their locators. -/
theorem forall₂_isRelocated_of_refine {steps refined : List Step}
    (done : resolver.refine steps = .ok refined) : List.Forall₂ IsRelocated steps refined := by
  rw [refine] at done
  split at done
  · exact (Except.mapM_eq_ok_iff.mp done).imp fun _ _ => isRelocated_of_catalog_refine
  · cases done
    exact List.forall₂_same.mpr fun step _ => ⟨step.locator, rfl⟩

/-- What holds of a step wherever its element is holds of all steps after refinement. -/
theorem forall_of_refine {P : Step → Prop}
    (kept : ∀ {before after}, IsRelocated before after → P before → P after)
    {steps refined : List Step} (known : ∀ step ∈ steps, P step)
    (done : resolver.refine steps = .ok refined) : ∀ step ∈ refined, P step := by
  intro step member
  have relocated := forall₂_isRelocated_of_refine done
  obtain ⟨before, inside, changed⟩ :=
    exists_related_of_mem (List.Forall₂.flip (R := flip IsRelocated) relocated) member
  exact kept changed (known before inside)

/-- A resolved case has the given address, and its steps are known but for a check of a locked
type. -/
theorem isKnown_or_checksUnknown_of_resolve {description baseUrl : String} {case : TestCase}
    (done : resolver.resolve description values baseUrl locks = .ok case) :
    case.heading.baseUrl = baseUrl ∧ case.steps ≠ [] ∧
      ∀ step ∈ case.steps, step.IsKnown ∨ ChecksUnknown locks step := by
  rw [resolve] at done
  obtain ⟨steps, made, done⟩ := Except.exists_of_bind_eq_ok done
  obtain ⟨refined, changed, done⟩ := Except.exists_of_bind_eq_ok done
  obtain rfl := Except.ok.inj done
  obtain ⟨nonempty, known⟩ :=
    isKnown_or_checksUnknown_of_mem_steps (Except.mapError_eq_ok_iff.mp made)
  have changed := Except.mapError_eq_ok_iff.mp changed
  have length := (forall₂_isRelocated_of_refine changed).length_eq
  refine ⟨rfl, ?_, forall_of_refine (fun ⟨locator, same⟩ holds => ?_) known changed⟩
  · rwa [← List.length_pos_iff, ← length, List.length_pos_iff]
  · subst same
    exact holds

/-- The locks of assertion types mean known kinds. -/
def KnownTypes (locks : List Lock) : Prop :=
  ∀ lock ∈ locks, lock.type = .assertionType →
    (AssertionKind.ofName? (assertionType lock.value)).isSome = true

theorem KnownTypes.not_checksUnknown (types : KnownTypes locks) (step : Step) :
    ¬ ChecksUnknown locks step := by
  rintro ⟨words, -, locked, unknown, -⟩
  obtain ⟨lock, member, type, rfl⟩ := exists_lock_of_locked? locked
  have known := types lock member type
  rw [unknown] at known
  cases known

/-- A resolved case has the given address, and its steps are known. -/
theorem isKnown_of_resolve {description baseUrl : String} (types : KnownTypes locks)
    {case : TestCase}
    (done : resolver.resolve description values baseUrl locks = .ok case) :
    case.heading.baseUrl = baseUrl ∧ case.steps ≠ [] ∧ ∀ step ∈ case.steps, step.IsKnown := by
  obtain ⟨sameUrl, nonempty, known⟩ := isKnown_or_checksUnknown_of_resolve done
  exact ⟨sameUrl, nonempty, fun step member =>
    (known step member).resolve_right (types.not_checksUnknown step)⟩

end Resolver

end PlainScript
