/-
What a catalog does to a resolved case: it moves the fields that are to be filled in from their labels
to the elements that are meant, and changes nothing else.
-/

import PlainScript.Proofs.Catalog.Meant
import PlainScript.Proofs.Resolver.Outline

namespace PlainScript

namespace Catalog

/-- The step fills in the field with this label. -/
def FillsLabel (step : Step) (label : String) : Prop :=
  step.kind? = some .fill ∧ ∃ locator, step.locator = some locator ∧ locator.type = "label" ∧
    locator.value?.getD "" = label

/-- What becomes of a step with these elements. -/
inductive Refines (elements : List Element) (step : Step) : Step → Prop
  | other (apart : ∀ label, ¬ FillsLabel step label) : Refines elements step step
  | unknown {label : String} (fills : FillsLabel step label)
      (missed : IsMeant label elements none) : Refines elements step step
  | placed {label : String} {element : Element} {locator : Locator}
      (fills : FillsLabel step label) (meant : IsMeant label elements (some element))
      (located : element.locator = .ok locator) :
      Refines elements step { step with locator := some locator }

variable {catalog : Catalog} {elements : List Element}

/-- A textual catalog refines every step. -/
theorem IsTextual.exists_refines (textual : catalog.IsTextual)
    (listed : catalog.elements = .ok elements) (step : Step) :
    ∃ refined, catalog.refine step none = .ok refined ∧ Refines elements step refined := by
  rw [Catalog.refine]
  split
  · rename_i locator fill given
    by_cases label : locator.type = "label"
    · have fills : FillsLabel step (locator.value?.getD "") :=
        ⟨fill, locator, given, label, rfl⟩
      rw [if_pos (beq_iff_eq.mpr label)]
      obtain ⟨found, meant, isMeant⟩ := textual.exists_isMeant listed (locator.value?.getD "")
      rw [find, meant]
      cases found with
      | none =>
          have same : { step with locator := some locator } = step := by rw [← given]
          exact ⟨step, congrArg Except.ok same, .unknown fills isMeant⟩
      | some element =>
          obtain ⟨others, same, areTextual⟩ := textual.yields_elements
          obtain rfl : elements = others := Except.ok.inj (listed.symm.trans same)
          obtain ⟨place, located, -⟩ := (areTextual element isMeant.mem).yields_locator
          refine ⟨{ step with locator := some place }, ?_, .placed fills isMeant located⟩
          change (element.locator >>= fun locator => pure (some locator)).map _ = _
          rw [located]
          rfl
    · rw [if_neg (by simpa using label)]
      refine ⟨step, rfl, .other ?_⟩
      rintro text ⟨-, other, same, isLabel, -⟩
      obtain rfl : locator = other := Option.some.inj (given.symm.trans same)
      exact label isLabel
  · rename_i apart
    refine ⟨step, rfl, .other ?_⟩
    rintro text ⟨fill, locator, given, -⟩
    exact apart locator fill given

end Catalog

namespace Resolver

open Catalog

variable {resolver : Resolver} {catalog : Catalog}

/-- The steps that a resolver makes do not depend on its catalog. -/
theorem steps_with_catalog (known : Option Catalog) (text : String) (values : Values)
    (locks : List Lock) :
    { resolver with catalog := known }.steps text values locks =
      resolver.steps text values locks := rfl

theorem resolve_of_error {description baseUrl : String} {values : Values} {locks : List Lock}
    {fault : Regex.Fault}
    (failed : resolver.steps (Lock.strip description) values locks = .error fault) :
    resolver.resolve description values baseUrl locks = .error (.pattern fault) := by
  rw [resolve, failed]
  rfl

/-- Steps are refined one by one. -/
theorem exists_refined (textual : catalog.IsTextual) {elements : List Element}
    (listed : catalog.elements = .ok elements) (steps : List Step) :
    ∃ refined, { resolver with catalog := some catalog }.refine steps = .ok refined ∧
      List.Forall₂ (Refines elements) steps refined := by
  choose change done refines using textual.exists_refines listed
  refine ⟨steps.map change, Except.mapM_eq_ok_iff.mpr ?_, ?_⟩
  · rw [List.forall₂_map_right_iff]
    exact List.forall₂_same.mpr fun step _ => done step
  · rw [List.forall₂_map_right_iff]
    exact List.forall₂_same.mpr fun step _ => refines step

/-- A catalog leaves everything of a case but the places of the fields that are found at a label:
such a field is at the first element that fits the label best, if it fits well enough, or else at a
namesake of the label, or else stays where it was. What cannot be resolved without a catalog cannot
be resolved with one either. -/
theorem resolve_with_catalog (textual : catalog.IsTextual) (description : String)
    (values : Values) (baseUrl : String) (locks : List Lock) :
    ∃ elements, catalog.elements = .ok elements ∧
      (∀ plain, { resolver with catalog := none }.resolve description values baseUrl locks =
          .ok plain →
        ∃ refined, { resolver with catalog := some catalog }.resolve description values baseUrl
            locks = .ok refined ∧
          refined.heading = plain.heading ∧
          List.Forall₂ (Refines elements) plain.steps refined.steps) ∧
      (∀ fault, { resolver with catalog := none }.resolve description values baseUrl locks =
          .error fault →
        { resolver with catalog := some catalog }.resolve description values baseUrl locks =
          .error fault) ∧
      (resolver.tables.AreReadable → ∃ plain,
        { resolver with catalog := none }.resolve description values baseUrl locks =
          .ok plain) := by
  obtain ⟨elements, listed, -⟩ := textual.yields_elements
  refine ⟨elements, listed, ?_⟩
  cases made : resolver.steps (Lock.strip description) values locks with
  | error fault =>
      have failed (known : Option Catalog) : { resolver with catalog := known }.resolve description
          values baseUrl locks = .error (.pattern fault) :=
        resolve_of_error ((steps_with_catalog known _ values locks).trans made)
      rw [failed, failed]
      refine ⟨nofun, fun _ same => same, fun readable => ?_⟩
      obtain ⟨outline, -, done⟩ := exists_steps readable (Lock.strip description) values locks
      rw [made] at done
      cases done
  | ok steps =>
      obtain ⟨refined, changed, refines⟩ := exists_refined textual listed steps
      have plain : { resolver with catalog := none }.resolve description values baseUrl locks =
          .ok ⟨heading description baseUrl, steps⟩ :=
        resolve_of_steps ((steps_with_catalog none _ values locks).trans made) rfl
      have placed : { resolver with catalog := some catalog }.resolve description values baseUrl
          locks = .ok ⟨heading description baseUrl, refined⟩ :=
        resolve_of_steps ((steps_with_catalog (some catalog) _ values locks).trans made) changed
      rw [plain, placed]
      refine ⟨?_, nofun, fun _ => ⟨_, rfl⟩⟩
      intro case same
      obtain rfl := Except.ok.inj same
      exact ⟨_, rfl, rfl, refines⟩

/-- Two pages: two fields that fit "Username" equally well, and a field for passwords behind
something that is none. -/
def fieldCatalog : Catalog := ⟨[
  ("login", .list [.ofTexts [("name", "username"), ("id", "user")],
    .ofTexts [("name", "username"), ("id", "late")]]),
  ("more", .list [.ofTexts [("tag", "div"), ("id", "pwd")],
    .ofTexts [("tag", "input"), ("id", "pwd_2")]])]⟩

/-- The user name is typed into the first of the fields that fit, and the password into a namesake. -/
theorem resolve_with_catalog_login :
    fieldCatalog.IsTextual ∧ ∃ elements plain refined,
      fieldCatalog.elements = .ok elements ∧
      ({ catalog := none } : Resolver).resolve "login" ⟨some "ann", some "x1", none, none, none, none,
        none⟩ "" [] = .ok plain ∧
      ({ catalog := some fieldCatalog } : Resolver).resolve "login" ⟨some "ann", some "x1", none,
        none, none, none, none⟩ "" [] = .ok refined ∧
      refined.heading = plain.heading ∧ List.Forall₂ (Refines elements) plain.steps refined.steps ∧
      refined.steps.filterMap Step.locator = [.plain "id" (by decide) (some "user"),
        .plain "id" (by decide) (some "pwd_2"), .role (some "button") (some "Login")] := by
  have textual : fieldCatalog.IsTextual := by
    have item (fields : List (String × String)) : Element.IsTextual ⟨.ofTexts fields⟩ := by
      refine ⟨_, rfl, fun entry member => ?_⟩
      obtain ⟨field, inside, rfl⟩ := List.mem_map.mp member
      obtain ⟨text, -, rfl⟩ := List.mem_map.mp inside
      rfl
    intro page member
    rcases List.mem_pair.mp member with rfl | rfl
    all_goals
      refine ⟨_, rfl, ?_⟩
      rintro definition inside
      rcases List.mem_pair.mp inside with rfl | rfl
      · exact item _
      · exact item _
  obtain ⟨elements, listed, kept, -, resolves⟩ := @resolve_with_catalog {} fieldCatalog textual "login"
    ⟨some "ann", some "x1", none, none, none, none, none⟩ "" []
  obtain ⟨plain, done⟩ := resolves Tables.areReadable_usual
  obtain ⟨refined, placed, same, refines⟩ := kept plain done
  refine ⟨textual, elements, plain, refined, listed, done, placed, same, refines, ?_⟩
  have found : (({ catalog := some fieldCatalog } : Resolver).resolve "login" ⟨some "ann", some "x1",
      none, none, none, none, none⟩ "" []).map (fun case => case.steps.filterMap Step.locator) =
      .ok [.plain "id" (by decide) (some "user"), .plain "id" (by decide) (some "pwd_2"),
        .role (some "button") (some "Login")] := by
    decide +kernel
  rw [placed] at found
  exact Except.ok.inj found

end Resolver

end PlainScript
