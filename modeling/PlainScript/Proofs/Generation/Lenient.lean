/-
Legacy mode takes nothing back: an instruction with a strict success has the same result in both
modes. The modes differ in credentials that are left out, and a marker in the place of one never
passes the strict check.
-/

import PlainScript.Proofs.Generation.Soundness
import PlainScript.Proofs.Resolver.Credentials

namespace PlainScript

open Strict

namespace Resolver

variable {resolver : Resolver} {text : String} {values : Values} {locks : List Lock}

/-- No step types an unfinished text. -/
def TypesFinished (steps : List Step) : Prop :=
  ∀ step ∈ steps, step.kind? = some .fill → ∀ typed ∈ step.text, ¬ Unfinished typed

/-- The same resolver in legacy mode. -/
def lenient (resolver : Resolver) : Resolver := { resolver with strictness := .legacy }

/-- A text without a marker comes from the same source in legacy mode. -/
theorem Provides.lenient {credential : Credential} {value : Option String} {typed : String}
    (provided : resolver.Provides credential value typed) (specified : ¬ Unfinished typed) :
    resolver.lenient.Provides credential value typed := by
  cases provided with
  | given here nonempty => exact .given here nonempty
  | testData absent here nonempty => exact .testData absent here nonempty
  | marker absent unknown strict =>
      refine absurd ?_ specified
      cases credential <;> exact unfinished_unspecified (by decide) (by decide)
  | usual absent unknown legacy => exact .usual absent unknown rfl

theorem fillCredential_lenient {credential : Credential} {value : Option String}
    (specified : ¬ Unfinished (resolver.credentialText credential value)) :
    resolver.lenient.fillCredential credential value =
      resolver.fillCredential credential value := by
  have same := (resolver.provides_credentialText credential value).lenient specified
  rw [fillCredential, fillCredential, ← same.eq_credentialText]

/-- The steps make no use of the mode but for credentials without a value. -/
theorem credentialSteps_lenient {steps : List Step}
    (done : resolver.credentialSteps text values locks = .ok steps)
    (specified : TypesFinished steps) :
    resolver.lenient.credentialSteps text values locks = .ok steps := by
  rw [credentialSteps_eq] at done ⊢
  obtain ⟨about, decided, made⟩ := Except.exists_of_map_eq_ok done
  have sameAbout : resolver.lenient.aboutLogin text values = .ok about := decided
  rw [sameAbout, ← made]
  cases about with
  | false => rfl
  | true =>
      subst made
      have username := specified _ List.mem_cons_self rfl _ rfl
      have password := specified _ (List.mem_cons_of_mem _ List.mem_cons_self) rfl _ rfl
      rw [fillCredential_lenient username, fillCredential_lenient password]
      rfl

theorem steps_lenient {steps : List Step} (done : resolver.steps text values locks = .ok steps)
    (specified : TypesFinished steps) :
    resolver.lenient.steps text values locks = .ok steps := by
  rw [Resolver.steps] at done
  obtain ⟨path, pathMade, done⟩ := Except.exists_of_bind_eq_ok done
  obtain ⟨credentials, credentialsMade, done⟩ := Except.exists_of_bind_eq_ok done
  obtain ⟨clicks, clicksMade, done⟩ := Except.exists_of_bind_eq_ok done
  obtain ⟨assertion, assertionMade, done⟩ := Except.exists_of_bind_eq_ok done
  obtain rfl := Except.ok.inj done
  have samePath : resolver.lenient.path text values locks = .ok path := pathMade
  have sameClicks : resolver.lenient.clickSteps text values = .ok clicks := clicksMade
  have sameAssertion : resolver.lenient.assertion? text values locks = .ok assertion :=
    assertionMade
  have sameCredentials := credentialSteps_lenient credentialsMade fun step member =>
    specified step (by simp [member])
  rw [Resolver.steps, samePath, sameCredentials, sameClicks, sameAssertion]
  rfl

/-- A case in which no marker is typed is resolved to in both modes. -/
theorem resolve_lenient {description baseUrl : String} {case : TestCase}
    (done : resolver.resolve description values baseUrl locks = .ok case)
    (specified : TypesFinished case.steps) :
    resolver.lenient.resolve description values baseUrl locks = .ok case := by
  rw [resolve] at done
  obtain ⟨steps, made, done⟩ := Except.exists_of_bind_eq_ok done
  obtain ⟨refined, changed, done⟩ := Except.exists_of_bind_eq_ok done
  obtain rfl := Except.ok.inj done
  have relocated := forall₂_isRelocated_of_refine (Except.mapError_eq_ok_iff.mp changed)
  have unmarked : TypesFinished steps := by
    intro step member fills
    obtain ⟨after, inside, locator, rfl⟩ := exists_related_of_mem relocated member
    exact specified { step with locator } inside fills
  have sameSteps := steps_lenient (Except.mapError_eq_ok_iff.mp made) unmarked
  have sameRefined : (resolver.lenient.refine steps).mapError Fault.catalog = .ok refined :=
    changed
  rw [resolve, sameSteps]
  change ((resolver.lenient.refine steps).mapError Fault.catalog >>= _) = _
  rw [sameRefined]
  rfl

end Resolver

namespace Generator

variable {generator : Generator} {text instruction baseUrl : String} {options : RenderOptions}
  {case : TestCase} {generated : GeneratedCode}

/-- The same generator in legacy mode. -/
def lenient (generator : Generator) : Generator :=
  { generator with resolver := generator.resolver.lenient }

theorem isStrict_lenient (generator : Generator) : generator.lenient.isStrict = false := rfl

theorem substitute_lenient (generator : Generator) (text : String) :
    generator.lenient.substitute text = generator.substitute text := rfl

/-- Whatever is found early in legacy mode is found early in strict mode. -/
theorem earlyProblems_lenient_eq_nil {locks : List Lock}
    (early : generator.earlyProblems instruction locks = []) :
    generator.lenient.earlyProblems instruction locks = [] := by
  rw [earlyProblems, List.append_eq_nil_iff] at early
  rw [earlyProblems, isStrict_lenient, if_neg Bool.false_ne_true, List.append_nil]
  exact early.1

/-- The steps of a generation that passes type no marker. -/
theorem Passes.typesFinished
    (passes : generator.Passes instruction baseUrl options case generated) :
    Resolver.TypesFinished case.steps := by
  intro step member fills typed given unfinished
  obtain ⟨dialect, _, -, -, finished⟩ := passes.exists_dialect
  refine finished (Dialect.unfinished_code_of_shown member ?_ unfinished)
  have present : filled step.text = some typed :=
    (filled_eq_some_iff _ _).mpr ⟨given, unfinished.ne_empty⟩
  simp [Dialect.statement, fills, present, Statement.shown]

/-- Without early problems nothing is noticed early that is not noticed in strict mode. -/
theorem started_lenient (early : generator.earlyProblems instruction (Lock.ofText instruction) = [])
    (strict : generator.isStrict = true) :
    generator.lenient.started instruction options case =
      generator.started instruction options case := by
  have notices : generator.lenient.earlyNotices instruction =
      generator.earlyNotices instruction := by
    rw [earlyNotices, earlyNotices, earlyProblems_lenient_eq_nil early, isStrict_lenient, strict]
    rfl
  rw [started, started, notices]

/-- In legacy mode the code of the case is kept, whatever it is. -/
theorem finish_lenient (rendered : render case options = .ok generated) (locks : List Lock)
    (started : Generation) :
    generator.lenient.finish instruction locks case options started =
      .ok { started.withCode case generated with
        notices := (started.withCode case generated).notices ++
          [.unchecked case.heading.name] } := by
  rw [finish, rendered]
  dsimp only
  rw [conclude, isStrict_lenient]
  rfl

/-- Legacy mode gives the result of a strict success, with a notice that nothing was checked. -/
theorem generate_lenient_eq (strict : generator.isStrict = true) {generation : Generation}
    (done : generator.generate text baseUrl options = .ok generation)
    (clean : generation.errors = []) :
    generator.lenient.generate text baseUrl options =
      .ok { generation with
        notices := generation.notices ++ [.unchecked generation.testName] } := by
  obtain ⟨case, generated, passes, rfl⟩ := (generate_eq_ok_iff strict generation).mp
    ⟨done, (Generation.errors_eq_nil_iff generation).mp clean⟩
  have resolved : generator.lenient.resolver.resolve (generator.substitute text)
      (Extraction.extract (generator.substitute text)) baseUrl
      (Lock.ofText (generator.substitute text)) = .ok case :=
    Resolver.resolve_lenient passes.resolved passes.typesFinished
  rw [generate_eq_of_early (earlyProblems_lenient_eq_nil passes.early), substitute_lenient,
    resolved]
  change generator.lenient.finish _ _ case options
    (generator.lenient.started _ options case) = _
  rw [finish_lenient passes.rendered, started_lenient passes.early strict]
  rfl

/-- Whatever succeeds in strict mode succeeds in legacy mode, with the same code, case, steps and
values. -/
theorem exists_generate_lenient (strict : generator.isStrict = true) {generation : Generation}
    (done : generator.generate text baseUrl options = .ok generation)
    (clean : generation.errors = []) :
    ∃ relaxed, generator.lenient.generate text baseUrl options = .ok relaxed ∧
      relaxed.errors = [] ∧ relaxed.code = generation.code ∧ relaxed.case? = generation.case? ∧
      relaxed.checklist = generation.checklist ∧ relaxed.values = generation.values :=
  ⟨_, generate_lenient_eq strict done clean, clean, rfl, rfl, rfl, rfl⟩

/-- The sample has the same result in legacy mode. -/
theorem exists_generate_lenient_sampleText :
    ∃ generation relaxed,
      ({} : Generator).generate sampleText "http://a" sampleOptions = .ok generation ∧
        generation.errors = [] ∧
        ({} : Generator).lenient.generate sampleText "http://a" sampleOptions = .ok relaxed ∧
        relaxed.errors = [] ∧ relaxed.code = generation.code := by
  obtain ⟨generation, done, clean⟩ := exists_generate_sampleText
  obtain ⟨relaxed, again, relaxedClean, code, -⟩ := exists_generate_lenient rfl done clean
  exact ⟨generation, relaxed, done, clean, again, relaxedClean, code⟩

end Generator

end PlainScript
