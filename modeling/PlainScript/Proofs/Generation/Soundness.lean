/-
The soundness of a strict success: the code is the rendering of the case, shows every value of
the instruction, and holds nothing that was never filled in. It can be run: the check of the code lets
no case through that the check before a run turns back.
-/

import PlainScript.Proofs.Generation.Success
import PlainScript.Proofs.Resolver.Resolve

namespace PlainScript

/-- Every annotation of a known type holds. -/
theorem Lock.isLocked_of_mem_ofText {text : String} {lock : Lock}
    (member : lock ∈ Lock.ofText text) : lock.isLocked = true := by
  obtain ⟨entry, _, made⟩ := List.mem_filterMap.mp member
  obtain ⟨type, _, rfl⟩ := Option.map_eq_some_iff.mp made
  rfl

/-- Only fields with some text have a value. -/
theorem Values.ne_empty_of_mem_toList {values : Values} {value : String × String}
    (member : value ∈ values.toList) : value.2 ≠ "" := by
  obtain ⟨field, _, made⟩ := List.mem_filterMap.mp member
  obtain ⟨text, kept, rfl⟩ := Option.map_eq_some_iff.mp made
  simpa [String.isEmpty_iff] using (Option.filter_eq_some_iff.mp kept).2

/-- Lock values that count are values of locks that hold. -/
theorem Strict.mem_lockValues {locks : List Lock} {lock : Lock} (member : lock ∈ locks)
    (locked : lock.isLocked = true) (type : lock.type ≠ .assertionType)
    (nonempty : lock.value ≠ "") :
    ("locked " ++ lock.type.name, lock.value) ∈ lockValues locks := by
  refine List.mem_map.mpr ⟨lock, List.mem_filter.mpr ⟨member, ?_⟩, rfl⟩
  simp [locked, type, nonempty]

namespace Generation

/-- What a generation without errors promises of an instruction and its options. -/
structure IsSound (generation : Generation) (instruction : String) (options : RenderOptions) :
    Prop where
  rendering : ∃ case generated, generation.case? = some case ∧
    render case options = .ok generated ∧ generation.code = generated.code
  extracted : generation.values = (Extraction.extract instruction).toList
  valuesShown : ∀ value ∈ generation.values,
    (∀ c ∈ value.2.toList, Text.isBlank c = false) → Strict.ShownIn generation.code value.2
  locksShown : ∀ lock ∈ Lock.ofText instruction, lock.type ≠ .assertionType → lock.value ≠ "" →
    (∀ c ∈ lock.value.toList, Text.isBlank c = false) → Strict.ShownIn generation.code lock.value
  resolved : Text.contains generation.code Unresolved.tag = false
  finished : ¬ Marker.Stands generation.code.toList
  locksFilled : ∀ lock ∈ Lock.ofText instruction, lock.value ≠ "" ∧
    Text.contains lock.value "<" = false ∧ Text.contains lock.value "TODO" = false

end Generation

namespace Generator

variable {generator : Generator} {text instruction baseUrl : String} {options : RenderOptions}
  {case : TestCase} {generated : GeneratedCode}

/-- The code of a generation that passes is finished. -/
theorem Passes.not_unfinished
    (passes : generator.Passes instruction baseUrl options case generated) :
    ¬ Strict.Unfinished generated.code := by
  have gapless := (Verdict.problems_eq_nil_iff _).mp passes.checked |>.1
  rwa [Strict.gaps_verdict, Strict.gaps_eq_nil_iff] at gapless

/-- The code of a generation that passes is the code of the dialect that was asked for. -/
theorem Passes.exists_dialect
    (passes : generator.Passes instruction baseUrl options case generated) :
    ∃ dialect timeout, Dialect.find options.framework options.language = .ok dialect ∧
      generated.code = dialect.code options case timeout ∧
      ¬ Strict.Unfinished (dialect.code options case timeout) := by
  obtain ⟨dialect, found⟩ := exists_dialect_of_render passes.rendered
  obtain ⟨timeout, -, written⟩ := exists_code_of_render found passes.rendered
  exact ⟨dialect, timeout, found, written, written ▸ passes.not_unfinished⟩

/-- An instruction without early problems has its locks filled in. -/
theorem incomplete_eq_nil_of_early (strict : generator.isStrict = true) {locks : List Lock}
    (early : generator.earlyProblems instruction locks = []) :
    (Strict.incomplete locks).gaps = [] := by
  rw [earlyProblems, if_pos strict, List.append_eq_nil_iff] at early
  exact ((Verdict.problems_eq_nil_iff _).mp early.2).1

/-- A generation that passes every stage is sound. -/
theorem Passes.isSound (strict : generator.isStrict = true)
    (passes : generator.Passes instruction baseUrl options case generated) :
    (generator.success instruction options case generated).IsSound instruction options := by
  have values : (generator.success instruction options case generated).values =
      (Extraction.extract instruction).toList := by
    rw [success, Generation.withCode_values, started_values]
  have present := Strict.missing_eq_nil_of_verdict
    ((Verdict.problems_eq_nil_iff _).mp passes.checked).2
  have filled := (Strict.incomplete_gaps_eq_nil_iff _).mp
    (incomplete_eq_nil_of_early strict passes.early)
  refine
    { rendering := ⟨case, generated, ?_, passes.rendered, rfl⟩
      extracted := values
      valuesShown := fun value member unbroken => ?_
      locksShown := fun lock member type nonempty unbroken => ?_
      resolved := ?_
      finished := fun marked => passes.not_unfinished (.inr marked)
      locksFilled := fun lock member => filled lock member (Lock.isLocked_of_mem_ofText member) }
  · rw [success, Generation.withCode, started]
  · rw [values] at member
    exact Strict.shownIn_of_missing_eq_nil present.1 member (Values.ne_empty_of_mem_toList member)
      unbroken
  · exact Strict.shownIn_of_missing_eq_nil present.2
      (Strict.mem_lockValues member (Lock.isLocked_of_mem_ofText member) type nonempty) nonempty
      unbroken
  · rw [Text.contains_eq_false_iff]
    exact fun tagged => passes.not_unfinished (.inl tagged)

/-- A strict generation without errors is sound for the instruction it was made of. -/
theorem isSound_of_generate {generation : Generation} (strict : generator.isStrict = true)
    (done : generator.generate text baseUrl options = .ok generation)
    (clean : generation.errors = []) :
    generation.IsSound (generator.substitute text) options := by
  obtain ⟨case, generated, passes, rfl⟩ := (generate_eq_ok_iff strict generation).mp
    ⟨done, (Generation.errors_eq_nil_iff generation).mp clean⟩
  exact passes.isSound strict

/-- The sample shows its address and its lock. -/
theorem isSound_sampleText :
    ∃ generation, ({} : Generator).generate sampleText "http://a" sampleOptions = .ok generation ∧
      generation.errors = [] ∧ generation.IsSound sampleText sampleOptions := by
  obtain ⟨generation, done, clean⟩ := exists_generate_sampleText
  exact ⟨generation, done, clean, isSound_of_generate rfl done clean⟩

/-- The case of a generation that passes every stage has no errors. -/
theorem Passes.ofCase_eq {case : TestCase} {generated : GeneratedCode}
    (passes : generator.Passes instruction baseUrl options case generated)
    (types : Resolver.KnownTypes (Lock.ofText instruction)) {address : Address}
    (read : Address.read baseUrl = .ok address) (reachable : address.isReachable = true) :
    Precheck.ofCase case = .ok ⟨[], Precheck.warningsOf case.steps⟩ := by
  obtain ⟨sameUrl, nonempty, known⟩ := Resolver.isKnown_of_resolve types passes.resolved
  obtain ⟨dialect, _, -, -, finished⟩ := passes.exists_dialect
  exact Precheck.ofCase_eq_of_not_unfinished (sameUrl ▸ read) reachable nonempty known finished

/-- A strict generation without errors for an address that can be visited yields a valid case, if
every lock of an assertion type means a known kind. -/
theorem isValid_of_generate {generation : Generation} (strict : generator.isStrict = true)
    (done : generator.generate text baseUrl options = .ok generation)
    (clean : generation.errors = [])
    (types : Resolver.KnownTypes (Lock.ofText (generator.substitute text))) {address : Address}
    (read : Address.read baseUrl = .ok address) (reachable : address.isReachable = true) :
    ∃ case check, generation.case? = some case ∧ Precheck.ofCase case = .ok check ∧
      check.errors = [] ∧ check.isValid = true := by
  obtain ⟨case, generated, passes, rfl⟩ := (generate_eq_ok_iff strict generation).mp
    ⟨done, (Generation.errors_eq_nil_iff generation).mp clean⟩
  refine ⟨case, _, ?_, passes.ofCase_eq types read reachable, rfl, rfl⟩
  rw [success, Generation.withCode, started]

/-- The case of the sample can be run. -/
theorem isValid_sampleText :
    ∃ generation case check,
      ({} : Generator).generate sampleText "http://a" sampleOptions = .ok generation ∧
        generation.case? = some case ∧ Precheck.ofCase case = .ok check ∧ check.errors = [] ∧
        check.isValid = true := by
  obtain ⟨generation, done, clean⟩ := exists_generate_sampleText
  have locked : Lock.ofText sampleText = [⟨.value, "value", "b", true⟩] := addressSample.locked
  have types : Resolver.KnownTypes (Lock.ofText sampleText) := by
    rw [locked]
    simp [Resolver.KnownTypes]
  have read : Address.read "http://a" = .ok ⟨"http", "a"⟩ := by decide +kernel
  obtain ⟨case, check, same, checked, valid⟩ :=
    isValid_of_generate rfl done clean types read (by decide)
  exact ⟨generation, case, check, done, same, checked, valid⟩

end Generator

end PlainScript
