/-
Test data in generation: which placeholders of an instruction are left after test data are put in,
and which of those are reported. Names that the data know in another spelling are left without a
report.
-/

import PlainScript.Proofs.Generation.Contract
import PlainScript.Proofs.TestData.Placeholder
import PlainScript.TestData.Template

namespace PlainScript.Generator

variable {generator : Generator} {data : TestData} {text baseUrl : String}
  {options : RenderOptions} {generation : Generation}

/-- In strict mode the placeholders are reported that are left and that the data do not know. -/
theorem noTestData_mem_problems_iff (strict : generator.isStrict = true)
    (given : generator.data = some data)
    (done : generator.generate text baseUrl options = .ok generation) (name : String) :
    .noTestData name ∈ generation.problems ↔
      name ∈ Placeholder.names (generator.substitute text) ∧ data.knows name = false := by
  have early : .noTestData name ∈ generator.earlyProblems (generator.substitute text)
      (Lock.ofText (generator.substitute text)) ↔
        name ∈ Placeholder.names (generator.substitute text) ∧ data.knows name = false := by
    simp [earlyProblems, missingData, given, TestData.missing, Verdict.problems, strict]
  rw [← early]
  refine mem_problems_iff_mem_earlyProblems strict (fun _ absurd => by cases absurd)
    (fun code values locks context => ?_) done
  simp [Verdict.problems]

/-- Of the placeholders that are left those are reported that the data do not know. Of a woven
instruction those are left that spell no key of the variables or of the valid data in capitals; so
if the data know names in this spelling only, a placeholder is reported or none is left. -/
theorem noTestData_or_names_eq_nil (strict : generator.isStrict = true)
    (given : generator.data = some data)
    (done : generator.generate text baseUrl options = .ok generation) :
    (∀ name, .noTestData name ∈ generation.problems ↔
        name ∈ Placeholder.names (generator.substitute text) ∧ data.knows name = false) ∧
      ∀ names, Placeholder.Woven names text.toList →
        (∀ entry ∈ data.globals ++ data.entries .valid, TestData.CanFill entry) →
        Placeholder.names (generator.substitute text) =
            (Placeholder.names text).filter (fun name => !data.fills name) ∧
          ((∀ name ∈ Placeholder.names text, data.knows name = true → data.fills name = true) →
            (∃ name, .noTestData name ∈ generation.problems) ∨
              Placeholder.names (generator.substitute text) = []) := by
  have reported := noTestData_mem_problems_iff strict given done
  refine ⟨reported, fun names woven canFill => ?_⟩
  have left : Placeholder.names (generator.substitute text) =
      (Placeholder.names text).filter fun name => !data.fills name := by
    rw [substitute, given]
    exact TestData.names_fill woven canFill
  refine ⟨left, fun spelled => ?_⟩
  by_contra unreported
  rw [not_or, not_exists] at unreported
  obtain ⟨name, member⟩ := List.exists_mem_of_ne_nil _ unreported.2
  have known : data.knows name = true := by
    by_contra unknown
    exact unreported.1 name ((reported name).mpr ⟨member, by simpa using unknown⟩)
  rw [left, List.mem_filter] at member
  simp [spelled name member.1 known] at member

/-! Samples -/

/-- A generator with the demonstration data. -/
def demonstration : Generator := { data := some (.demonstration "https://e.x") }

/-- An instruction that names known data in capitals, and data that are not known. -/
def knownAndUnknown : String :=
  "log in as \x7b\x7bTEST_USERNAME\x7d\x7d with \x7b\x7bAPI_TOKEN\x7d\x7d"

/-- An instruction that names known data in small letters. -/
def knownInSmallLetters : String := "click \"\x7b\x7btest_password\x7d\x7d\""

theorem exists_generate_demonstration (text : String) :
    ∃ generation, demonstration.generate text "" {} = .ok generation :=
  exists_generate_usual Resolver.Tables.areReadable_usual (fun _ absurd => by cases absurd) text ""

/-- A name in capitals is filled in, and a name without data is reported. -/
theorem noTestData_of_unknown_name :
    ∃ generation, demonstration.generate knownAndUnknown "" {} = .ok generation ∧
      .noTestData "API_TOKEN" ∈ generation.problems ∧
      Placeholder.names (demonstration.substitute knownAndUnknown) = ["API_TOKEN"] := by
  obtain ⟨generation, done⟩ := exists_generate_demonstration knownAndUnknown
  obtain ⟨reported, left⟩ := noTestData_or_names_eq_nil rfl rfl done
  have text : knownAndUnknown.toList =
      "log in as ".toList ++ ('{' :: '{' :: "TEST_USERNAME".toList ++ '}' :: '}' ::
        (" with ".toList ++ ('{' :: '{' :: "API_TOKEN".toList ++ '}' :: '}' :: []))) := by
    decide +kernel
  have isName {name : String} (plain : name.toList ≠ [] ∧ '{' ∉ name.toList ∧ '}' ∉ name.toList) :
      Placeholder.IsName name.toList := ⟨plain.1, plain.2.1, plain.2.2⟩
  have woven : Placeholder.Woven ["TEST_USERNAME".toList, "API_TOKEN".toList]
      knownAndUnknown.toList := by
    rw [text]
    exact (Placeholder.woven_of_notMem (by decide +kernel)).append
      (.placeholder (isName (by decide +kernel))
        ((Placeholder.woven_of_notMem (by decide +kernel)).append
          (.placeholder (isName (by decide +kernel)) .nil)))
  have plain : ∀ entry ∈ (TestData.demonstration "https://e.x").globals ++
      (TestData.demonstration "https://e.x").entries .valid,
      '}' ∉ entry.1.toList ∧ '{' ∉ entry.2.toList := by
    decide +kernel
  obtain ⟨names, gate⟩ := left _ woven fun entry member =>
    ⟨(plain entry member).1, Placeholder.woven_of_notMem (plain entry member).2⟩
  have kept : Placeholder.names (demonstration.substitute knownAndUnknown) = ["API_TOKEN"] :=
    names.trans (by decide +kernel)
  obtain ⟨name, problem⟩ := (gate (by decide +kernel)).resolve_right (by simp [kept])
  obtain rfl : name = "API_TOKEN" := by simpa [kept] using ((reported name).mp problem).1
  exact ⟨generation, done, problem, kept⟩

/-- A placeholder whose name is in small letters is left in the instruction, but as the data know
the name it is not reported, and the instruction is resolved. -/
theorem exists_placeholder_in_resolved :
    ∃ generation,
      demonstration.generate knownInSmallLetters "" {} = .ok generation ∧
      generation.case? ≠ none ∧ (∀ name, .noTestData name ∉ generation.problems) ∧
      Placeholder.names (demonstration.substitute knownInSmallLetters) = ["test_password"] := by
  obtain ⟨generation, done⟩ := exists_generate_demonstration knownInSmallLetters
  have left : Placeholder.names (demonstration.substitute knownInSmallLetters) =
      ["test_password"] := by
    decide +kernel
  have known : (TestData.demonstration "https://e.x").knows "test_password" = true := by
    decide +kernel
  have unlocked : Lock.ofText (demonstration.substitute knownInSmallLetters) = [] := by
    decide +kernel
  have complete :
      ¬ demonstration.LacksInput (demonstration.substitute knownInSmallLetters) := by
    rintro (⟨data, ⟨rfl⟩, name, member, unknown⟩ | ⟨lock, member, -⟩)
    · rw [left, List.mem_singleton] at member
      rw [member, known] at unknown
      cases unknown
    · rw [unlocked] at member
      cases member
  refine ⟨generation, done, fun absent => ?_, fun name reported => ?_, left⟩
  · exact complete ((ends_of_generate done).keepsPromise.unresolved.mp absent).2
  · obtain ⟨member, unknown⟩ := (noTestData_mem_problems_iff rfl rfl done name).mp reported
    rw [left, List.mem_singleton] at member
    rw [member, known] at unknown
    cases unknown

end PlainScript.Generator
