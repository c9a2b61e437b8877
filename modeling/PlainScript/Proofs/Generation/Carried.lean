/-
Values that the code carries: generation does not report a value as missing if a complete step
carries it and it can be read in the line of the step. Values are read as they are, so that a value
with a character that literals escape is reported all the same.
-/

import PlainScript.Proofs.Check.Legible
import PlainScript.Proofs.Generation.Success
import PlainScript.Proofs.Instruction.Taken
import PlainScript.Proofs.Render.Carried
import PlainScript.Proofs.Resolver.Resolve

namespace PlainScript

open Strict

namespace Generator

variable {generator : Generator} {text baseUrl instruction : String} {options : RenderOptions}
  {generation started : Generation} {case : TestCase} {locks : List Lock}

/-- Rendering and checking leave the case and the values. -/
theorem case?_and_values_of_finish
    (finished : generator.finish instruction locks case options started = .ok generation) :
    generation.case? = started.case? ∧ generation.values = started.values := by
  obtain ⟨_, _, _, rfl⟩ := exists_eq_of_finish finished
  exact ⟨rfl, rfl⟩

/-- A generation with a case has rendered and checked it. -/
theorem finish_of_generate (done : generator.generate text baseUrl options = .ok generation)
    (resolved : generation.case? = some case) :
    generator.finish (generator.substitute text) (Lock.ofText (generator.substitute text)) case
      options (generator.started (generator.substitute text) options case) = .ok generation := by
  rcases generate_cases done with ⟨-, -, rfl⟩ | ⟨-, made, -, finished⟩
  · cases resolved
  · have same := (case?_and_values_of_finish finished).1.symm.trans resolved
    obtain rfl : made = case := Option.some.inj same
    exact finished

/-- In strict mode the deviations that are found in the code of the case are reported, and no
others. -/
theorem deviation_mem_problems_iff (strict : generator.isStrict = true)
    (fresh : started.problems = [])
    (finished : generator.finish instruction locks case options started = .ok generation)
    (deviation : Deviation) :
    .deviation deviation ∈ generation.problems ↔
      ∃ generated, render case options = .ok generated ∧
        deviation ∈ (verdict instruction generated.code started.values locks
          (context case)).deviations := by
  rcases finish_eq_ok_iff.mp finished with ⟨cause, rendered, rfl⟩ | ⟨generated, rendered, rfl⟩
  · simp [rendered, Generation.fail]
  · simp only [rendered, conclude, strict, if_true, Except.ok.injEq, exists_eq_left']
    generalize verdict instruction generated.code started.values locks (context case) = found
    have listed : .deviation deviation ∈ found.problems.eraseDups ↔
        deviation ∈ found.deviations := by
      simp [Verdict.problems]
    split
    · rename_i none
      rw [← listed, List.isEmpty_iff.mp none, fresh]
    · rw [Generation.fail, listed]

/-- The line of a step is among the lines of the code if it has no line end inside. -/
theorem line_mem_lines_code {dialect : Dialect} {step : Step} (timeout : String)
    (member : step ∈ case.steps)
    (unbroken : ∀ c ∈ (dialect.indent ++
        dialect.line (dialect.statement case.heading.baseUrl step)).toList,
      Text.isLineEnd c = false) :
    (dialect.indent ++ dialect.line (dialect.statement case.heading.baseUrl step)).toList ∈
      Chars.lines (dialect.code options case timeout).toList := by
  rw [Dialect.code, String.toList_append, String.toList_intercalate]
  exact Chars.mem_lines_intercalate
    (List.mem_map_of_mem (dialect.exists_line_mem_lines options timeout member)) unbroken

/-- A value that a complete step carries into a line where it can be read is not reported as
missing, whatever it is a value of. -/
theorem missingValue_notMem_problems {dialect : Dialect} {step : Step} {label value : String}
    (strict : generator.isStrict = true)
    (done : generator.generate text baseUrl options = .ok generation)
    (resolved : generation.case? = some case)
    (supported : Dialect.find options.framework options.language = .ok dialect)
    (member : step ∈ case.steps) (complete : ¬ step.IsIncomplete dialect.framework)
    (extracted : (label, value) ∈ generation.values) (carries : step.Carries value)
    (single : step.kind? = some .goto → ¬ ['/', '/'] <+: value.toList)
    (legible : Legible (generator.substitute text)
      (dialect.indent ++ dialect.line (dialect.statement case.heading.baseUrl step)) value) :
    ∀ other, .deviation (.missingValue other value) ∉ generation.problems := by
  intro other reported
  have finished := finish_of_generate done resolved
  obtain ⟨generated, rendered, missing⟩ :=
    (deviation_mem_problems_iff strict (started_problems _ case) finished _).mp reported
  rw [(case?_and_values_of_finish finished).2, started_values] at extracted
  obtain ⟨timeout, -, written⟩ := exists_code_of_render supported rendered
  rw [written] at missing
  have unquoted := Extraction.isUnquoted_of_mem_extract extracted
  have plain : Literal.isPlain value.toList = true := (Literal.isPlain_iff _).mpr
    ⟨legible.unescaped.1, unquoted.1, unquoted.2, legible.unescaped.2⟩
  have inLine := dialect.infix_line_of_carries case.heading.baseUrl complete carries single plain
  have live := (dialect.executes_of_complete case.heading.baseUrl carries.isKnown complete).live
  have found : Text.contains (body (generator.substitute text)
      (dialect.code options case timeout)) value = true := by
    refine legible.contains_body (line_mem_lines_code timeout member legible.unbroken) live ?_
    rw [String.toList_append]
    exact inLine.trans (List.suffix_append _ _).isInfix
  exact Bool.false_ne_true ((contains_eq_false_of_missingValue missing).symm.trans found)

/-- The address of the sample is not reported. -/
theorem missingValue_notMem_problems_sampleText :
    ∃ generation, ({} : Generator).generate sampleText "http://a" sampleOptions = .ok generation ∧
      generation.case? = some sampleCase ∧
      ∀ other, .deviation (.missingValue other "http://b") ∉ generation.problems := by
  obtain ⟨generation, done, -, resolved, values⟩ :=
    addressSample.exists_generate problems_addressSample
  have extracted : ("url", "http://b") ∈ generation.values := by
    rw [values]
    decide
  have complete : ¬ (Step.goto "http://b").IsIncomplete .cypress := by
    simp [Step.IsIncomplete, Step.kind?, Step.goto, Action.ofName?, filled]
  have line : (Dialect.cypressJavaScript.indent ++ Dialect.cypressJavaScript.line
      (Dialect.cypressJavaScript.statement "http://a" (.goto "http://b"))).toList =
      "    cy.visit('http://b');".toList := by
    decide +kernel
  refine ⟨generation, done, resolved, missingValue_notMem_problems rfl done resolved rfl
    (List.mem_singleton.mpr rfl) complete extracted (.visited rfl rfl) (fun _ => by decide +kernel)
    ⟨by decide +kernel, by decide +kernel, fun before after same => ?_⟩⟩
  -- No title stands anywhere in the line.
  have spares : Masking.Spares (titlePieces sampleText) "    cy.visit('http://b');".toList 0
      "    cy.visit('http://b');".toList.length :=
    Masking.spares_of_eq_true (by decide +kernel)
  refine (line ▸ spares).mono (Nat.zero_le _) ?_
  have length := congrArg List.length (line.symm.trans same)
  simp only [List.length_append] at length
  omega

/-! A sample: the name of a button with a backslash -/

def backslashText : String := "click \"a\\b\""

def backslashStep : Step := .click (.role (some "button") (some "a\\b"))

def backslashCase : TestCase :=
  ⟨⟨"click_ab", "", some backslashText, []⟩, [.goto "/", backslashStep]⟩

def backslashSample : Sample where
  text := backslashText
  baseUrl := ""
  values := { button := some "a\\b" }
  locks := []
  case := backslashCase
  extracted := by decide
  locked := by decide
  early := by decide
  resolved := by decide

/-- The backslash stands twice in the selector, and twice as often in the literal of it. -/
theorem contains_body_backslashSample :
    Text.contains (body backslashText backslashSample.generated.code) "a\\b" = false := by
  generalize same : backslashSample.generated.code.toList = chars
  simp only [body, statements, Masking.mask, Text.contains_eq, String.toList_ofList, same]
  rw [Sample.generated, Dialect.code, String.toList_append, String.toList_intercalate] at same
  subst same
  decide +kernel

/-- Not every value that a complete step carries goes unreported: the name of this button is escaped
in the line of its click. -/
theorem exists_missingValue_of_carries :
    ¬ ∀ (generator : Generator) (text baseUrl : String) (options : RenderOptions)
      (generation : Generation) (case : TestCase) (dialect : Dialect) (step : Step)
      (label value : String), generator.isStrict = true →
      generator.generate text baseUrl options = .ok generation → generation.case? = some case →
      Dialect.find options.framework options.language = .ok dialect → step ∈ case.steps →
      ¬ step.IsIncomplete dialect.framework → (label, value) ∈ generation.values →
      step.Carries value → .deviation (.missingValue label value) ∉ generation.problems := by
  intro all
  have read : Extraction.extract backslashText = { button := some "a\\b" } :=
    backslashSample.extracted
  have extracted : ("button", "a\\b") ∈
      (({} : Generator).started backslashText sampleOptions backslashCase).values := by
    rw [started_values, read]
    decide
  have rendered : render backslashCase sampleOptions = .ok backslashSample.generated := rfl
  obtain ⟨generation, finished⟩ : ∃ generation, ({} : Generator).finish backslashText []
      backslashCase sampleOptions (({} : Generator).started backslashText sampleOptions
        backslashCase) = .ok generation :=
    ⟨_, finish_eq_ok_iff.mpr (.inr ⟨_, rendered, rfl⟩)⟩
  have done := backslashSample.generate_eq.trans finished
  have kept := case?_and_values_of_finish finished
  have complete : ¬ backslashStep.IsIncomplete .cypress := by
    simp [backslashStep, Step.IsIncomplete, Step.kind?, Step.click, Action.ofName?,
      Locator.IsLacking, Locator.IsUnresolvable, filled]
  refine all {} backslashText "" sampleOptions _ backslashCase .cypressJavaScript backslashStep
    "button" "a\\b" rfl done kept.1 rfl
    (List.mem_cons_of_mem _ (List.mem_singleton.mpr rfl)) complete ?_
    (.clicked rfl (some "button") rfl) ?_
  · exact kept.2.symm ▸ extracted
  · refine (deviation_mem_problems_iff rfl (started_problems backslashText backslashCase)
      finished _).mpr ⟨backslashSample.generated, rendered, ?_⟩
    rw [verdict]
    exact List.mem_append_left _
      (missingValue_mem_missing_iff.mpr ⟨extracted, contains_body_backslashSample⟩)

end Generator

end PlainScript
