/-
A strict success leaves no step out: every line carries out its step, but for the check of an
assertion whose type a lock sets to something unknown, which is kept as a comment.
-/

import PlainScript.Proofs.Generation.Soundness
import PlainScript.Proofs.Render.Live
import PlainScript.Proofs.Resolver.Resolve

namespace PlainScript

open Strict

/-- The step checks an assertion of an unknown type, which the lock in force sets, and its line is
a comment that names the type. -/
def Dialect.LeavesOut (dialect : Dialect) (base : String) (locks : List Lock) (step : Step) :
    Prop :=
  step.kind? = some .check ∧
    ∃ words, Resolver.locked? locks .assertionType = some words ∧
      AssertionKind.ofName? (Resolver.assertionType words) = none ∧
      dialect.statement base step =
        .note ("Unknown assertion type: " ++ Resolver.assertionType words)

theorem Dialect.leavesOut_of_checksUnknown (dialect : Dialect) (base : String) {locks : List Lock}
    {step : Step} (unknown : Resolver.ChecksUnknown locks step) :
    dialect.LeavesOut base locks step := by
  obtain ⟨words, assertion, locked, unnamed, checks, given, typed⟩ := unknown
  refine ⟨checks, words, locked, unnamed, ?_⟩
  have kind : assertion.kind? = none := by rw [Assertion.kind?, typed, unnamed]
  simp only [statement, checks, given, assertionStatement, kind, typed]

namespace Generator

variable {generator : Generator} {text baseUrl : String} {options : RenderOptions}

/-- After a strict generation without errors every step is carried out by its line of the code, or
it is a check that the lock of its type leaves out. -/
theorem executes_or_leavesOut_of_generate {generation : Generation}
    (strict : generator.isStrict = true)
    (done : generator.generate text baseUrl options = .ok generation)
    (clean : generation.errors = []) :
    ∃ case dialect timeout, generation.case? = some case ∧
      Dialect.find options.framework options.language = .ok dialect ∧
      generation.code = dialect.code options case timeout ∧
      ∀ step ∈ case.steps,
        dialect.indent ++ dialect.line (dialect.statement case.heading.baseUrl step) ∈
          dialect.lines options case timeout ∧
        (dialect.Executes case.heading.baseUrl step ∨
          dialect.LeavesOut case.heading.baseUrl (Lock.ofText (generator.substitute text))
            step) := by
  obtain ⟨case, generated, passes, rfl⟩ := (generate_eq_ok_iff strict generation).mp
    ⟨done, (Generation.errors_eq_nil_iff generation).mp clean⟩
  obtain ⟨dialect, timeout, found, code, finished⟩ := passes.exists_dialect
  have complete : ∀ step ∈ case.steps, ¬ step.IsIncomplete dialect.framework :=
    fun step member lacks => finished (Dialect.unfinished_code member lacks)
  obtain ⟨-, -, known⟩ := Resolver.isKnown_or_checksUnknown_of_resolve passes.resolved
  refine ⟨case, dialect, timeout, ?_, found, code, fun step member => ⟨?_, ?_⟩⟩
  · rw [success, Generation.withCode, started]
  · exact dialect.exists_line_mem_lines options timeout member
  · exact (known step member).imp
      (fun known => dialect.executes_of_complete _ known (complete step member))
      (dialect.leavesOut_of_checksUnknown _)

/-! A sample: a lock with a type of assertion that is unknown -/

def unknownTypeText : String := "dashboard [LOCK ASSERTION TYPE] toBeVisible"

def unknownTypeCase : TestCase :=
  ⟨⟨"dashboard", "", some unknownTypeText, []⟩,
    [.goto "/dashboard", .check ⟨"toBeVisible", none, some "/dashboard"⟩]⟩

def unknownTypeSample : Sample where
  text := unknownTypeText
  baseUrl := ""
  values := {}
  locks := [⟨.assertionType, "assertion_type", "toBeVisible", true⟩]
  case := unknownTypeCase
  extracted := by decide
  locked := by decide
  early := by decide
  resolved := by decide

/-- The check of the code, on characters. -/
theorem problems_unknownTypeSample : unknownTypeSample.verdict.problems = [] := by
  generalize same : unknownTypeSample.generated.code.toList = chars
  simp only [Sample.verdict, Strict.verdict, Strict.check, Strict.gaps, Strict.missing,
    Strict.additions, Strict.body, Strict.statements, Strict.checkLocks, Verdict.merge,
    Masking.mask, Marker.findAll, Text.contains_eq, String.toList_ofList, same]
  rw [Sample.generated, Dialect.code, String.toList_append, String.toList_intercalate] at same
  subst same
  decide +kernel

/-- The generation of an instruction that is complete but for the type of its assertion. -/
theorem exists_generate_unknownTypeText :
    ∃ generation, ({} : Generator).generate unknownTypeText "" sampleOptions = .ok generation ∧
      generation.errors = [] ∧ generation.case? = some unknownTypeCase := by
  obtain ⟨generation, done, clean, given, -⟩ :=
    unknownTypeSample.exists_generate problems_unknownTypeSample
  exact ⟨generation, done, clean, given⟩

/-- The visit of the sample is carried out, and its check is left out. -/
theorem executes_or_leavesOut_unknownTypeText :
    ∃ generation, ({} : Generator).generate unknownTypeText "" sampleOptions = .ok generation ∧
      generation.errors = [] ∧
      ∀ step ∈ unknownTypeCase.steps, Dialect.cypressJavaScript.Executes "" step ∨
        Dialect.cypressJavaScript.LeavesOut "" (Lock.ofText unknownTypeText) step := by
  obtain ⟨generation, done, clean, same⟩ := exists_generate_unknownTypeText
  obtain ⟨case, dialect, _, given, found, -, all⟩ :=
    executes_or_leavesOut_of_generate rfl done clean
  obtain rfl : unknownTypeCase = case := Option.some.inj (same.symm.trans given)
  obtain rfl : Dialect.cypressJavaScript = dialect := Except.ok.inj found
  exact ⟨generation, done, clean, fun step member => (all step member).2⟩

/-- Not every step of a strict success is carried out: the line of this check is a comment. -/
theorem exists_comment_in_success :
    ∃ generation step, ({} : Generator).generate unknownTypeText "" sampleOptions =
        .ok generation ∧ generation.errors = [] ∧ generation.case? = some unknownTypeCase ∧
      step ∈ unknownTypeCase.steps ∧
      isComment (Dialect.cypressJavaScript.indent ++ Dialect.cypressJavaScript.line
        (Dialect.cypressJavaScript.statement "" step)).toList = true := by
  obtain ⟨generation, done, clean, same⟩ := exists_generate_unknownTypeText
  refine ⟨generation, .check ⟨"toBeVisible", none, some "/dashboard"⟩, done, clean, same, ?_, ?_⟩
  · simp [unknownTypeCase]
  · have line : Dialect.cypressJavaScript.line (Dialect.cypressJavaScript.statement ""
        (.check ⟨"toBeVisible", none, some "/dashboard"⟩)) =
          "// " ++ ("Unknown assertion type: " ++ "toBeVisible") :=
      rfl
    rw [line, String.toList_append, String.toList_append, String.toList_append]
    decide

end Generator

end PlainScript
