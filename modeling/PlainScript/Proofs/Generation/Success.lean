/-
The course of a strict generation without problems: every stage succeeds and the check finds
nothing.
-/

import PlainScript.Generation.Generate
import PlainScript.Proofs.Check.Strict
import PlainScript.Proofs.Computation

namespace PlainScript

/-- The generation with the code of its case. -/
def Generation.withCode (generation : Generation) (case : TestCase) (generated : GeneratedCode) :
    Generation :=
  { generation with
    code := generated.code
    notices := generation.notices ++ case.unknowns.map .unknownPart }

@[simp] theorem Generation.withCode_problems (generation : Generation) (case : TestCase)
    (generated : GeneratedCode) :
    (generation.withCode case generated).problems = generation.problems := rfl

@[simp] theorem Generation.withCode_values (generation : Generation) (case : TestCase)
    (generated : GeneratedCode) :
    (generation.withCode case generated).values = generation.values := rfl

/-- Problems are reported one by one. -/
theorem Generation.errors_eq_nil_iff (generation : Generation) :
    generation.errors = [] ↔ generation.problems = [] := by
  rw [errors, List.map_eq_nil_iff]

theorem Verdict.problems_eq_nil_iff (verdict : Verdict) :
    verdict.problems = [] ↔ verdict.gaps = [] ∧ verdict.deviations = [] := by
  rw [problems, List.append_eq_nil_iff, List.map_eq_nil_iff, List.map_eq_nil_iff]

namespace Generator

variable {generator : Generator} {text baseUrl : String} {options : RenderOptions}

/-- What is known of a generation before anything is rendered. -/
def started (generator : Generator) (instruction : String) (options : RenderOptions)
    (case : TestCase) : Generation where
  framework := options.framework
  language := options.language
  checklist := case.checklist
  values := (Extraction.extract instruction).toList
  case? := some case
  notices := generator.earlyNotices instruction

@[simp] theorem started_values (instruction : String) (case : TestCase) :
    (generator.started instruction options case).values =
      (Extraction.extract instruction).toList := by
  rw [started]

@[simp] theorem started_problems (instruction : String) (case : TestCase) :
    (generator.started instruction options case).problems = [] := by
  rw [started]

/-- The result of a generation in which nothing is found. -/
def success (generator : Generator) (instruction : String) (options : RenderOptions)
    (case : TestCase) (generated : GeneratedCode) : Generation :=
  (generator.started instruction options case).withCode case generated

/-- The stages of a strict generation of an instruction in which nothing is found. -/
structure Passes (generator : Generator) (instruction baseUrl : String) (options : RenderOptions)
    (case : TestCase) (generated : GeneratedCode) : Prop where
  early : generator.earlyProblems instruction (Lock.ofText instruction) = []
  resolved : generator.resolver.resolve instruction (Extraction.extract instruction) baseUrl
    (Lock.ofText instruction) = .ok case
  rendered : render case options = .ok generated
  checked : (Strict.verdict instruction generated.code (Extraction.extract instruction).toList
    (Lock.ofText instruction) (context case)).problems = []

/-- An instruction without early problems is resolved, rendered and checked. -/
theorem generate_eq_of_early (early : generator.earlyProblems (generator.substitute text)
      (Lock.ofText (generator.substitute text)) = []) :
    generator.generate text baseUrl options =
      ((generator.resolver.resolve (generator.substitute text)
        (Extraction.extract (generator.substitute text)) baseUrl
        (Lock.ofText (generator.substitute text))).mapError .resolver).bind fun case =>
          generator.finish (generator.substitute text)
            (Lock.ofText (generator.substitute text)) case options
              (generator.started (generator.substitute text) options case) := by
  simp only [generate, early, List.isEmpty_nil, Bool.not_true, Bool.and_false, Bool.false_eq_true,
    if_false]
  cases generator.resolver.resolve (generator.substitute text)
    (Extraction.extract (generator.substitute text)) baseUrl
    (Lock.ofText (generator.substitute text)) <;> rfl

/-- The generation that ends with what shows to be missing before the instruction is resolved. -/
def refused (generator : Generator) (instruction : String) (options : RenderOptions) : Generation :=
  ({ framework := options.framework
     language := options.language
     notices := generator.earlyNotices instruction } : Generation).fail headline
    (generator.earlyProblems instruction (Lock.ofText instruction))

/-- A generation is refused early in strict mode, or its instruction is resolved, rendered and
checked. -/
theorem generate_cases {generation : Generation}
    (done : generator.generate text baseUrl options = .ok generation) :
    (generator.isStrict = true ∧
      generator.earlyProblems (generator.substitute text)
        (Lock.ofText (generator.substitute text)) ≠ [] ∧
      generation = generator.refused (generator.substitute text) options) ∨
    (generator.isStrict = true → generator.earlyProblems (generator.substitute text)
        (Lock.ofText (generator.substitute text)) = []) ∧
      ∃ case, generator.resolver.resolve (generator.substitute text)
          (Extraction.extract (generator.substitute text)) baseUrl
          (Lock.ofText (generator.substitute text)) = .ok case ∧
        generator.finish (generator.substitute text) (Lock.ofText (generator.substitute text)) case
          options (generator.started (generator.substitute text) options case) =
            .ok generation := by
  rw [generate] at done
  dsimp only at done
  split at done
  · rename_i early
    rw [Bool.and_eq_true] at early
    exact .inl ⟨early.1, by simpa using early.2, (Except.ok.inj done).symm⟩
  · rename_i passed
    obtain ⟨case, resolved, finished⟩ := Except.exists_of_bind_eq_ok done
    rw [Except.mapError_eq_ok_iff] at resolved
    exact .inr ⟨fun strict => by simpa [strict] using passed, case, resolved, finished⟩

/-- Rendering and checking end with an unsupported dialect, or with the check of the code. -/
theorem finish_eq_ok_iff {instruction : String} {locks : List Lock} {case : TestCase}
    {started generation : Generation} :
    generator.finish instruction locks case options started = .ok generation ↔
      (∃ cause, render case options = .error (.unsupported cause) ∧
        generation = ({ started with notices := started.notices ++ [.failed cause] } :
          Generation).fail "" [.unsupported cause]) ∨
      ∃ generated, render case options = .ok generated ∧
        generation = generator.conclude instruction locks case generated started := by
  rw [finish]
  split
  · rename_i rendered
    simp [rendered]
  · rename_i rendered
    simp [rendered, eq_comm]
  · rename_i rendered
    simp [rendered, eq_comm]

/-- Rendering and checking change only the code, the problems and the notices. -/
theorem exists_eq_of_finish {instruction : String} {locks : List Lock} {case : TestCase}
    {started generation : Generation}
    (finished : generator.finish instruction locks case options started = .ok generation) :
    ∃ code problems notices, generation = { started with code, problems, notices } := by
  rcases finish_eq_ok_iff.mp finished with ⟨cause, -, rfl⟩ | ⟨generated, -, rfl⟩
  · exact ⟨_, _, _, rfl⟩
  · rw [conclude]
    dsimp only
    split_ifs <;> exact ⟨_, _, _, rfl⟩

/-- The check of the code finds nothing exactly when the verdict names no problem. -/
theorem conclude_problems_eq_nil_iff (strict : generator.isStrict = true) (instruction : String)
    (case : TestCase) (generated : GeneratedCode) (started : Generation)
    (fresh : started.problems = []) (locks : List Lock) :
    (generator.conclude instruction locks case generated started).problems = [] ↔
      (Strict.verdict instruction generated.code started.values locks
        (context case)).problems = [] := by
  simp only [conclude, strict, if_true]
  generalize (Strict.verdict instruction generated.code started.values locks
    (context case)).problems = problems
  have kept : problems.eraseDups = [] ↔ problems = [] := by
    simp [List.eq_nil_iff_forall_not_mem]
  split
  · rename_i none
    simpa [fresh] using kept.mp (List.isEmpty_iff.mp none)
  · rename_i some
    rw [List.isEmpty_iff] at some
    simp [Generation.fail, some, mt kept.mpr some]

/-- Code in which the check finds nothing is kept. -/
theorem finish_eq_withCode (strict : generator.isStrict = true) {instruction : String}
    {locks : List Lock} {case : TestCase} {generated : GeneratedCode} {started : Generation}
    (rendered : render case options = .ok generated)
    (checked : (Strict.verdict instruction generated.code started.values locks
      (context case)).problems = []) :
    generator.finish instruction locks case options started =
      .ok (started.withCode case generated) := by
  simp only [finish, rendered, conclude, strict, if_true, checked]
  rfl

/-- A case of which a generation without problems is made has code in which nothing is found. -/
theorem exists_render_of_finish_eq_ok (strict : generator.isStrict = true) {instruction : String}
    {locks : List Lock} {case : TestCase} {started generation : Generation}
    (fresh : started.problems = [])
    (finished : generator.finish instruction locks case options started = .ok generation)
    (clean : generation.problems = []) :
    ∃ generated, render case options = .ok generated ∧
      (Strict.verdict instruction generated.code started.values locks
        (context case)).problems = [] := by
  rcases finish_eq_ok_iff.mp finished with ⟨cause, -, rfl⟩ | ⟨generated, rendered, rfl⟩
  · exact absurd clean (List.cons_ne_nil _ _)
  · exact ⟨generated, rendered,
      (conclude_problems_eq_nil_iff strict _ _ _ _ fresh _).mp clean⟩

/-- A strict generation ends without problems exactly when it passes every stage. -/
theorem generate_eq_ok_iff (strict : generator.isStrict = true) (generation : Generation) :
    generator.generate text baseUrl options = .ok generation ∧ generation.problems = [] ↔
      ∃ case generated,
        generator.Passes (generator.substitute text) baseUrl options case generated ∧
          generation = generator.success (generator.substitute text) options case generated := by
  constructor
  · rintro ⟨done, clean⟩
    rcases generate_cases done with ⟨-, found, rfl⟩ | ⟨early, case, resolved, finished⟩
    · exact absurd clean found
    · obtain ⟨generated, rendered, checked⟩ :=
        exists_render_of_finish_eq_ok strict (started_problems _ case) finished clean
      have kept := finished.symm.trans (finish_eq_withCode strict rendered checked)
      rw [started_values] at checked
      exact ⟨case, generated, ⟨early strict, resolved, rendered, checked⟩, Except.ok.inj kept⟩
  · rintro ⟨case, generated, passes, rfl⟩
    have checked := passes.checked
    rw [← started_values] at checked
    rw [generate_eq_of_early passes.early, passes.resolved, success, Generation.withCode_problems,
      started_problems]
    exact ⟨finish_eq_withCode strict passes.rendered checked, rfl⟩

/-! Samples -/

def sampleOptions : RenderOptions :=
  { framework := "cypress", language := "javascript", includeComments := false }

/-- An instruction together with what it is read as and resolved to. -/
structure Sample where
  text : String
  baseUrl : String
  values : Values
  locks : List Lock
  case : TestCase
  extracted : Extraction.extract text = values
  locked : Lock.ofText text = locks
  early : ({} : Generator).earlyProblems text locks = []
  resolved : ({} : Resolver).resolve text values baseUrl locks = .ok case

namespace Sample

variable (sample : Sample)

def generated : GeneratedCode :=
  ⟨Dialect.cypressJavaScript.code sampleOptions sample.case "30000", "cypress", "javascript",
    Dialect.cypressJavaScript.dependencies, Dialect.cypressJavaScript.setup sample.case.heading⟩

/-- The check of the code of the sample. -/
def verdict : Verdict :=
  Strict.verdict sample.text sample.generated.code sample.values.toList sample.locks
    (context sample.case)

theorem generate_eq : ({} : Generator).generate sample.text sample.baseUrl sampleOptions =
    ({} : Generator).finish sample.text sample.locks sample.case sampleOptions
      (({} : Generator).started sample.text sampleOptions sample.case) := by
  have early : ({} : Generator).earlyProblems sample.text (Lock.ofText sample.text) = [] := by
    rw [sample.locked]
    exact sample.early
  have same : ({} : Generator).substitute sample.text = sample.text := rfl
  have resolved : ({} : Generator).resolver.resolve sample.text (Extraction.extract sample.text)
      sample.baseUrl (Lock.ofText sample.text) = .ok sample.case := by
    rw [sample.extracted, sample.locked]
    exact sample.resolved
  have made := @generate_eq_of_early {} sample.text sample.baseUrl sampleOptions early
  rw [made, same, resolved, sample.locked]
  rfl

/-- The generation of a sample in whose code nothing is found. -/
theorem generate_eq_success (checked : sample.verdict.problems = []) :
    ({} : Generator).generate sample.text sample.baseUrl sampleOptions =
      .ok (({} : Generator).success sample.text sampleOptions sample.case sample.generated) := by
  have rendered : render sample.case sampleOptions = .ok sample.generated := rfl
  have values : (({} : Generator).started sample.text sampleOptions sample.case).values =
      sample.values.toList := by
    rw [started_values, sample.extracted]
  rw [verdict, ← values] at checked
  rw [sample.generate_eq, finish_eq_withCode rfl rendered checked, success]

/-- The characters of the code, line by line. -/
def chars : List Char :=
  "\n".toList.intercalate
    ((Dialect.cypressJavaScript.lines sampleOptions sample.case "30000").map String.toList) ++
      "\n".toList

theorem toList_code : sample.generated.code.toList = sample.chars := by
  rw [generated, Dialect.code, String.toList_append, String.toList_intercalate, chars]

/-- A sample without locks whose characters are finished and clean. -/
theorem problems_eq_nil (unlocked : sample.locks = [])
    (unmarked : Marker.findFrom 0 sample.chars = [])
    (untagged : Chars.contains Unresolved.tag.toList sample.chars = false)
    (clean : Strict.isClean (Strict.bodyChars sample.text sample.chars) sample.values.toList
      (context sample.case) = true) : sample.verdict.problems = [] := by
  rw [← toList_code] at unmarked untagged clean
  rw [verdict, unlocked, Strict.verdict_eq_nil unmarked untagged clean]
  rfl

/-- A sample in whose code nothing is found succeeds. -/
theorem exists_generate (checked : sample.verdict.problems = []) :
    ∃ generation, ({} : Generator).generate sample.text sample.baseUrl sampleOptions =
        .ok generation ∧ generation.errors = [] ∧ generation.case? = some sample.case ∧
      generation.values = sample.values.toList := by
  refine ⟨_, sample.generate_eq_success checked, rfl, rfl, ?_⟩
  rw [success, Generation.withCode_values, started_values, sample.extracted]

end Sample

/-! A sample: an instruction with an address and a lock -/

def sampleText : String := "at http://b [LOCK VALUE] b"

def sampleCase : TestCase :=
  ⟨⟨"at_httpb", "http://a", some sampleText, []⟩, [.goto "http://b"]⟩

def addressSample : Sample where
  text := sampleText
  baseUrl := "http://a"
  values := { url := some "http://b" }
  locks := [⟨.value, "value", "b", true⟩]
  case := sampleCase
  extracted := by decide
  locked := by decide
  early := by decide
  resolved := by decide

/-- The check of the code, on characters. -/
theorem problems_addressSample : addressSample.verdict.problems = [] := by
  generalize same : addressSample.generated.code.toList = chars
  simp only [Sample.verdict, Strict.verdict, Strict.check, Strict.gaps, Strict.missing,
    Strict.additions, Strict.body, Strict.statements, Strict.checkLocks, Verdict.merge,
    Masking.mask, Marker.findAll, Text.contains_eq, String.toList_ofList, same]
  rw [Sample.generated, Dialect.code, String.toList_append, String.toList_intercalate] at same
  subst same
  decide +kernel

theorem exists_generate_sampleText :
    ∃ generation, ({} : Generator).generate sampleText "http://a" sampleOptions = .ok generation ∧
      generation.errors = [] := by
  obtain ⟨generation, done, clean, -⟩ := addressSample.exists_generate problems_addressSample
  exact ⟨generation, done, clean⟩

end Generator

end PlainScript
