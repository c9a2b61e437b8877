/-
A report in JSON is read back: its results are those that were reported, whatever their texts and
numbers. It is written unless the durations are too large on average or a number has too many
digits.
-/

import PlainScript.Proofs.Json.RoundTrip
import PlainScript.Proofs.Report.Stats
import PlainScript.Proofs.Schema.Decoder
import PlainScript.Report.Format

namespace PlainScript

open Json Number Schema

variable {levels : Nat}

/-- A duration is a document if it can be written. -/
theorem holdsDocuments_duration {duration : Option Int}
    (short : ∀ milliseconds ∈ duration, isShort milliseconds = true) :
    HoldsDocuments levels ["duration"]
      (duration.toList.map fun milliseconds => ("duration", .int milliseconds)) := by
  cases duration with
  | none => exact ⟨List.nil_sublist _, by simp⟩
  | some milliseconds => exact HoldsDocuments.nil.cons "duration" (.int _ (short _ rfl))

namespace StepResult

/-- The numbers of a result can be written. -/
structure IsShort (result : StepResult) : Prop where
  index : isShort result.index = true
  duration : ∀ milliseconds ∈ result.duration, isShort milliseconds = true

theorem hasShortNumbers_document_iff (result : StepResult) :
    result.document.hasShortNumbers = true ↔ result.IsShort := by
  have numbers : result.document.hasShortNumbers = true ↔ isShort result.index = true ∧
      ∀ milliseconds ∈ result.duration, isShort milliseconds = true := by
    simp [document]
  exact numbers.trans ⟨fun ⟨index, duration⟩ => ⟨index, duration⟩,
    fun ⟨index, duration⟩ => ⟨index, duration⟩⟩

theorem isDocument_document {result : StepResult} (short : result.IsShort) :
    IsDocument (levels + 1) result.document :=
  ((((((HoldsDocuments.nil.cons "status" (.text result.status)).cons
    "action" (.text result.action)).cons "stepIndex" (.int result.index short.index)).append
      (.toList "message" .text result.message)).append
        (holdsDocuments_duration short.duration)).append
          (.toList "error" .text result.error)).append
            (.toList "screenshot" .text result.screenshot) |>.isDocument (by decide)

theorem decode_document (result : StepResult) : decode result.document = .valid result := by
  have hasIndex : required ["stepIndex", "step_index"] wholeNumber result.document =
      .valid result.index :=
    required_wholeNumber (by simp [document])
  have hasAction : required ["action"] plainText result.document = .valid result.action :=
    required_plainText (by simp [document, List.lookup_cons])
  have hasStatus : required ["status"] plainText result.document = .valid result.status :=
    required_plainText (by simp [document, List.lookup_cons])
  have hasMessage : possible ["message"] plainText result.document = .valid result.message :=
    possible_plainText (by simp [document, List.lookup_cons, List.lookup_append])
  have hasDuration : possible ["duration"] wholeNumber result.document =
      .valid result.duration :=
    possible_wholeNumber (by simp [document, List.lookup_cons, List.lookup_append])
  have hasError : possible ["error"] plainText result.document = .valid result.error :=
    possible_plainText (by simp [document, List.lookup_cons, List.lookup_append])
  have hasScreenshot : possible ["screenshot"] plainText result.document =
      .valid result.screenshot :=
    possible_plainText (by simp [document, List.lookup_cons, List.lookup_append])
  change _ <$> required _ _ result.document <*> required _ _ result.document <*>
    required _ _ result.document <*> possible _ _ result.document <*>
    possible _ _ result.document <*> possible _ _ result.document <*>
    possible _ _ result.document = _
  rw [hasIndex, hasAction, hasStatus, hasMessage, hasDuration, hasError, hasScreenshot]
  rfl

end StepResult

namespace TestResult

/-- The numbers of a result and of its steps can be written. -/
structure IsShort (result : TestResult) : Prop where
  duration : ∀ milliseconds ∈ result.duration, isShort milliseconds = true
  steps : ∀ step ∈ result.steps, step.IsShort

theorem hasShortNumbers_document_iff (result : TestResult) :
    result.document.hasShortNumbers = true ↔ result.IsShort := by
  have numbers : result.document.hasShortNumbers = true ↔
      (∀ milliseconds ∈ result.duration, isShort milliseconds = true) ∧
        ∀ step ∈ result.steps, step.IsShort := by
    simp [document, Value.texts, StepResult.hasShortNumbers_document_iff]
  exact numbers.trans ⟨fun ⟨duration, steps⟩ => ⟨duration, steps⟩,
    fun ⟨duration, steps⟩ => ⟨duration, steps⟩⟩

theorem isDocument_document {result : TestResult} (short : result.IsShort) :
    IsDocument (levels + 3) result.document :=
  ((((HoldsDocuments.nil.cons "message" (.text result.message)).cons
    "status" (.text result.status)).append
      (holdsDocuments_duration short.duration)).append
        (.toList "error" .text result.error)).append
          ((HoldsDocuments.nil.cons "screenshots"
            (isDocument_map fun path _ => .text path)).cons "stepResults"
              (isDocument_map fun step member =>
                StepResult.isDocument_document (short.steps step member)))
    |>.isDocument (by decide)

theorem decode_document (result : TestResult) : decode result.document = .valid result := by
  have hasStatus : required ["status"] plainText result.document = .valid result.status :=
    required_plainText (by simp [document])
  have hasMessage : required ["message"] plainText result.document = .valid result.message :=
    required_plainText (by simp [document, List.lookup_cons])
  have hasDuration : possible ["duration"] wholeNumber result.document =
      .valid result.duration :=
    possible_wholeNumber (by simp [document, List.lookup_cons, List.lookup_append])
  have hasError : possible ["error"] plainText result.document = .valid result.error :=
    possible_plainText (by simp [document, List.lookup_cons, List.lookup_append])
  have hasSteps : defaulted ["stepResults", "step_results"] (listOf .memory StepResult.decode) []
      result.document = .valid result.steps :=
    defaulted_of_field? (by simp [document, List.lookup_cons, List.lookup_append])
      (listOf_map .memory StepResult.document StepResult.decode_document result.steps)
  have hasScreenshots : defaulted ["screenshots"] (listOf .memory plainText) [] result.document =
      .valid result.screenshots :=
    defaulted_of_field?
      (by simp [document, Value.texts, List.lookup_cons, List.lookup_append])
      (listOf_map .memory .text (fun _ => rfl) result.screenshots)
  change _ <$> required _ _ result.document <*> required _ _ result.document <*>
    possible _ _ result.document <*> possible _ _ result.document <*>
    defaulted _ _ _ result.document <*> defaulted _ _ _ result.document = _
  rw [hasStatus, hasMessage, hasDuration, hasError, hasSteps, hasScreenshots]
  rfl

end TestResult

namespace Report

/-- The results that are read from the text of a report. -/
def Restores (text : String) (results : List TestResult) : Prop :=
  ∃ document, Json.parse text = .ok document ∧
    required ["results"] (listOf .memory TestResult.decode) document = .valid results

/-- The numbers of a report can be written: the count of the results, the sum of their durations
and the numbers of each. -/
structure IsShort (results : List TestResult) : Prop where
  count : isShort results.length = true
  total : isShort (TestStats.totalOf results) = true
  results : ∀ result ∈ results, result.IsShort

/-- The document of a report is read with numbers of its own among the statistics, and with the
results as they are. -/
theorem exists_readsAs_document {stats : TestStats} {results : List TestResult}
    (statsShort : stats.document.hasShortNumbers = true)
    (short : ∀ result ∈ results, result.IsShort) :
    ∃ others, ReadsAs (levels + 5) (document stats results)
      (.ofFields [("stats", others), ("results", .list (results.map TestResult.document))]) := by
  obtain ⟨rate, ratePart⟩ := exists_readsAs_float stats.passRate
  obtain ⟨average, averagePart⟩ := exists_readsAs_float stats.averageDuration
  obtain ⟨total, passed, failed, skipped, duration⟩ : isShort stats.total = true ∧
      isShort stats.passed = true ∧ isShort stats.failed = true ∧ isShort stats.skipped = true ∧
        isShort stats.totalDuration = true := by
    simpa [TestStats.document] using statsShort
  have statsPart : ∃ others, ReadsAs (levels + 4) stats.document others := by
    refine ⟨_, .record [
      ("total", .int stats.total, .int stats.total),
      ("passed", .int stats.passed, .int stats.passed),
      ("failed", .int stats.failed, .int stats.failed),
      ("skipped", .int stats.skipped, .int stats.skipped),
      ("passRate", .float stats.passRate, .float rate),
      ("totalDuration", .int stats.totalDuration, .int stats.totalDuration),
      ("avgDuration", .float stats.averageDuration, .float average)] (by simp) ?_⟩
    simp [ReadsAs.int, total, passed, failed, skipped, duration, ratePart, averagePart]
  obtain ⟨others, statsPart⟩ := statsPart
  have resultsPart : ReadsAs (levels + 4) (.list (results.map TestResult.document))
      (.list (results.map TestResult.document)) :=
    (isDocument_map fun result member =>
      TestResult.isDocument_document (short result member)).readsAs
  refine ⟨others, .record [("stats", stats.document, others),
    ("results", .list (results.map TestResult.document),
      .list (results.map TestResult.document))] (by simp) ?_⟩
  simp [statsPart, resultsPart]

theorem restores_write {stats : TestStats} {results : List TestResult}
    (statsShort : stats.document.hasShortNumbers = true)
    (short : ∀ result ∈ results, result.IsShort) :
    Restores (portable.write (document stats results)) results := by
  obtain ⟨others, reads⟩ := exists_readsAs_document statsShort short
  refine ⟨_, reads.parseChars_write isLegible_portable, ?_⟩
  exact required_of_field? (by simp [List.lookup_cons])
    (listOf_map .memory TestResult.document TestResult.decode_document results)

/-- The statistics of results have short numbers as the count and the sum have. -/
theorem hasShortNumbers_document_ofResults_iff {stats : TestStats} {results : List TestResult}
    (measured : TestStats.ofResults results = .ok stats) :
    stats.document.hasShortNumbers = true ↔
      isShort results.length = true ∧ isShort (TestStats.totalOf results) = true := by
  obtain ⟨total, passed, failed, skipped, duration⟩ := TestStats.fields_of_ofResults measured
  have part {count : Nat} (few : count ≤ results.length)
      (short : isShort results.length = true) : isShort count = true :=
    isShort_natCast_of_le few short
  simp only [TestStats.document, Value.hasShortNumbers_ofFields, List.all_cons, List.all_nil,
    Value.hasShortNumbers_int, Value.hasShortNumbers_float, Bool.and_eq_true, total, passed, failed,
    skipped, duration, and_true, true_and]
  constructor
  · rintro ⟨count, -, -, -, sum⟩
    exact ⟨count, sum⟩
  · rintro ⟨count, sum⟩
    exact ⟨count, part List.countP_le_length count, part List.countP_le_length count,
      part List.countP_le_length count, sum⟩

theorem hasShortNumbers_document_iff {stats : TestStats} {results : List TestResult}
    (measured : TestStats.ofResults results = .ok stats) :
    (document stats results).hasShortNumbers = true ↔ IsShort results := by
  have each : (results.map TestResult.document).all Value.hasShortNumbers = true ↔
      ∀ result ∈ results, result.IsShort := by
    simp [List.all_map, TestResult.hasShortNumbers_document_iff]
  simp only [document, Value.hasShortNumbers_ofFields, List.all_cons, List.all_nil, Bool.and_eq_true,
    Value.hasShortNumbers_list, hasShortNumbers_document_ofResults_iff measured, each, and_true]
  exact ⟨fun ⟨⟨count, total⟩, results⟩ => ⟨count, total, results⟩,
    fun ⟨count, total, results⟩ => ⟨⟨count, total⟩, results⟩⟩

theorem write_json_of_not_isMeasurable {results : List TestResult}
    (large : ¬TestStats.IsMeasurable results) : write .json results =
      .error (.oversized (TestStats.totalOf results) results.length) := by
  rw [write, json, TestStats.ofResults_of_not_isMeasurable large]
  rfl

/-- Every report in JSON gives its results back. There is none exactly where the sum of the
durations is too large for the count of the results, or else where a number has too many digits. -/
theorem write_json_cases (results : List TestResult) :
    match write .json results with
    | .ok text => TestStats.IsMeasurable results ∧ IsShort results ∧ Restores text results
    | .error (.oversized sum count) => ¬TestStats.IsMeasurable results ∧
        sum = TestStats.totalOf results ∧ count = results.length
    | .error .overlong => TestStats.IsMeasurable results ∧ ¬IsShort results := by
  by_cases measurable : TestStats.IsMeasurable results
  · obtain ⟨stats, measured, -⟩ := TestStats.exists_ofResults_of_isMeasurable measurable
    have written : write .json results = if (document stats results).hasShortNumbers then
        .ok (portable.write (document stats results)) else .error .overlong := by
      rw [write, json, measured]
      rfl
    by_cases short : IsShort results
    · rw [written, if_pos ((hasShortNumbers_document_iff measured).mpr short)]
      exact ⟨measurable, short, restores_write
        ((hasShortNumbers_document_ofResults_iff measured).mpr ⟨short.count, short.total⟩)
          short.results⟩
    · rw [written, if_neg fun numbers =>
        short ((hasShortNumbers_document_iff measured).mp numbers)]
      exact ⟨measurable, short⟩
  · rw [write_json_of_not_isMeasurable measurable]
    exact ⟨measurable, rfl, rfl⟩

/-- A passed test that took as many milliseconds as a one with 309 zeros. -/
def endlessResult : TestResult :=
  { status := "passed", message := "m", duration := some (Nat.pow (Nat.pow 10 103) 3 : Nat) }

theorem not_isMeasurable_endlessResult : ¬TestStats.IsMeasurable [endlessResult] := by
  have least : Number.Double.limit ≤ Nat.pow (Nat.pow 10 103) 3 := by
    obtain ⟨zeros, top, same⟩ := Number.Double.exists_limit_eq
    rw [same, top]
    decide +kernel
  have total : TestStats.totalOf [endlessResult] = (Nat.pow (Nat.pow 10 103) 3 : Nat) := rfl
  rw [TestStats.IsMeasurable, total]
  exact Nat.not_lt_of_le (Nat.mul_one _ ▸ least)

/-- Its report is not written at all. -/
theorem not_restores_endlessResult :
    ¬∃ text, write .json [endlessResult] = .ok text ∧ Restores text [endlessResult] := by
  rintro ⟨text, written, -⟩
  rw [write_json_of_not_isMeasurable not_isMeasurable_endlessResult] at written
  exact absurd written nofun

end Report

end PlainScript
