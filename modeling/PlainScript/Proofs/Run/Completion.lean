/-
A case that the check before the run accepts comes to a result on every page: no step wants a value
that is not there, and what a page says when an operation fails always has a first line.
-/

import PlainScript.Proofs.Run.Accepted
import PlainScript.Proofs.Run.Discipline

namespace PlainScript

variable {σ α β : Type}

/-! How failures are reported -/

namespace Chars

/-- A text that is not empty has a line, and so has a line that was begun before it. -/
theorem linesFrom_ne_nil {line text : List Char} (given : line ≠ [] ∨ text ≠ []) :
    linesFrom line text ≠ [] := by
  induction text generalizing line with
  | nil =>
      have begun : line ≠ [] := by simpa using given
      simp [linesFrom, begun]
  | cons c text ih =>
      rw [linesFrom.eq_def]
      split
      · rename_i same
        cases same
      · exact List.cons_ne_nil _ _
      · rename_i d after _ same
        obtain ⟨rfl, rfl⟩ := List.cons.inj same
        split
        · exact List.cons_ne_nil _ _
        · exact ih (.inl (List.cons_ne_nil _ _))

end Chars

/-- The line by which a fault of a page is told: the first that it says, or its kind if it says
nothing at all. -/
inductive PageFault.IsTold (fault : PageFault) : String → Prop where
  | line {first : String} {rest : List String} (lines : Text.lines fault.message = first :: rest) :
      fault.IsTold first
  | timeout (silent : fault.message = "") (kind : fault.isTimeout = true) :
      fault.IsTold "TimeoutError"
  | error (silent : fault.message = "") (kind : fault.isTimeout = false) : fault.IsTold "Error"

theorem PageFault.isTold_summary (fault : PageFault) : fault.IsTold fault.summary := by
  rw [summary]
  by_cases silent : fault.message = ""
  · rw [if_pos (by simpa using silent)]
    cases kind : fault.isTimeout with
    | true => exact .timeout silent kind
    | false => exact .error silent kind
  · have said : Text.lines fault.message ≠ [] := by
      rw [Text.lines, ne_eq, List.map_eq_nil_iff]
      exact Chars.linesFrom_ne_nil (.inr (by simpa using silent))
    obtain ⟨first, rest, lines⟩ := List.exists_cons_of_ne_nil said
    rw [if_neg (by simpa using silent), lines]
    exact .line lines

/-- The ways in which the failure of a step is reported. -/
inductive StepFault.IsReported : String → Prop where
  | timeout {fault : PageFault} {told : String} (kind : fault.isTimeout = true)
      (isTold : fault.IsTold told) : IsReported ("Timeout: " ++ told)
  | error {fault : PageFault} {told : String} (kind : fault.isTimeout = false)
      (isTold : fault.IsTold told) : IsReported told
  | notFound (selector : String) : IsReported ("Element not found: " ++ selector)
  | mismatch (found : Mismatch) : IsReported ("Assertion failed: " ++ found.message)

theorem StepFault.isReported_message (fault : StepFault) : IsReported fault.message := by
  cases fault with
  | page fault =>
      have same : (page fault).message =
          if fault.isTimeout = true then "Timeout: " ++ fault.summary else fault.summary := rfl
      rw [same]
      cases kind : fault.isTimeout with
      | true =>
          rw [if_pos rfl]
          exact .timeout kind fault.isTold_summary
      | false =>
          rw [if_neg Bool.false_ne_true]
          exact .error kind fault.isTold_summary
  | notFound selector => exact .notFound selector
  | mismatch found => exact .mismatch found

/-! Parts of steps that want no value -/

namespace Run

/-- The part of a step ends for want of a value in no state of the page. -/
def IsSupplied (part : StepAct σ α) : Prop :=
  ∀ state, (part.run.run state).1 ≠ .error .noValue

theorem isSupplied_pure (value : α) : IsSupplied (pure value : StepAct σ α) := fun _ same => by
  cases same

theorem isSupplied_fail (fault : StepFault) : IsSupplied (fail fault : StepAct σ α) :=
  fun _ same => by cases same

theorem isSupplied_onPage (act : PageAct σ α) : IsSupplied (onPage act) := by
  intro state same
  change (act.run.run state).1.mapError (fun fault => StepEnd.fault (.page fault)) = _ at same
  cases ended : (act.run.run state).1 <;> rw [ended] at same <;> cases same

/-- An operation that succeeds on the page succeeds as part of a step. -/
theorem run_onPage_of_ok {act : PageAct σ α} {state after : σ} {value : α}
    (done : act.run.run state = (.ok value, after)) :
    (onPage act).run.run state = (.ok value, after) := by
  change ((act.run.run state).1.mapError _, (act.run.run state).2) = _
  rw [done]
  rfl

theorem IsSupplied.bind {first : StepAct σ α} {next : α → StepAct σ β}
    (supplied : IsSupplied first) (later : ∀ value, IsSupplied (next value)) :
    IsSupplied (first >>= next) := by
  intro state
  rcases run : first.run.run state with ⟨cause | value, middle⟩
  · rw [run_bind_of_error run]
    intro same
    cases same
    exact supplied state (congrArg Prod.fst run)
  · rw [run_bind_of_ok run]
    exact later value middle

/-- What is done about a failure may want no value either. -/
theorem IsSupplied.tryCatch {first : StepAct σ α} {handle : StepEnd → StepAct σ α}
    (supplied : IsSupplied first) (handled : ∀ cause, cause ≠ .noValue → IsSupplied (handle cause)) :
    IsSupplied (tryCatch first handle) := by
  intro state
  rcases run : first.run.run state with ⟨cause | value, middle⟩
  · rw [run_tryCatch_of_error run]
    refine handled cause ?_ middle
    rintro rfl
    exact supplied state (congrArg Prod.fst run)
  · rw [run_tryCatch_of_ok run]
    intro same
    cases same

variable (page : Page σ) (timeout : Int)

theorem isSupplied_locate (locator : Option Locator) : IsSupplied (locate page locator) := by
  rw [locate]
  split
  · exact isSupplied_fail _
  · refine (isSupplied_onPage _).bind fun found => ?_
    split
    · exact isSupplied_fail _
    · exact isSupplied_pure _

theorem isSupplied_checkUrl (expected : String) : IsSupplied (checkUrl page timeout expected) := by
  refine (isSupplied_onPage _).tryCatch fun cause wanted => ?_
  split
  · exact (isSupplied_onPage _).bind fun actual => isSupplied_fail _
  · exact fun state same => wanted (Except.error.inj same)

/-- A check that compares with a value is supplied with it. -/
theorem isSupplied_checkElement (check : ElementCheck) (selector : String)
    {expected : Option String} (given : check.needsValue = true → expected ≠ none) :
    IsSupplied (checkElement page check selector expected) := by
  cases check with
  | containsText =>
      obtain ⟨expected, rfl⟩ := Option.ne_none_iff_exists'.mp (given rfl)
      refine (isSupplied_onPage _).bind fun actual => ?_
      dsimp only
      split
      · exact isSupplied_pure _
      · exact isSupplied_fail _
  | exactText | hasValue =>
      refine (isSupplied_onPage _).bind fun actual => ?_
      extract_lets
      split
      · exact isSupplied_pure _
      · exact isSupplied_fail _
  | isEnabled | isDisabled =>
      refine (isSupplied_onPage _).bind fun enabled => ?_
      split
      · first | exact isSupplied_pure _ | exact isSupplied_fail _
      · first | exact isSupplied_pure _ | exact isSupplied_fail _
  | visible => exact isSupplied_pure _

theorem isSupplied_check {assertion : Assertion}
    (given : Precheck.needsValue assertion = true → assertion.value ≠ none) :
    IsSupplied (check page timeout assertion) := by
  rw [Precheck.needsValue] at given
  rw [check]
  cases known : assertion.kind? with
  | none => exact (isSupplied_locate page _).bind fun _ => isSupplied_fail _
  | some kind =>
      simp only [known] at given
      cases kind with
      | urlContains =>
          obtain ⟨expected, value⟩ := Option.ne_none_iff_exists'.mp (given rfl)
          rw [value]
          exact isSupplied_checkUrl page timeout expected
      | element kind =>
          cases kind with
          | visible =>
              dsimp only
              split
              · exact isSupplied_fail _
              · exact isSupplied_onPage _
          | _ =>
              exact (isSupplied_locate page _).bind fun selector =>
                isSupplied_checkElement page _ selector given

/-- A step in which the check before the run finds no error wants no value. -/
theorem isSupplied_act {number : Nat} {step : Step}
    (clear : Precheck.stepErrors number step = []) (baseUrl : String) :
    IsSupplied (act page timeout baseUrl step) := by
  rw [Precheck.stepErrors] at clear
  rw [act]
  cases known : step.kind? with
  | none => exact isSupplied_fail _
  | some action =>
      simp only [known] at clear
      cases action with
      | goto => exact isSupplied_onPage _
      | fill | click =>
          exact (isSupplied_locate page _).bind fun selector => isSupplied_onPage _
      | check =>
          cases asserted : step.assertion with
          | none => exact isSupplied_fail _
          | some assertion =>
              change Precheck.assertionErrors number step.assertion = [] at clear
              rw [asserted, Precheck.assertionErrors] at clear
              refine isSupplied_check page timeout fun needed missing => ?_
              -- A value that is not there is a placeholder.
              have placeholder : Precheck.isPlaceholder assertion.value = true := by
                rw [missing]
                rfl
              rw [needed, placeholder] at clear
              split at clear <;> cases clear

end Run

/-! Runs -/

namespace Runner

variable {runner : Runner σ} {heading : Heading}

/-- Wherever pictures are wanted, their folder can be made and the page takes them. -/
structure TakesPictures (runner : Runner σ) : Prop where
  folder : runner.options.captureScreenshots = true →
    ∃ after, runner.directory.makeFolder runner.options.screenshotFolder = .ok after
  picture : runner.options.captureScreenshots = true → ∀ path state, ∃ after,
    (runner.page.screenshot path).run.run state = (.ok (), after)

/-- The results of a step or of steps: each that has an error reports it. -/
def Reported (results : List StepResult) : Prop :=
  ∀ entry ∈ results, ∀ error ∈ entry.error, StepFault.IsReported error

/-- A step that has come to its end is finished. -/
theorem exists_run_finishStep (pictures : runner.TakesPictures) (number : Nat) (step : Step)
    (started : Nat) (fault : Option StepFault) (session : Session σ) :
    ∃ result after, (runner.finishStep heading number step started fault).run.run session =
      (.ok result, after) ∧ Reported [result] := by
  have reported : ∀ error ∈ fault.map StepFault.message, StepFault.IsReported error := by
    intro error member
    obtain ⟨fault, -, rfl⟩ := Option.map_eq_some_iff.mp member
    exact fault.isReported_message
  rw [finishStep, run_bind_of_ok (run_readClock session)]
  by_cases pictured : runner.options.captureScreenshots = true
  · obtain ⟨folder, made⟩ := pictures.folder pictured
    obtain ⟨page, taken⟩ := pictures.picture pictured
      (runner.screenshotPath heading.name number) session.page
    have shot := run_onStep ⟨session.page, session.readings + 1⟩ (Run.run_onPage_of_ok taken)
    simp only [pictured, if_true, screenshot, made]
    rw [run_bind_of_ok shot]
    exact ⟨_, _, rfl, List.forall_mem_singleton.mpr reported⟩
  · simp only [pictured, Bool.false_eq_true, if_false]
    exact ⟨_, _, rfl, List.forall_mem_singleton.mpr reported⟩

/-- A step that wants no value is carried out. -/
theorem exists_run_runStep (pictures : runner.TakesPictures) (number : Nat) {step : Step}
    (supplied : Run.IsSupplied (Run.act runner.page runner.options.timeout heading.baseUrl step))
    (session : Session σ) :
    ∃ result after, (runner.runStep heading number step).run.run session = (.ok result, after) ∧
      Reported [result] := by
  rcases acted : (Run.act runner.page runner.options.timeout heading.baseUrl step).run.run
    session.page with ⟨ended, page⟩
  rw [run_runStep_eq runner number session acted]
  rcases ended with (fault | -) | ⟨⟩
  · exact exists_run_finishStep pictures number step session.readings (some fault) _
  · exact absurd (congrArg Prod.fst acted) (supplied session.page)
  · exact exists_run_finishStep pictures number step session.readings none _

/-- Steps that want no value are carried out, up to the first that fails. -/
theorem exists_run_runFrom (pictures : runner.TakesPictures) (number : Nat) {steps : List Step}
    (supplied : ∀ step ∈ steps,
      Run.IsSupplied (Run.act runner.page runner.options.timeout heading.baseUrl step))
    (session : Session σ) :
    ∃ results after, (runner.runFrom heading number steps).run.run session =
      (.ok results, after) ∧ Reported results := by
  induction steps generalizing number session with
  | nil => exact ⟨[], session, rfl, List.forall_mem_nil _⟩
  | cons step steps ih =>
      rw [List.forall_mem_cons] at supplied
      obtain ⟨result, middle, taken, reported⟩ :=
        exists_run_runStep pictures number supplied.1 session
      rw [Reported, List.forall_mem_singleton] at reported
      rw [runFrom, run_bind_of_ok taken]
      cases failure : result.isFailure with
      | true =>
          rw [if_pos rfl]
          refine ⟨_, _, rfl, List.forall_mem_cons.mpr ⟨reported, fun entry member error => ?_⟩⟩
          obtain ⟨_, _, rfl⟩ := List.mem_map.mp member
          rintro ⟨⟩
      | false =>
          obtain ⟨results, after, followed, reportedRest⟩ :=
            ih (number + 1) supplied.2 middle
          rw [if_neg Bool.false_ne_true, run_bind_of_ok followed]
          exact ⟨_, _, rfl, List.forall_mem_cons.mpr ⟨reported, reportedRest⟩⟩

/-- A case that the check before the run accepts comes to a result on every page that takes the
pictures asked of it. The result is that of an orderly run, and each failure in it is one of those
that are reported. -/
theorem exists_result_of_isValid {case : TestCase} {check : Precheck}
    (checked : Precheck.ofCase case = .ok check) (valid : check.isValid = true)
    (pictures : runner.TakesPictures) (session : Session σ) :
    ∃ result after, (runner.runSteps case).run.run session = (.ok result, after) ∧
      (∃ calls, runner.IsOrderly case result calls) ∧
      ∀ entry ∈ result.steps, ∀ error ∈ entry.error, StepFault.IsReported error := by
  have supplied : ∀ step ∈ case.steps, Run.IsSupplied
      (Run.act runner.page runner.options.timeout case.heading.baseUrl step) := by
    intro step member
    obtain ⟨number, clear⟩ := (Precheck.accepts_of_isValid checked valid).steps step member
    exact Run.isSupplied_act runner.page runner.options.timeout clear case.heading.baseUrl
  obtain ⟨results, after, followed, reported⟩ :=
    exists_run_runFrom pictures 1 supplied session
  obtain ⟨calls, carries, -⟩ := run_runFrom followed
  refine ⟨.ofSteps case.heading.name results, after, ?_, ⟨calls, carries.isOrderly⟩, ?_⟩
  · rw [runSteps, run_bind_of_ok followed]
    rfl
  · rw [TestResult.ofSteps]
    split <;> exact reported

/-- A page that answers a click with an empty line ends the run, and a picture is taken of it. -/
theorem exists_result_of_emptyLine :
    let runner : Runner PageRecord := ⟨PageScript.page
      { present := ["a"], errors := [("a", ⟨false, "\n"⟩)] }, fun _ _ => 0,
      { captureScreenshots := true }, .empty⟩
    let case : TestCase := ⟨⟨"menu", "https://app.test", none, []⟩, [.goto "/", .click (.css "a")]⟩
    Precheck.ofCase case = .ok ⟨[], [.noCheck]⟩ ∧ runner.TakesPictures ∧
      ∃ result after, (runner.runSteps case).run.run ⟨{}, 0⟩ = (.ok result, after) ∧
        result.error = some "" ∧ result.screenshots.length = 2 := by
  intro runner case
  have checked : Precheck.ofCase case = .ok ⟨[], [.noCheck]⟩ := by decide
  have made : ∃ after, Directory.empty.makeFolder "screenshots" = .ok after := ⟨_, rfl⟩
  have pictures : runner.TakesPictures := ⟨fun _ => made, fun _ path state => ⟨_, rfl⟩⟩
  obtain ⟨result, after, ran, -⟩ := exists_result_of_isValid checked rfl pictures ⟨{}, 0⟩
  have told : ((runner.runSteps case).run.run ⟨{}, 0⟩).1.toOption.map
      (fun result => (result.error, result.screenshots.length)) = some (some "", 2) := by
    decide
  rw [ran] at told
  have both := Option.some.inj told
  rw [Prod.mk.injEq] at both
  exact ⟨checked, pictures, result, after, ran, both⟩

end Runner

end PlainScript
