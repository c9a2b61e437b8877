/-
What every run that ends with a result keeps to: it takes the steps in order, once each, up to the
first that fails, and skips the rest. A recorded page shows what the page is asked for.
-/

import PlainScript.Proofs.Run.Recording
import PlainScript.Run.Script
import PlainScript.Run.Steps

namespace PlainScript

variable {σ : Type}

/-- Whether the call does something to the page rather than read from it. -/
def PageCall.isDeed : PageCall → Bool
  | goto _ | fill _ _ | click _ => true
  | _ => false

/-- A step does no more than one thing to the page. -/
theorem Run.countP_isDeed_stepCalls_le (timeout : Int) (baseUrl : String) (step : Step) :
    (stepCalls timeout baseUrl step).countP PageCall.isDeed ≤ 1 := by
  have located (locator : Option Locator) (later : String → List PageCall)
      (few : ∀ selector, (later selector).countP PageCall.isDeed ≤ 1) :
      (locatedCalls locator later).countP PageCall.isDeed ≤ 1 := by
    rw [locatedCalls]
    split
    · exact few _
    · exact Nat.zero_le _
  have none (check : ElementCheck) (selector : String) :
      (checkCalls selector check).countP PageCall.isDeed ≤ 1 := by
    cases check <;> exact Nat.zero_le _
  rw [stepCalls]
  split
  · exact Nat.le_refl 1
  · exact located _ _ fun _ => Nat.le_refl 1
  · exact located _ _ fun _ => Nat.le_refl 1
  · cases step.assertion with
    | none => exact Nat.zero_le _
    | some assertion =>
        rw [Option.elim_some, assertionCalls]
        split
        · split <;> exact Nat.zero_le _
        · split <;> exact Nat.zero_le _
        · exact located _ _ fun selector => none _ selector
        · exact located _ _ fun _ => Nat.zero_le _
  · exact Nat.zero_le _

/-- The state of a run on a page whose record says what it was asked for before. -/
def Session.recorded (session : Session σ) (before : List PageCall) : Session (Recorded σ) :=
  ⟨(session.page, before), session.readings⟩

namespace Runner

/-- The same run on the recorded page. -/
def recorded (runner : Runner σ) : Runner (Recorded σ) :=
  ⟨runner.page.recorded, runner.clock, runner.options, runner.directory⟩

variable (runner : Runner σ) (heading : Heading)

/-- The picture that is taken after a step, if pictures are wanted. -/
def picture? (number : Nat) : Option String :=
  if runner.options.captureScreenshots then some (runner.screenshotPath heading.name number)
  else none

/-- The `number`th step was taken with the result, and the page was asked for the calls. -/
structure Takes (number : Nat) (step : Step) (result : StepResult) (calls : List PageCall) :
    Prop where
  index : result.index = number - 1
  action : result.action = step.action
  status : result.status = Status.passed.name ∧ result.error = none ∨
    result.status = Status.failed.name ∧ result.error ≠ none
  screenshot : result.screenshot = runner.picture? heading number
  calls : ∃ acted, acted <+: Run.stepCalls runner.options.timeout heading.baseUrl step ∧
    calls = acted ++ (runner.picture? heading number).toList.map PageCall.screenshot

variable {runner heading} {number : Nat} {step : Step}

theorem takes_resultOf (runner : Runner σ) (heading : Heading) (number : Nat) (step : Step)
    (fault : Option StepFault) (duration : Int) {acted : List PageCall}
    (front : acted <+: Run.stepCalls runner.options.timeout heading.baseUrl step) :
    runner.Takes heading number step
      { resultOf number step fault duration with screenshot := runner.picture? heading number }
      (acted ++ (runner.picture? heading number).toList.map PageCall.screenshot) where
  index := rfl
  action := rfl
  status := by
    cases fault with
    | none => exact .inl ⟨rfl, rfl⟩
    | some fault => exact .inr ⟨rfl, fun none => by cases none⟩
  screenshot := rfl
  calls := ⟨acted, front, rfl⟩

theorem run_readClock (session : Session σ) : (readClock : RunAct σ Nat).run.run session =
    (.ok session.readings, ⟨session.page, session.readings + 1⟩) := rfl

theorem run_onStep {α : Type} {part : StepAct σ α} (session : Session σ) {ended : Except StepEnd α}
    {page : σ} (done : part.run.run session.page = (ended, page)) :
    (onStep part).run.run session = (.ok ended, ⟨page, session.readings⟩) := by
  change (Except.ok (part.run.run session.page).1,
    Session.mk (part.run.run session.page).2 session.readings) = _
  rw [done]

/-- What is left of a step once it is known how it ended. -/
def finishStep (runner : Runner σ) (heading : Heading) (number : Nat) (step : Step) (started : Nat)
    (fault : Option StepFault) : RunAct σ StepResult := do
  let finished ← readClock
  let result := resultOf number step fault (runner.clock started finished)
  if runner.options.captureScreenshots then
    runner.screenshot (runner.screenshotPath heading.name number) result
  else return result

/-- A step is finished with its fault, if it has one; a missing value ends the run. -/
theorem run_runStep_eq (runner : Runner σ) (number : Nat) (session : Session σ)
    {ended : Except StepEnd Unit} {page : σ}
    (acted : (Run.act runner.page runner.options.timeout heading.baseUrl step).run.run
      session.page = (ended, page)) :
    (runner.runStep heading number step).run.run session =
      (match ended with
      | .ok () => runner.finishStep heading number step session.readings none
      | .error (.fault fault) => runner.finishStep heading number step session.readings (some fault)
      | .error .noValue => throw RunFault.noValue).run.run ⟨page, session.readings + 1⟩ := by
  have acted' := run_onStep ⟨session.page, session.readings + 1⟩ acted
  rw [runStep, run_bind_of_ok (run_readClock session), run_bind_of_ok acted']
  rcases ended with (fault | -) | ⟨⟩ <;> rfl

/-- A screenshot that succeeds is recorded and changes nothing else in the result. -/
theorem run_screenshot {path : String} {taken result : StepResult} {session after : Session σ}
    (ran : (runner.screenshot path taken).run.run session = (.ok result, after)) :
    result = { taken with screenshot := some path } ∧ ∀ before,
      (runner.recorded.screenshot path taken).run.run (session.recorded before) =
        (.ok result, after.recorded (before ++ [.screenshot path])) := by
  cases made : runner.directory.makeFolder runner.options.screenshotFolder with
  | error fault =>
      simp only [screenshot, made] at ran
      cases ran
  | ok folder =>
      rcases shot : (Run.onPage (runner.page.screenshot path)).run.run session.page
        with ⟨ended, page⟩
      have asked := asks_onPage (.screenshot path) _ _ _ _ shot
      simp only [screenshot, made, run_bind_of_ok (run_onStep session shot)] at ran
      simp only [screenshot, recorded, made]
      rcases ended with (⟨fault | selector | mismatch⟩ | -) | ⟨⟩ <;> cases ran
      refine ⟨rfl, fun before => ?_⟩
      have asked' := run_onStep (session.recorded before) (asked before)
      exact (run_bind_of_ok asked' _).trans rfl

/-- What is left of a step comes to the same result on the recorded page. -/
theorem run_finishStep {started : Nat} {fault : Option StepFault} {result : StepResult}
    {session after : Session σ} {acted : List PageCall}
    (front : acted <+: Run.stepCalls runner.options.timeout heading.baseUrl step)
    (ran : (runner.finishStep heading number step started fault).run.run session =
      (.ok result, after)) :
    ∃ calls, runner.Takes heading number step result (acted ++ calls) ∧ ∀ before,
      (runner.recorded.finishStep heading number step started fault).run.run
        (session.recorded before) = (.ok result, after.recorded (before ++ calls)) := by
  rw [finishStep, run_bind_of_ok (run_readClock session)] at ran
  have taken := takes_resultOf runner heading number step fault
    (runner.clock started session.readings) front
  rw [picture?] at taken
  by_cases pictured : runner.options.captureScreenshots = true
  · simp only [pictured, if_true] at ran taken
    obtain ⟨rfl, same⟩ := run_screenshot ran
    refine ⟨_, taken, fun before => ?_⟩
    rw [finishStep, run_bind_of_ok (run_readClock _)]
    simp only [recorded, pictured, if_true]
    exact same before
  · simp only [pictured, Bool.false_eq_true, if_false] at ran taken
    cases ran
    refine ⟨_, taken, fun before => ?_⟩
    rw [finishStep, run_bind_of_ok (run_readClock _)]
    simp only [recorded, pictured, Bool.false_eq_true, if_false]
    rw [Option.toList_none, List.map_nil, List.append_nil]
    rfl

/-- A step that ends with a result is taken, on the recorded page as on the page itself. -/
theorem run_runStep {result : StepResult} {session after : Session σ}
    (ran : (runner.runStep heading number step).run.run session = (.ok result, after)) :
    ∃ calls, runner.Takes heading number step result calls ∧ ∀ before,
      (runner.recorded.runStep heading number step).run.run (session.recorded before) =
        (.ok result, after.recorded (before ++ calls)) := by
  rcases acted : (Run.act runner.page runner.options.timeout heading.baseUrl step).run.run
    session.page with ⟨ended, page⟩
  obtain ⟨calls, front, same⟩ := Run.begins_act _ _ _ _ _ _ _ acted
  have unrecorded := runner.run_runStep_eq number session acted
  have recorded (before : List PageCall) :=
    runner.recorded.run_runStep_eq number (session.recorded before) (same before)
  rw [unrecorded] at ran
  rcases ended with (fault | -) | ⟨⟩
  · obtain ⟨more, taken, rest⟩ := run_finishStep front ran
    refine ⟨calls ++ more, taken, fun before => ?_⟩
    rw [recorded, ← List.append_assoc]
    exact rest (before ++ calls)
  · cases ran
  · obtain ⟨more, taken, rest⟩ := run_finishStep front ran
    refine ⟨calls ++ more, taken, fun before => ?_⟩
    rw [recorded, ← List.append_assoc]
    exact rest (before ++ calls)

/-- A step without a failure passed. -/
theorem Takes.status_of_success {result : StepResult}
    {calls : List PageCall} (takes : runner.Takes heading number step result calls)
    (success : result.isFailure = false) :
    result.status = Status.passed.name := by
  rcases takes.status with ⟨passed, -⟩ | ⟨failed, -⟩
  · exact passed
  · rw [StepResult.isFailure, failed, beq_self_eq_true] at success
    cases success

/-- A step that failed says why. -/
theorem Takes.error_of_failure {result : StepResult}
    {calls : List PageCall} (takes : runner.Takes heading number step result calls)
    (failure : result.isFailure = true) :
    result.status = Status.failed.name ∧ ∃ error, result.error = some error := by
  rcases takes.status with ⟨passed, -⟩ | ⟨failed, error⟩
  · rw [StepResult.isFailure, passed] at failure
    exact absurd failure (by decide)
  · exact ⟨failed, Option.ne_none_iff_exists'.mp error⟩

/-! Runs of steps -/

/-- What is reported of steps that are skipped. -/
def skips (number : Nat) (steps : List Step) : List StepResult :=
  (steps.zipIdx number).map fun (step, number) => skipped number step

theorem statuses_skips (number : Nat) (steps : List Step) :
    (skips number steps).map StepResult.status =
      List.replicate steps.length Status.skipped.name := by
  rw [skips, List.map_map, List.eq_replicate_iff]
  refine ⟨by simp, fun status member => ?_⟩
  obtain ⟨_, _, rfl⟩ := List.mem_map.mp member
  rfl

/-- The steps, the first of which is the `number`th, were carried out with the results, and the page
was asked for the calls of each step that was taken. -/
inductive Carries (runner : Runner σ) (heading : Heading) :
    (number : Nat) → List Step → List StepResult → List (List PageCall) → Prop where
  | done (number : Nat) : Carries runner heading number [] [] []
  | failed {number : Nat} {step : Step} {result : StepResult} {calls : List PageCall}
      (steps : List Step) (takes : runner.Takes heading number step result calls)
      (failure : result.isFailure = true) :
      Carries runner heading number (step :: steps) (result :: skips (number + 1) steps) [calls]
  | passed {number : Nat} {step : Step} {result : StepResult} {calls : List PageCall}
      {steps : List Step} {results : List StepResult} {later : List (List PageCall)}
      (takes : runner.Takes heading number step result calls)
      (success : result.isFailure = false)
      (rest : Carries runner heading (number + 1) steps results later) :
      Carries runner heading number (step :: steps) (result :: results) (calls :: later)

/-- Steps that end with results are carried out, on the recorded page as on the page itself. -/
theorem run_runFrom {steps : List Step} {results : List StepResult} {session after : Session σ}
    (ran : (runner.runFrom heading number steps).run.run session = (.ok results, after)) :
    ∃ calls, runner.Carries heading number steps results calls ∧ ∀ before,
      (runner.recorded.runFrom heading number steps).run.run (session.recorded before) =
        (.ok results, after.recorded (before ++ calls.flatten)) := by
  induction steps generalizing number results session with
  | nil =>
      cases ran
      refine ⟨[], .done number, fun before => ?_⟩
      rw [List.flatten_nil, List.append_nil]
      rfl
  | cons step steps ih =>
      rw [runFrom] at ran
      obtain ⟨result, middle, taken, ran⟩ := exists_of_run_bind_eq_ok ran
      obtain ⟨calls, takes, same⟩ := run_runStep taken
      cases failure : result.isFailure with
      | true =>
          rw [failure, if_pos rfl] at ran
          cases ran
          refine ⟨[calls], .failed steps takes failure, fun before => ?_⟩
          rw [runFrom, run_bind_of_ok (same before), failure, if_pos rfl, List.flatten_singleton]
          rfl
      | false =>
          rw [failure, if_neg Bool.false_ne_true] at ran
          obtain ⟨rest, last, followed, ⟨⟩⟩ := exists_of_run_bind_eq_ok ran
          obtain ⟨later, carries, sameRest⟩ := ih followed
          refine ⟨calls :: later, .passed takes failure carries, fun before => ?_⟩
          rw [runFrom, run_bind_of_ok (same before), failure, if_neg Bool.false_ne_true,
            run_bind_of_ok (sameRest _), List.flatten_cons, ← List.append_assoc]
          rfl

/-! What carrying out steps comes to -/

/-- How the results of so many steps, of which so many were taken, decide the result of a run. -/
inductive Verdict (count : Nat) (result : TestResult) : (taken : Nat) → Prop where
  | passed (allPassed : result.steps.map StepResult.status = List.replicate count Status.passed.name)
      (status : result.status = Status.passed.name) : Verdict count result count
  | failed (k : Nat) (failure : StepResult) (error : String)
      (found : result.steps[k]? = some failure)
      (statuses : result.steps.map StepResult.status = List.replicate k Status.passed.name ++
        Status.failed.name :: List.replicate (count - (k + 1)) Status.skipped.name)
      (status : result.status = Status.failed.name)
      (cause : failure.error = some error) (sameCause : result.error = some error)
      (message : result.message =
        "Test failed at step " ++ toString (k + 1) ++ ": " ++ failure.action) :
      Verdict count result (k + 1)

namespace Carries

variable {steps : List Step} {results : List StepResult} {calls : List (List PageCall)}

/-- There is an entry for each step in order. -/
theorem entries (carries : Carries runner heading number steps results calls) :
    results.map (fun entry => (entry.index, entry.action)) =
      (steps.zipIdx number).map fun (step, number) => ((number : Int) - 1, step.action) := by
  induction carries with
  | done number => rfl
  | failed steps takes failure =>
      rw [List.map_cons, List.zipIdx_cons, List.map_cons, takes.index, takes.action, skips,
        List.map_map]
      rfl
  | passed takes success rest ih =>
      rw [List.map_cons, List.zipIdx_cons, List.map_cons, takes.index, takes.action, ih]

/-- There is a picture of each step that was taken, in order, if pictures are wanted. -/
theorem pictures (carries : Carries runner heading number steps results calls) :
    results.filterMap StepResult.screenshot =
      (List.range' number calls.length).filterMap (runner.picture? heading) := by
  induction carries with
  | done number => rfl
  | failed steps takes failure =>
      have none (number : Nat) : (skips number steps).filterMap StepResult.screenshot = [] := by
        rw [skips, List.filterMap_map, List.filterMap_eq_nil_iff]
        exact fun _ _ => rfl
      rw [List.length_singleton, List.range'_one, List.filterMap_cons, List.filterMap_cons,
        takes.screenshot, none, List.filterMap_nil]
  | passed takes success rest ih =>
      rw [List.length_cons, List.range'_succ, List.filterMap_cons, List.filterMap_cons,
        takes.screenshot, ih]

/-- Either all steps passed, or one failed after steps that passed and the rest was skipped. -/
theorem statuses (carries : Carries runner heading number steps results calls) :
    (calls.length = steps.length ∧ failure? results = none ∧
      results.map StepResult.status = List.replicate steps.length Status.passed.name) ∨
    ∃ k failure error, calls.length = k + 1 ∧ failure? results = some failure ∧
      results[k]? = some failure ∧ failure.index = ((number + k : Nat) : Int) - 1 ∧
      failure.error = some error ∧
      results.map StepResult.status = List.replicate k Status.passed.name ++
        Status.failed.name :: List.replicate (steps.length - (k + 1)) Status.skipped.name := by
  induction carries with
  | done number => exact .inl ⟨rfl, rfl, rfl⟩
  | @failed number step result calls steps takes failure =>
      obtain ⟨status, error, cause⟩ := takes.error_of_failure failure
      refine .inr ⟨0, result, error, rfl, ?_, rfl, takes.index, cause, ?_⟩
      · rw [failure?, List.find?_cons_of_pos failure]
      · rw [List.map_cons, status, statuses_skips]
        rfl
  | @passed number step result calls steps results later takes success rest ih =>
      have status := takes.status_of_success success
      have skip : failure? (result :: results) = failure? results :=
        List.find?_cons_of_neg (by rw [success]; exact Bool.false_ne_true)
      rcases ih with ⟨taken, none, allPassed⟩ |
        ⟨k, failure, error, taken, first, found, index, cause, all⟩
      · refine .inl ⟨by rw [List.length_cons, List.length_cons, taken], skip.trans none, ?_⟩
        rw [List.map_cons, status, allPassed]
        rfl
      · refine .inr ⟨k + 1, failure, error, by rw [List.length_cons, taken], skip.trans first, found,
          ?_, cause, ?_⟩
        · rw [index, Nat.add_right_comm, Nat.add_assoc]
        · rw [List.map_cons, status, all, List.length_cons, Nat.add_sub_add_right]
          rfl

/-- The first failure, if there is one, decides the result of the run. -/
theorem verdict (carries : Carries runner heading 1 steps results calls) (name : String) :
    Verdict steps.length (.ofSteps name results) calls.length := by
  rcases carries.statuses with
    ⟨taken, none, allPassed⟩ | ⟨k, failure, error, taken, first, found, index, cause, all⟩
  · rw [taken, TestResult.ofSteps, none]
    exact .passed allPassed rfl
  · rw [taken, TestResult.ofSteps, first]
    refine .failed k failure error found all rfl cause cause ?_
    have number : failure.index + 1 = ((k + 1 : Nat) : Int) := by omega
    dsimp only
    rw [number]
    rfl

/-- A step that was taken asked for the calls of its own. -/
theorem exists_takes (carries : Carries runner heading number steps results calls) (i : Nat)
    (given : i < calls.length) :
    ∃ step result, steps[i]? = some step ∧ results[i]? = some result ∧
      runner.Takes heading (number + i) step result calls[i] := by
  induction carries generalizing i with
  | done number => exact absurd given (Nat.not_lt_zero i)
  | @failed number step result calls steps takes failure =>
      obtain rfl : i = 0 := by simpa using given
      exact ⟨step, result, rfl, rfl, takes⟩
  | @passed number step result calls steps results later takes success rest ih =>
      cases i with
      | zero => exact ⟨step, result, rfl, rfl, takes⟩
      | succ i =>
          obtain ⟨other, its, inSteps, inResults, takesOther⟩ := ih i (Nat.lt_of_succ_lt_succ given)
          refine ⟨other, its, inSteps, inResults, ?_⟩
          rw [Nat.add_right_comm] at takesOther
          exact takesOther

end Carries

/-! Whole runs -/

/-- What a run keeps to that has the result and asks the page for the calls, step by step. -/
structure IsOrderly (runner : Runner σ) (case : TestCase) (result : TestResult)
    (calls : List (List PageCall)) : Prop where
  entries : result.steps.map (fun entry => (entry.index, entry.action)) =
    case.steps.zipIdx.map fun (step, i) => ((i : Int), step.action)
  verdict : Verdict case.steps.length result calls.length
  screenshots : result.screenshots =
    if runner.options.captureScreenshots then
      (List.range calls.length).map fun i => runner.screenshotPath case.heading.name (i + 1)
    else []
  asked : ∀ i (taken : i < calls.length), ∃ step acted, case.steps[i]? = some step ∧
    acted <+: Run.stepCalls runner.options.timeout case.heading.baseUrl step ∧
    acted.countP PageCall.isDeed ≤ 1 ∧
    calls[i] = acted ++ if runner.options.captureScreenshots then
      [.screenshot (runner.screenshotPath case.heading.name (i + 1))] else []

theorem Carries.isOrderly {case : TestCase} {results : List StepResult}
    {calls : List (List PageCall)}
    (carries : Carries runner case.heading 1 case.steps results calls) :
    runner.IsOrderly case (.ofSteps case.heading.name results) calls := by
  have steps : (TestResult.ofSteps case.heading.name results).steps = results := by
    rw [TestResult.ofSteps]
    split <;> rfl
  have screenshots : (TestResult.ofSteps case.heading.name results).screenshots =
      results.filterMap StepResult.screenshot := by
    rw [TestResult.ofSteps]
    split <;> rfl
  refine ⟨?_, carries.verdict case.heading.name, ?_, fun i taken => ?_⟩
  · rw [steps, carries.entries, List.zipIdx_eq_map_add, List.map_map]
    refine List.map_congr_left fun numbered _ => ?_
    have number : ((1 + numbered.2 : Nat) : Int) - 1 = numbered.2 := by omega
    exact congrArg (·, numbered.1.action) number
  · rw [screenshots, carries.pictures, List.range'_eq_map_range]
    by_cases pictured : runner.options.captureScreenshots = true
    · simp [picture?, pictured, Function.comp_def, Nat.add_comm]
    · simp [picture?, pictured]
  · obtain ⟨step, entry, given, -, takes⟩ := carries.exists_takes i taken
    obtain ⟨acted, front, asked⟩ := takes.calls
    refine ⟨step, acted, given, front, ?_, ?_⟩
    · exact Nat.le_trans front.sublist.countP_le (Run.countP_isDeed_stepCalls_le _ _ step)
    · rw [asked, picture?, Nat.add_comm]
      split <;> rfl

/-- A run that ends with a result is orderly, and the page need not be told what is recorded. -/
theorem isOrderly_of_runSteps {case : TestCase} {result : TestResult} {session after : Session σ}
    (ran : (runner.runSteps case).run.run session = (.ok result, after)) :
    ∃ calls, runner.IsOrderly case result calls ∧
      (runner.recorded.runSteps case).run.run (session.recorded []) =
        (.ok result, after.recorded calls.flatten) := by
  rw [runSteps] at ran
  obtain ⟨results, middle, followed, ⟨⟩⟩ := exists_of_run_bind_eq_ok ran
  obtain ⟨calls, carries, same⟩ := run_runFrom followed
  refine ⟨calls, carries.isOrderly, ?_⟩
  rw [runSteps, run_bind_of_ok (same [])]
  rfl

/-- A click on an element that is not there is the last thing that the page is asked for. -/
theorem isOrderly_missing_element :
    ∃ result calls,
      IsOrderly ⟨PageScript.page {}, fun _ _ => 0, {}, .empty⟩
        ⟨⟨"case", "", none, []⟩, [.click (.css "a"), .goto "/"]⟩ result calls ∧
      result.message = "Test failed at step 1: click" ∧ calls.flatten = [.count "a"] := by
  have ran : (runSteps ⟨PageScript.page {}, fun _ _ => 0, {}, .empty⟩
      ⟨⟨"case", "", none, []⟩, [.click (.css "a"), .goto "/"]⟩).run.run ⟨{}, 0⟩ =
        (.ok _, ⟨{}, 2⟩) := rfl
  obtain ⟨calls, orderly, same⟩ := isOrderly_of_runSteps ran
  have asked := congrArg (fun ended => ended.2.page.2) same
  exact ⟨_, calls, orderly, rfl, asked.symm⟩

end Runner

end PlainScript
