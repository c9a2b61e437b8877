/-
A run carries out the steps of a case on a page. Each step is tried once, and the first failure
ends the run: the steps after it are skipped.
-/

import PlainScript.File.Directory
import PlainScript.Number.Double
import PlainScript.Run.Action
import PlainScript.Run.Result

namespace PlainScript

structure RunOptions where
  /-- The timeout of each operation in milliseconds. -/
  timeout : Int := 30000
  captureScreenshots : Bool := false
  headless : Bool := true
  screenshotFolder : String := "screenshots"
  ignoreHttpsErrors : Bool := false
  deriving DecidableEq, Repr

/-- What ends a run without a result: an expected value that is missing, or a screenshot that
cannot be taken after a step. -/
inductive RunFault where
  | noValue
  | folder (result : StepResult) (fault : File.Fault)
  | screenshot (result : StepResult) (fault : PageFault)
  deriving DecidableEq, Repr

/-- The milliseconds between two readings of a clock, given by their numbers. -/
abbrev Clock := (first last : Nat) → Int

/-- A clock that is so many seconds on at each reading. -/
def Clock.ofTick (tick : Number.Double) : Clock := fun first last =>
  let (numerator, denominator) := tick.ratio
  let elapsed : Int := ((last - first) * numerator * 1000 / denominator : Nat)
  if tick.isNegative then -elapsed else elapsed

/-- The state of a run: that of the page, and how often the clock has been read. -/
structure Session (σ : Type) where
  page : σ
  readings : Nat

abbrev RunAct (σ : Type) := ExceptT RunFault (StateM (Session σ))

/-- All that a run depends on besides the case. -/
structure Runner (σ : Type) where
  page : Page σ
  clock : Clock
  options : RunOptions
  directory : Directory

namespace Runner

variable {σ : Type}

/-- Reads the clock; the number of the reading stands for it. -/
def readClock : RunAct σ Nat :=
  modifyGet fun session => (session.readings, { session with readings := session.readings + 1 })

/-- Part of a step as part of the run. -/
def onStep {α : Type} (part : StepAct σ α) : RunAct σ (Except StepEnd α) :=
  modifyGet fun session =>
    let (result, page) := part.run session.page
    (result, { session with page })

def screenshotPath (runner : Runner σ) (name : String) (number : Nat) : String :=
  File.join runner.options.screenshotFolder (name ++ "-step-" ++ toString number ++ ".png")

/-- Takes a screenshot after a step, into a folder that is made for it. -/
def screenshot (runner : Runner σ) (path : String) (result : StepResult) :
    RunAct σ StepResult := do
  match runner.directory.makeFolder runner.options.screenshotFolder with
  | .error fault => throw (.folder result fault)
  | .ok _ =>
      match ← onStep (Run.onPage (runner.page.screenshot path)) with
      | .ok () => return { result with screenshot := some path }
      | .error (.fault (.page fault)) => throw (.screenshot result fault)
      | .error _ => throw .noValue

/-- The result of a step, which is the `number`th of its case. -/
def resultOf (number : Nat) (step : Step) (fault : Option StepFault) (duration : Int) :
    StepResult :=
  let status : Status := if fault.isNone then .passed else .failed
  { index := number - 1
    action := step.action
    status := status.name
    message := some ("Step " ++ toString number ++ " " ++ status.name)
    duration := some duration
    error := fault.map StepFault.message }

/-- Carries out a step, which is the `number`th of its case. -/
def runStep (runner : Runner σ) (heading : Heading) (number : Nat) (step : Step) :
    RunAct σ StepResult := do
  let started ← readClock
  let ended ← onStep (Run.act runner.page runner.options.timeout heading.baseUrl step)
  let fault ← match ended with
    | .ok () => pure none
    | .error (.fault fault) => pure (some fault)
    | .error .noValue => throw .noValue
  let finished ← readClock
  let result := resultOf number step fault (runner.clock started finished)
  if runner.options.captureScreenshots then
    runner.screenshot (runner.screenshotPath heading.name number) result
  else return result

def skipped (number : Nat) (step : Step) : StepResult :=
  { index := number - 1, action := step.action, status := Status.skipped.name }

/-- Carries out steps, the first of which is the `number`th, up to the first failure. -/
def runFrom (runner : Runner σ) (heading : Heading) : (number : Nat) → List Step →
    RunAct σ (List StepResult)
  | _, [] => return []
  | number, step :: steps => do
      let result ← runner.runStep heading number step
      if result.isFailure then
        return result :: (steps.zipIdx (number + 1)).map fun (step, number) => skipped number step
      else return result :: (← runner.runFrom heading (number + 1) steps)

end Runner

/-- The first result of a step that failed. -/
def failure? (results : List StepResult) : Option StepResult :=
  results.find? StepResult.isFailure

/-- The result of a whole run. -/
def TestResult.ofSteps (name : String) (results : List StepResult) : TestResult :=
  match failure? results with
  | some failed =>
      { status := Status.failed.name
        message := "Test failed at step " ++ toString (failed.index + 1) ++ ": " ++ failed.action
        error := failed.error
        steps := results
        screenshots := results.filterMap StepResult.screenshot }
  | none =>
      { status := Status.passed.name
        message := "Test '" ++ name ++ "' completed successfully"
        steps := results
        screenshots := results.filterMap StepResult.screenshot }

/-- What is reported of a step that failed. -/
def StepResult.notice (name : String) (result : StepResult) : String :=
  name ++ ": step " ++ toString (result.index + 1) ++ " (" ++ result.action ++ ") failed: " ++
    shownField result.error

/-- The last result before a run ended without one. -/
def RunFault.lastResult? : RunFault → Option StepResult
  | noValue => none
  | folder result _ | screenshot result _ => some result

/-- Carries out all steps of a case. -/
def Runner.runSteps {σ : Type} (runner : Runner σ) (case : TestCase) : RunAct σ TestResult := do
  let results ← runner.runFrom case.heading 1 case.steps
  return .ofSteps case.heading.name results

end PlainScript
