/-
Execution of a case: the check before the run, and the run in a browser that is closed whatever
happens.
-/

import PlainScript.Run.Precheck
import PlainScript.Run.Steps

namespace PlainScript

/-- What is asked of a browser. -/
inductive BrowserCall where
  | launch (headless : Bool)
  | context (ignoreHttpsErrors : Bool)
  | close
  deriving DecidableEq, Repr

/-- What ends an execution without a result. -/
inductive ExecutionFault where
  | address (fault : Address.Fault)
  | run (fault : RunFault)
  deriving DecidableEq, Repr

/-- The result, what was asked of the browser, and the state of the page in the end. -/
structure Execution (σ : Type) where
  result : Except ExecutionFault TestResult
  browser : List BrowserCall
  page : σ

namespace Runner

variable {σ : Type}

/-- The result of a case that is not run. -/
def refusal (errors : List CaseError) (duration : Int) : TestResult :=
  { status := Status.failed.name
    message := "Test case validation failed"
    error := some (", ".intercalate (errors.map CaseError.message))
    duration := some duration }

/-- Runs the steps between the first and the last reading of the clock. -/
def timedRun (runner : Runner σ) (case : TestCase) : RunAct σ TestResult := do
  let started ← readClock
  let _ ← onStep (Run.onPage (runner.page.setTimeout runner.options.timeout))
  let result ← runner.runSteps case
  let finished ← readClock
  return { result with duration := some (runner.clock started finished) }

def browserCalls (options : RunOptions) : List BrowserCall :=
  [.launch options.headless, .context options.ignoreHttpsErrors, .close]

/-- Executes a case on a page in the given state. -/
def execute (runner : Runner σ) (case : TestCase) (state : σ) : Execution σ :=
  match Precheck.ofCase case with
  | .error fault => ⟨.error (.address fault), [], state⟩
  | .ok check =>
      if check.isValid then
        let (result, session) := (runner.timedRun case).run ⟨state, 0⟩
        ⟨result.mapError .run, browserCalls runner.options, session.page⟩
      else ⟨.ok (refusal check.errors (runner.clock 0 1)), [], state⟩

end Runner

end PlainScript
