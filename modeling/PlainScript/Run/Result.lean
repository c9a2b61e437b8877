/-
Results of runs, step by step.
-/

namespace PlainScript

/-- How a step or a whole run ends. -/
inductive Status where
  | passed
  | failed
  | skipped
  deriving DecidableEq, Repr

def Status.name : Status → String
  | passed => "passed"
  | failed => "failed"
  | skipped => "skipped"

/-- The result of a step. A status outside the known ones is kept as it was written; durations
are in milliseconds. -/
structure StepResult where
  index : Int
  action : String
  status : String
  message : Option String := none
  duration : Option Int := none
  error : Option String := none
  screenshot : Option String := none
  deriving DecidableEq, Repr

/-- Whether a step failed. -/
def StepResult.isFailure (result : StepResult) : Bool := result.status == Status.failed.name

structure TestResult where
  status : String
  message : String
  duration : Option Int := none
  error : Option String := none
  steps : List StepResult := []
  screenshots : List String := []
  deriving DecidableEq, Repr

end PlainScript
