/-
What becomes of the faults of a run.
-/

namespace PlainScript

inductive Severity where
  /-- The fault is told, and what is being done ends in good order. -/
  | reported (message : String)
  /-- It breaks off whatever is being done. -/
  | breaking
  /-- Only this reader gives up; it is not settled here whether anything is wrong at all. -/
  | unsettled
  deriving DecidableEq, Repr

namespace Severity

/-- What is told of a fault. -/
def message? : Severity → Option String
  | reported message => some message
  | breaking | unsettled => none

end Severity

end PlainScript
