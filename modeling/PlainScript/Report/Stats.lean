/-
Statistics of test results, and durations as text.
-/

import PlainScript.Number.Integer
import PlainScript.Number.Text
import PlainScript.Run.Result

namespace PlainScript

/-- Why results cannot be reported: milliseconds give too large a number when they are divided,
by the count of the results or by those of a unit, or a number has too many digits. -/
inductive ReportFault where
  | oversized (milliseconds : Int) (divisor : Nat)
  | overlong
  deriving DecidableEq, Repr

def ReportFault.severity : ReportFault → Severity
  | oversized _ _ => Number.Unwritable.oversized.severity
  | overlong => Number.Unwritable.overlong.severity

/-- The quotient of a whole number and a count, as a number with places. -/
def quotient (dividend : Int) (divisor : Nat) : Except ReportFault Number.Double :=
  match Number.Double.quotient? dividend divisor with
  | some number => .ok number
  | none => .error (.oversized dividend divisor)

structure TestStats where
  total : Nat
  passed : Nat
  failed : Nat
  skipped : Nat
  /-- The share of passed tests in percent. -/
  passRate : Number.Double
  /-- Milliseconds. -/
  totalDuration : Int
  averageDuration : Number.Double
  deriving DecidableEq, Repr

namespace TestStats

def count (status : Status) (results : List TestResult) : Nat :=
  results.countP fun result => result.status == status.name

/-- The quotient of a sum and a count; that of nothing is zero. -/
def perTest (sum : Int) (total : Nat) : Except ReportFault Number.Double :=
  if total == 0 then .ok (.ofInt 0) else quotient sum total

/-- The sum of all durations. -/
def totalOf (results : List TestResult) : Int :=
  results.foldl (fun total result => total + result.duration.getD 0) 0

/-- The statistics of results; a result without a duration counts as one that took no time. -/
def ofResults (results : List TestResult) : Except ReportFault TestStats := do
  let total := results.length
  let passed := count .passed results
  let duration := totalOf results
  let rate ← perTest passed total
  let averageDuration ← perTest duration total
  return {
    total
    passed
    failed := count .failed results
    skipped := count .skipped results
    passRate := rate.scale 100
    totalDuration := duration
    averageDuration }

end TestStats

/-- Milliseconds, or from one thousand on seconds, or from a minute on minutes. -/
def durationText (milliseconds : Int) : Except ReportFault String :=
  if milliseconds < 1000 then
    if Number.isShort milliseconds then .ok (toString milliseconds ++ "ms") else .error .overlong
  else if milliseconds < 60000 then (quotient milliseconds 1000).map fun n => n.tenthsText ++ "s"
  else (quotient milliseconds 60000).map fun n => n.tenthsText ++ "m"

namespace TestResult

/-- The duration, unless it is none or zero. -/
def shownDuration (result : TestResult) : Option Int := result.duration.filter (· != 0)

/-- The text of the duration, if that is shown. -/
def durationText? (result : TestResult) : Except ReportFault (Option String) :=
  result.shownDuration.mapM durationText

/-- The error, unless it is none or empty. -/
def shownError (result : TestResult) : Option String := result.error.filter (!·.isEmpty)

end TestResult

end PlainScript
