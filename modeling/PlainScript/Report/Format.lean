/-
Reports of test results in several formats.
-/

import PlainScript.Json.Writer
import PlainScript.Report.Html
import PlainScript.Report.Stats
import PlainScript.Run.Document
import PlainScript.Text.Case
import PlainScript.Value.Display

namespace PlainScript.Report

/-- A line of so many marks. -/
def rule (mark : Char) (length : Nat) : String := .ofList (List.replicate length mark)

/-- The statistics; the text of the whole duration is given. -/
def plainHead (stats : TestStats) (duration : String) : List String := [
  "Test Execution Report",
  rule '=' 50,
  "",
  "Summary:",
  "  Total: " ++ toString stats.total,
  "  Passed: " ++ toString stats.passed,
  "  Failed: " ++ toString stats.failed,
  "  Skipped: " ++ toString stats.skipped,
  "  Pass Rate: " ++ stats.passRate.tenthsText ++ "%",
  "  Total Duration: " ++ duration,
  "",
  "Results:",
  rule '-' 30]

/-- The lines of a result, which is the `number`th; the text of its duration is given, if that is
shown. -/
def plainResult (number : Nat) (result : TestResult) (duration : Option String) : List String :=
  [toString number ++ ". " ++ Text.upper result.status,
    "   Message: " ++ result.message] ++
  duration.toList.map ("   Duration: " ++ ·) ++
  result.shownError.toList.map ("   Error: " ++ ·) ++
  [""]

/-- The report in plain text. -/
def plain (results : List TestResult) : Except ReportFault String := do
  let stats ← TestStats.ofResults results
  let duration ← durationText stats.totalDuration
  let parts ← (results.zipIdx 1).mapM fun (result, number) =>
    return plainResult number result (← result.durationText?)
  return "\n".intercalate (plainHead stats duration ++ parts.flatten) ++ "\n"

end PlainScript.Report

namespace PlainScript

def TestStats.document (stats : TestStats) : Value :=
  .ofFields [
    ("total", .int stats.total),
    ("passed", .int stats.passed),
    ("failed", .int stats.failed),
    ("skipped", .int stats.skipped),
    ("passRate", .float stats.passRate),
    ("totalDuration", .int stats.totalDuration),
    ("avgDuration", .float stats.averageDuration)]

inductive ReportFormat where
  | plain
  | html
  | json
  deriving DecidableEq, Repr

namespace ReportFormat

/-- The format of a name; JSON unless the name says otherwise. -/
def ofName (name : String) : ReportFormat :=
  if name == "text" then plain else if name == "html" then html else json

end ReportFormat

namespace Report

/-- The statistics and the results. -/
def document (stats : TestStats) (results : List TestResult) : Value :=
  .ofFields [
    ("stats", stats.document),
    ("results", .list (results.map TestResult.document))]

def json (results : List TestResult) : Except ReportFault String := do
  let document := document (← TestStats.ofResults results) results
  if document.hasShortNumbers then return Json.portable.write document
  else .error .overlong

def write (format : ReportFormat) (results : List TestResult) : Except ReportFault String :=
  match format with
  | .plain => plain results
  | .html => html results
  | .json => json results

end Report

end PlainScript
