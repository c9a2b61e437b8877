/-
Reports as HTML pages. Text of the results is escaped, so that it adds no tags.
-/

import PlainScript.Report.Stats
import PlainScript.Text.Case

namespace PlainScript.Report

/-- A character as part of the text of a page or of a quoted attribute. -/
def escapeChar : Char → List Char
  | '&' => "&amp;".toList
  | '<' => "&lt;".toList
  | '>' => "&gt;".toList
  | '"' => "&quot;".toList
  | '\'' => "&#x27;".toList
  | c => [c]

def escape (text : String) : String := .ofList (text.toList.flatMap escapeChar)

def pageHead : String := "\n".intercalate [
  "<!DOCTYPE html>",
  "<html>",
  "<head>",
  "    <title>Test Report</title>",
  "    <style>",
  "        body \x7b font-family: Arial, sans-serif; margin: 20px; \x7d",
  "        .stats \x7b background: #f5f5f5; padding: 20px; border-radius: 5px; " ++
    "margin-bottom: 20px; \x7d",
  "        .test-result \x7b border: 1px solid #ddd; margin: 10px 0; padding: 15px; " ++
    "border-radius: 5px; \x7d",
  "        .passed \x7b border-left: 5px solid #4CAF50; \x7d",
  "        .failed \x7b border-left: 5px solid #f44336; \x7d",
  "        .skipped \x7b border-left: 5px solid #ff9800; \x7d",
  "    </style>",
  "</head>",
  "<body>",
  "    <h1>Test Execution Report</h1>",
  ""]

/-- The statistics; the text of the whole duration is given. -/
def pageSummary (stats : TestStats) (duration : String) : List String := [
  "    <div class=\"stats\">",
  "        <h2>Summary</h2>",
  "        <p>Total: " ++ toString stats.total ++ " | Passed: " ++ toString stats.passed ++
    " | Failed: " ++ toString stats.failed ++ " | Skipped: " ++ toString stats.skipped ++ "</p>",
  "        <p>Pass Rate: " ++ stats.passRate.tenthsText ++ "% | Total Duration: " ++
    duration ++ "</p>",
  "    </div>"]

/-- A paragraph with a label. -/
def labelled (label text : String) : String :=
  "        <p><strong>" ++ label ++ ":</strong> " ++ text ++ "</p>"

/-- A result; the text of its duration is given, if that is shown. -/
def pageResult (result : TestResult) (duration : Option String) : List String :=
  ["    <div class=\"test-result " ++ escape result.status ++ "\">",
    "        <h3>" ++ escape (Text.upper result.status) ++ "</h3>",
    labelled "Message" (escape result.message)] ++
  duration.toList.map (labelled "Duration") ++
  result.shownError.toList.map (fun error => labelled "Error" (escape error)) ++
  ["    </div>"]

/-- The report as a page. -/
def html (results : List TestResult) : Except ReportFault String := do
  let stats ← TestStats.ofResults results
  let duration ← durationText stats.totalDuration
  let parts ← results.mapM fun result => return pageResult result (← result.durationText?)
  return "\n".intercalate (pageHead :: pageSummary stats duration ++
    parts.flatten ++ ["</body>", "</html>"]) ++ "\n"

end PlainScript.Report
