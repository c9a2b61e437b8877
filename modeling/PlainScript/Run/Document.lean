/-
Run options and results as documents. A field that holds nothing is left out.
-/

import PlainScript.Run.Precheck
import PlainScript.Run.Steps
import PlainScript.Schema.Decoder

namespace PlainScript

open Schema

/-- Options over a base that holds where a document says nothing. -/
def RunOptions.decodeOver (base : RunOptions) : Decoder RunOptions :=
  model .memory "ExecutionOptions" fun document =>
    RunOptions.mk <$>
      defaulted ["timeout"] wholeNumber base.timeout document <*>
      defaulted ["captureScreenshots", "capture_screenshots"] truth base.captureScreenshots
        document <*>
      defaulted ["headless"] truth base.headless document <*>
      defaulted ["screenshotDir", "screenshot_dir"] plainText base.screenshotFolder document <*>
      defaulted ["ignoreHttpsErrors", "ignore_https_errors"] truth base.ignoreHttpsErrors document

def RunOptions.decode : Decoder RunOptions := decodeOver {}

def RunOptions.document (options : RunOptions) : Value :=
  .ofFields [
    ("timeout", .int options.timeout),
    ("captureScreenshots", .bool options.captureScreenshots),
    ("headless", .bool options.headless),
    ("screenshotDir", .text options.screenshotFolder),
    ("ignoreHttpsErrors", .bool options.ignoreHttpsErrors)]

def StepResult.decode : Decoder StepResult :=
  model .memory "StepResult" fun document =>
    StepResult.mk <$>
      required ["stepIndex", "step_index"] wholeNumber document <*>
      required ["action"] plainText document <*>
      required ["status"] plainText document <*>
      possible ["message"] plainText document <*>
      possible ["duration"] wholeNumber document <*>
      possible ["error"] plainText document <*>
      possible ["screenshot"] plainText document

def StepResult.document (result : StepResult) : Value :=
  .ofFields (
    [("stepIndex", .int result.index), ("action", .text result.action),
      ("status", .text result.status)] ++
    result.message.toList.map (fun message => ("message", .text message)) ++
    result.duration.toList.map (fun duration => ("duration", .int duration)) ++
    result.error.toList.map (fun error => ("error", .text error)) ++
    result.screenshot.toList.map (fun path => ("screenshot", .text path)))

def TestResult.decode : Decoder TestResult :=
  model .memory "TestResult" fun document =>
    TestResult.mk <$>
      required ["status"] plainText document <*>
      required ["message"] plainText document <*>
      possible ["duration"] wholeNumber document <*>
      possible ["error"] plainText document <*>
      defaulted ["stepResults", "step_results"] (listOf .memory StepResult.decode) [] document <*>
      defaulted ["screenshots"] (listOf .memory plainText) [] document

def TestResult.document (result : TestResult) : Value :=
  .ofFields (
    [("status", .text result.status), ("message", .text result.message)] ++
    result.duration.toList.map (fun duration => ("duration", .int duration)) ++
    result.error.toList.map (fun error => ("error", .text error)) ++
    [("stepResults", .list (result.steps.map StepResult.document)),
      ("screenshots", .texts result.screenshots)])

def Precheck.document (check : Precheck) : Value :=
  .ofFields [
    ("is_valid", .bool check.isValid),
    ("errors", .texts (check.errors.map CaseError.message)),
    ("warnings", .texts (check.warnings.map CaseWarning.message))]

end PlainScript
