/-
Command lines: reading the arguments, running the command, reporting what ends it early. The
commands that run a case or survey pages exit with zero if the case passed or all pages were reached.
-/

import PlainScript.Check.Compliance
import PlainScript.Check.Strict
import PlainScript.Command.Generate
import PlainScript.Command.Session
import PlainScript.TestData.Template

namespace PlainScript.Command

variable {σ : Type}

/-- The case that is asked for, from a file or a prompt. -/
def loadCase (settings : Settings) (arguments : ExecuteArguments) : Act σ TestCase :=
  match filled arguments.caseFile, filled arguments.prompt with
  | some path, _ => do expect .case (TestCase.read (← readText path)).toExcept
  | none, none => throw (.lack .case)
  | none, some prompt => do
      let data ← loadData arguments.data
      let resolver ← loadResolver settings { tables := arguments.tables, data }
      resolvePrompt resolver data prompt (firstFilled [arguments.baseUrl] settings.baseUrl)

/-- The case with another base address, if one is given. -/
def withBaseUrl (case : TestCase) (baseUrl : Option String) : TestCase :=
  match filled baseUrl with
  | some baseUrl => { case with heading := { case.heading with baseUrl } }
  | none => case

def runOptions (settings : Settings) (arguments : ExecuteArguments) : RunOptions where
  timeout := (arguments.timeout.filter (· != 0)).getD settings.timeout
  headless := !arguments.headed
  captureScreenshots := arguments.screenshots
  screenshotFolder := arguments.screenshotFolder

/-- The results of the steps that failed. -/
def failuresOf : Except ExecutionFault TestResult → List StepResult
  | .ok result => result.steps.filter StepResult.isFailure
  | .error (.run fault) => fault.lastResult?.toList.filter StepResult.isFailure
  | .error (.address _) => []

def runExecute (surroundings : Surroundings σ) (arguments : ExecuteArguments) : Act σ Nat := do
  let case ← loadCase surroundings.settings arguments
  let case := withBaseUrl case arguments.baseUrl
  let workspace ← get
  let runner : Runner σ := {
    page := surroundings.page
    clock := surroundings.clock
    options := runOptions surroundings.settings arguments
    directory := workspace.directory }
  let execution := runner.execute case workspace.page
  modify fun workspace =>
    { workspace with
      page := execution.page
      browser := workspace.browser ++ execution.browser }
  warnAll ((failuresOf execution.result).map (StepResult.notice case.heading.name))
  let result ← expect .execution execution.result
  printLine (← expect .report (Report.write arguments.format [result]))
  return codeOf (result.status == Status.passed.name)

/-- The addresses between commas. -/
def splitUrls (urls : String) : List Value :=
  (((Chars.splitAt (· == ',') urls.toList).map Chars.trim).filter fun url => !url.isEmpty).map
    fun url => .text (.ofList url)

/-- The addresses that are asked for; none if a file holds no list of them. -/
def loadUrls (arguments : SurveyArguments) : Act σ (Option (List Value)) :=
  match filled arguments.urls, filled arguments.urlFile with
  | some urls, _ => return some (splitUrls urls)
  | none, none => return some []
  | none, some path => do
      let content ← readText path
      if Batch.isYaml path then
        match ← expect .yaml (Yaml.read content) with
        | .list items => return some items
        | _ => return none
      else return some ((Batch.trimmedLines content).map .text)

def visitUrls (surroundings : Surroundings σ) (arguments : SurveyArguments) (urls : List Value) :
    Act σ Nat := do
  let folder := arguments.outputFolder.getD surroundings.settings.pagesFolder
  let outcome :=
    Survey.run surroundings.site (← get).directory folder (!arguments.headed) urls
  let progress := outcome.progress
  modify fun workspace =>
    { workspace with
      directory := progress.directory
      browser := workspace.browser ++ outcome.browser }
  warnAll (progress.notices.map Survey.Notice.message)
  match outcome.fault? with
  | some fault => throw (.survey fault)
  | none => do
      progress.written.forM fun path => printLine ("Saved to " ++ path)
      return codeOf (progress.written.length == urls.length)

def runSurvey (surroundings : Surroundings σ) (arguments : SurveyArguments) : Act σ Nat := do
  match ← loadUrls arguments with
  | none => do
      printLine "Error: YAML file must contain a list of entries."
      return 1
  | some [] => do
      printLine "Error: No URLs provided."
      return 1
  | some urls => visitUrls surroundings arguments urls

def runResolve (settings : Settings) (prompt : String) (setup : SetupArguments) : Act σ Nat := do
  let (resolver, data) ← setUp settings setup
  let case ← resolvePrompt resolver data prompt (firstFilled [setup.baseUrl] settings.baseUrl)
  printLine (case.write 2)
  return 0

def runValidate (prompt codeFile : String) : Act σ Nat := do
  let code ← readText codeFile
  let locks := Lock.ofText prompt
  (Lock.unknownTypes prompt).forM fun type => record (Notice.unknownLock type).log
  let verdict := Strict.verdict prompt code (Extraction.extract prompt).toList locks []
  let compliance := Compliance.check prompt code
  printLine (Json.portable.write (.ofFields [
    ("strict", verdict.document),
    ("compliance", compliance.document)]))
  return codeOf (verdict.isValid && compliance.isValid)

def runTemplate (fields : List String) : Act σ Nat := do
  print (TestData.template fields).write
  return 0

def run (surroundings : Surroundings σ) : Command → Act σ Nat
  | .generate arguments => runGenerate surroundings arguments
  | .resolve prompt setup => runResolve surroundings.settings prompt setup
  | .validate prompt codeFile => runValidate prompt codeFile
  | .execute arguments => runExecute surroundings arguments
  | .survey arguments => runSurvey surroundings arguments
  | .template fields => runTemplate fields

/-- How a command line ends. -/
structure Outcome (σ : Type) where
  exitCode : Nat
  /-- Whether help is what is printed. -/
  isHelp : Bool := false
  workspace : Workspace σ

/-- Runs a command line. A fault that is reported ends it with exit code two. -/
def invoke (surroundings : Surroundings σ) (workspace : Workspace σ) (arguments : List String) :
    Except Fault (Outcome σ) :=
  match read arguments with
  | .error .help => .ok { exitCode := 0, isHelp := true, workspace }
  | .error .misuse => .ok { exitCode := 2, workspace }
  | .ok none => .ok { exitCode := 2, isHelp := true, workspace }
  | .ok (some command) =>
      match (run surroundings command).run workspace with
      | (.ok exitCode, workspace) => .ok { exitCode, workspace }
      | (.error fault, workspace) =>
          match fault.severity.message? with
          | none => .error fault
          | some message =>
              .ok { exitCode := 2
                    workspace := { workspace with log := ⟨.error, message⟩ :: workspace.log } }

end PlainScript.Command
