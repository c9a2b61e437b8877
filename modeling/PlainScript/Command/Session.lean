/-
What a command works with, what it leaves, and what may break it off; and what commands set up before
they work: test data, a resolver, the case of a prompt.
-/

import PlainScript.Batch.Source
import PlainScript.Command.Basic
import PlainScript.Generation.Generate
import PlainScript.Report.Format
import PlainScript.Run.Execute
import PlainScript.Settings.Resolver
import PlainScript.Survey.Visit

namespace PlainScript

inductive LogLevel where
  | warning
  | error
  deriving DecidableEq, Repr

def LogLevel.name : LogLevel → String
  | warning => "WARNING"
  | error => "ERROR"

structure LogRecord where
  level : LogLevel
  message : String
  deriving DecidableEq, Repr

def LogRecord.line (log : LogRecord) : String := log.level.name ++ " " ++ log.message

/-- How a notice of generation is reported. -/
def Notice.log : Notice → LogRecord
  | .unknownLock type => ⟨.warning, "Ignoring unknown lock type " ++ Text.display type⟩
  | .tolerated problem => ⟨.warning, "Legacy mode: " ++ problem.message⟩
  | .unknownPart (.action name) =>
      ⟨.warning, "Unknown action " ++ Text.display name ++ " rendered as comment"⟩
  | .unknownPart (.assertionType name) =>
      ⟨.warning, "Unknown assertion type " ++ Text.display name ++ " rendered as comment"⟩
  | .failed cause => ⟨.error, "Generation failed: " ++ cause.message⟩
  | .unchecked name =>
      ⟨.warning, "Legacy mode: strict validation skipped for '" ++ name ++ "'"⟩

namespace Command

/-- What is missing on the command line. -/
inductive Lack where
  | prompt
  | url
  | file
  | case
  deriving DecidableEq, Repr

def Lack.message : Lack → String
  | prompt => "a prompt is required when source is 'cli'"
  | url => "--api-url is required when source is 'api'"
  | file => "--file is required when source is 'file'"
  | case => "either a prompt or --dsl-file is required"

/-- What ends a command. -/
inductive Fault where
  | lack (lack : Lack)
  | file (fault : File.Fault)
  | yaml (fault : Yaml.Fault)
  | batch (fault : Batch.Fault)
  | data (fault : TestData.Fault)
  | setup (fault : Settings.ResolverFault)
  | resolver (fault : Resolver.Fault)
  | generator (fault : Generator.Fault)
  | case (faults : List Schema.Fault)
  | execution (fault : ExecutionFault)
  | survey (fault : Survey.Fault)
  | report (fault : ReportFault)
  deriving DecidableEq, Repr

def Fault.severity : Fault → Severity
  | .lack missing => .reported missing.message
  | .file fault => .reported fault.message
  | .yaml fault => fault.severity
  | .batch fault => fault.severity
  | .data fault => fault.severity
  | .setup fault => fault.severity
  | .resolver fault => fault.severity
  | .generator fault => fault.severity
  | .case faults => .reported (Schema.report faults)
  | .execution (.address fault) => .reported fault.message
  | .execution (.run (.folder _ fault)) => .reported fault.message
  | .execution (.run _) => .breaking
  | .survey fault => fault.severity
  | .report fault => fault.severity

/-- What surrounds a command. -/
structure Surroundings (σ : Type) where
  settings : Settings
  /-- What a request to an address brings. -/
  reply : (url : String) → Batch.Reply
  page : Page σ
  clock : Clock
  site : Site

/-- What a command changes. -/
structure Workspace (σ : Type) where
  directory : Directory
  page : σ
  /-- The pieces of the output, the last first. -/
  output : List String := []
  /-- The records of the log, the last first. -/
  log : List LogRecord := []
  browser : List BrowserCall := []

namespace Workspace

variable {σ : Type}

/-- All that has been printed. -/
def printed (workspace : Workspace σ) : String := String.join workspace.output.reverse

def logLines (workspace : Workspace σ) : List String :=
  workspace.log.reverse.map LogRecord.line

end Workspace

abbrev Act (σ : Type) := ExceptT Fault (StateM (Workspace σ))

variable {σ : Type}

def print (text : String) : Act σ Unit :=
  modify fun workspace => { workspace with output := text :: workspace.output }

def printLine (text : String) : Act σ Unit := print (text ++ "\n")

def record (log : LogRecord) : Act σ Unit :=
  modify fun workspace => { workspace with log := log :: workspace.log }

def warn (message : String) : Act σ Unit := record ⟨.warning, message⟩

def warnAll (messages : List String) : Act σ Unit := messages.forM warn

/-- The result of a step that may fail. -/
def expect {α ε : Type} (cause : ε → Fault) (result : Except ε α) : Act σ α :=
  match result with
  | .ok value => return value
  | .error fault => throw (cause fault)

def readText (path : String) : Act σ String := do
  expect .file ((← get).directory.readText path)

/-- Changes the directory, unless that fails. -/
def change (make : Directory → Except File.Fault Directory) : Act σ Unit := do
  let directory ← expect .file (make (← get).directory)
  modify fun workspace => { workspace with directory }

/-- The exit code of a result. -/
def codeOf (isGood : Bool) : Nat := if isGood then 0 else 1

/-- The first text that is given and not empty. -/
def firstFilled (texts : List (Option String)) (default : String) : String :=
  (texts.findSome? filled).getD default

/-- The test data in the file that is named, if one is. -/
def loadData (path : Option String) : Act σ (Option TestData) :=
  match filled path with
  | none => return none
  | some path => do return some (← expect .data (TestData.load (← get).directory path))

def loadResolver (settings : Settings) (options : ResolverOptions) : Act σ Resolver := do
  let directory := (← get).directory
  let (catalog, notices) ← expect .setup (Settings.catalog directory options)
  warnAll (notices.map Catalog.Notice.message)
  expect .setup (settings.resolver directory options catalog)

def setUp (settings : Settings) (setup : SetupArguments) :
    Act σ (Resolver × Option TestData) := do
  let data ← loadData setup.data
  let resolver ← loadResolver settings {
    strictness := if setup.isLegacy then some .legacy else none
    tables := setup.tables
    data
    pages := setup.pages }
  return (resolver, data)

/-- The case of a prompt. -/
def resolvePrompt (resolver : Resolver) (data : Option TestData) (prompt baseUrl : String) :
    Act σ TestCase := do
  let text := Generator.substitute { resolver, data } prompt
  let locks := Lock.ofText text
  (Lock.unknownTypes text).forM fun type => record (Notice.unknownLock type).log
  expect .resolver (resolver.resolve text (Extraction.extract text) baseUrl locks)

end Command

end PlainScript
