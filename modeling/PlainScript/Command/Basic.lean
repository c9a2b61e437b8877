/-
The commands and the options that they take.
-/

import PlainScript.Command.Arguments
import PlainScript.Report.Format

namespace PlainScript

open Arguments

/-- What a resolver is set up with on the command line. -/
structure SetupArguments where
  baseUrl : Option String
  isLegacy : Bool
  tables : Option String
  data : Option String
  pages : Option String
  deriving DecidableEq, Repr

/-- Where instructions come from. -/
inductive Origin where
  | prompt
  | network
  | file
  deriving DecidableEq, Repr

structure GenerateArguments where
  prompt : Option String
  origin : Origin
  url : Option String
  file : Option String
  framework : Option String
  language : Option String
  timeout : Option Int
  comments : Bool
  screenshots : Bool
  outputFolder : Option String
  asJson : Bool
  setup : SetupArguments
  deriving DecidableEq, Repr

structure ExecuteArguments where
  prompt : Option String
  caseFile : Option String
  baseUrl : Option String
  tables : Option String
  data : Option String
  timeout : Option Int
  headed : Bool
  screenshots : Bool
  screenshotFolder : String
  format : ReportFormat
  deriving DecidableEq, Repr

structure SurveyArguments where
  urls : Option String
  urlFile : Option String
  outputFolder : Option String
  headed : Bool
  deriving DecidableEq, Repr

inductive Command where
  | generate (arguments : GenerateArguments)
  | resolve (prompt : String) (setup : SetupArguments)
  | validate (prompt codeFile : String)
  | execute (arguments : ExecuteArguments)
  | survey (arguments : SurveyArguments)
  | template (fields : List String)
  deriving DecidableEq, Repr

namespace Command

def helpOption : OptionForm := ⟨"help", some 'h', .help⟩

def flag (name : String) : OptionForm := ⟨name, none, .flag⟩

def text (name : String) : OptionForm := ⟨name, none, .text⟩

def number (name : String) : OptionForm := ⟨name, none, .number⟩

def choice (name : String) (choices : List String) : OptionForm := ⟨name, none, .choice choices⟩

/-- The options of all commands. -/
def common : Grammar := { options := [helpOption, ⟨"verbose", some 'v', .flag⟩] }

def setupOptions : List OptionForm :=
  [text "base-url", flag "legacy", text "tables", text "data", text "pages-dir"]

def generateGrammar : Grammar where
  options := [
    helpOption,
    choice "source" ["cli", "api", "file"],
    text "api-url",
    text "file",
    choice "framework" ["playwright", "selenium", "cypress"],
    choice "language" ["typescript", "javascript", "python", "java"],
    number "timeout",
    flag "no-comments",
    flag "screenshots",
    text "output-dir",
    flag "json"] ++ setupOptions
  words := .optional

def resolveGrammar : Grammar where
  options := helpOption :: setupOptions
  words := .one

def validateGrammar : Grammar where
  options := [helpOption, text "code-file"]
  words := .one
  required := ["code-file"]

def executeGrammar : Grammar where
  options := [
    helpOption,
    text "dsl-file",
    text "base-url",
    text "tables",
    text "data",
    number "timeout",
    flag "headed",
    flag "screenshots",
    text "screenshot-dir",
    choice "report" ["json", "text", "html"]]
  words := .optional

def surveyGrammar : Grammar where
  options := [helpOption, text "urls", text "url-file", text "output-dir", flag "headed"]

def templateGrammar : Grammar where
  options := [helpOption]
  words := .many

def setupOf (given : Given) : SetupArguments where
  baseUrl := given.value? "base-url"
  isLegacy := given.has "legacy"
  tables := given.value? "tables"
  data := given.value? "data"
  pages := given.value? "pages-dir"

def originOf (given : Given) : Origin :=
  match given.value? "source" with
  | some "api" => .network
  | some "file" => .file
  | _ => .prompt

def generateOf (given : Given) : Command := .generate {
  prompt := given.words.head?
  origin := originOf given
  url := given.value? "api-url"
  file := given.value? "file"
  framework := given.value? "framework"
  language := given.value? "language"
  timeout := given.number? "timeout"
  comments := !given.has "no-comments"
  screenshots := given.has "screenshots"
  outputFolder := given.value? "output-dir"
  asJson := given.has "json"
  setup := setupOf given }

def executeOf (given : Given) : Command := .execute {
  prompt := given.words.head?
  caseFile := given.value? "dsl-file"
  baseUrl := given.value? "base-url"
  tables := given.value? "tables"
  data := given.value? "data"
  timeout := given.number? "timeout"
  headed := given.has "headed"
  screenshots := given.has "screenshots"
  screenshotFolder := (given.value? "screenshot-dir").getD "screenshots"
  format := .ofName ((given.value? "report").getD "text") }

def surveyOf (given : Given) : Command := .survey {
  urls := given.value? "urls"
  urlFile := given.value? "url-file"
  outputFolder := given.value? "output-dir"
  headed := given.has "headed" }

/-- The words that are given, as one text. -/
def promptOf (given : Given) : String := given.words.head?.getD ""

/-- A command by name: what it takes, and the command of what is given. -/
structure Entry where
  name : String
  grammar : Grammar
  ofGiven : Given → Command

def entries : List Entry := [
  ⟨"generate", generateGrammar, generateOf⟩,
  ⟨"dsl", resolveGrammar, fun given => .resolve (promptOf given) (setupOf given)⟩,
  ⟨"validate", validateGrammar, fun given =>
    .validate (promptOf given) ((given.value? "code-file").getD "")⟩,
  ⟨"execute", executeGrammar, executeOf⟩,
  ⟨"analyze", surveyGrammar, surveyOf⟩,
  ⟨"data-template", templateGrammar, fun given => .template given.words⟩]

/-- The command of arguments; none if they name none. -/
def read (arguments : List String) : Except Stop (Option Command) := do
  let grammars := entries.map fun entry => (entry.name, entry.grammar)
  match ← readCommand common grammars arguments with
  | none => return none
  | some (name, given) =>
      return (entries.find? fun entry => entry.name == name).map fun entry => entry.ofGiven given

/-- The files and folders that a command looks at. -/
def inputs : Command → List String
  | .generate arguments =>
      [arguments.file, arguments.outputFolder, arguments.setup.tables, arguments.setup.data,
        arguments.setup.pages].filterMap id
  | .resolve _ setup => [setup.tables, setup.data, setup.pages].filterMap id
  | .validate _ codeFile => [codeFile]
  | .execute arguments =>
      arguments.screenshotFolder ::
        [arguments.caseFile, arguments.tables, arguments.data].filterMap id
  | .survey arguments => [arguments.urlFile, arguments.outputFolder].filterMap id
  | .template _ => []

end Command

end PlainScript
