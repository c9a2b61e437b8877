/-
Settings from the environment: what holds where a command says nothing.
-/

import PlainScript.Number.Integer
import PlainScript.Render.Code
import PlainScript.Run.Document
import PlainScript.Text.Case

namespace PlainScript

structure Settings where
  strictness : String := "strict"
  framework : String := "playwright"
  language : String := "typescript"
  timeout : Int := 30000
  baseUrl : String := ""
  headless : Bool := true
  pagesFolder : String := "pages"
  deriving DecidableEq, Repr

namespace Settings

/-- A timeout that is no whole number, or one with too many digits. -/
inductive TimeoutFault where
  | notWhole (text : String)
  | tooManyDigits (count : Nat)
  deriving DecidableEq, Repr

def TimeoutFault.message : TimeoutFault → String
  | notWhole text => "invalid literal for int() with base 10: " ++ Text.display text
  | tooManyDigits count => Number.tooManyDigits count

/-- Whether a text switches something on; all but a few do. -/
def isOn (text : String) : Bool := !(["0", "false", "no"].contains (Text.lower text))

/-- The settings of an environment. A variable that is set to nothing is set. -/
def ofEnvironment (environment : List (String × String)) : Except TimeoutFault Settings :=
  let setting (name default : String) := (environment.lookup ("NL2TEST_" ++ name)).getD default
  let timeout := setting "TIMEOUT" "30000"
  match Number.excess? timeout, Number.readInt? timeout with
  | some count, _ => .error (.tooManyDigits count)
  | none, none => .error (.notWhole timeout)
  | none, some timeout => .ok {
      strictness := setting "STRICTNESS" "strict"
      framework := setting "FRAMEWORK" "playwright"
      language := setting "LANGUAGE" "typescript"
      timeout
      baseUrl := setting "BASE_URL" ""
      headless := isOn (setting "HEADLESS" "true")
      pagesFolder := setting "PAGES_DIR" "pages" }

def renderOptions (settings : Settings) : RenderOptions :=
  { framework := settings.framework
    language := settings.language
    timeout := settings.timeout }

def runOptions (settings : Settings) : RunOptions :=
  { timeout := settings.timeout, headless := settings.headless }

/-- The fields of a document without those of the given names that are empty. -/
def withoutEmpty (names : List String) (document : Value) : Value :=
  match document with
  | .record entries => .record <| entries.filter fun entry =>
      entry.2.isPresent || names.all fun name => !entry.1.same (.text name)
  | other => other

/-- The render options of a document. What is empty there is as in the settings. -/
def decodeRenderOptions (settings : Settings) : Schema.Decoder RenderOptions := fun document =>
  RenderOptions.decodeOver settings.renderOptions
    (withoutEmpty ["framework", "language", "timeout"] document)

/-- The run options of a document. -/
def decodeRunOptions (settings : Settings) : Schema.Decoder RunOptions :=
  RunOptions.decodeOver settings.runOptions

end Settings

end PlainScript
