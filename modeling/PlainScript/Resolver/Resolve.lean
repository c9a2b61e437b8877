/-
Resolution of an instruction into the steps of a test case: where to go, what to fill in, what to
click and what to check. The tags of the test are read off the words of the instruction.
-/

import PlainScript.Catalog.Pages
import PlainScript.Instruction.Lock
import PlainScript.Instruction.Vocabulary
import PlainScript.Locator.Parser
import PlainScript.Resolver.Tables
import PlainScript.TestCase.Marker
import PlainScript.TestCase.Name

namespace PlainScript.Tags

open Regex

/-- What each tag is given for. -/
def cues : List (String × Regex) := [
  ("authentication", choice [caseless "login", caseless "signin"]),
  ("registration", choice [caseless "register", caseless "signup"]),
  ("negative", choice [caseless "error", caseless "fail"]),
  ("positive", choice [caseless "success",
    all [wordEdge, caseless "pass", maybe (choice [caseless "es", caseless "ed"]), wordEdge]]),
  ("form", caseless "form")]

def ofText (text : String) : List String :=
  (cues.filter fun cue => cue.2.occursIn text).map (·.1)

end PlainScript.Tags

namespace PlainScript

/-- What becomes of credentials that an instruction leaves out: a marker or a usual value. -/
inductive Strictness where
  | strict
  | legacy
  deriving DecidableEq, Repr

namespace Strictness

def name : Strictness → String
  | strict => "strict"
  | legacy => "legacy"

def ofName? : String → Option Strictness
  | "strict" => some strict
  | "legacy" => some legacy
  | _ => none

def ofValue? : Value → Option Strictness
  | .text name => ofName? name
  | _ => none

end Strictness

structure Resolver where
  tables : Resolver.Tables := {}
  strictness : Strictness := .strict
  /-- Values for fields that an instruction leaves out. -/
  testData : List (String × String) := []
  catalog : Option Catalog := none

namespace Resolver

inductive Fault where
  | pattern (fault : Regex.Fault)
  | catalog (fault : Catalog.Fault)
  deriving DecidableEq, Repr

def Fault.severity : Fault → Severity
  | pattern fault => fault.severity
  | .catalog fault => fault.severity

/-- The value of the last lock of a type, unless it is empty. -/
def locked? (locks : List Lock) (type : LockType) : Option String :=
  filled ((locks.reverse.find? fun lock => lock.type == type).map Lock.value)

/-- The values of the locks that may stand in for credentials. -/
def spares (locks : List Lock) : List String :=
  (locks.filter fun lock => lock.type == .value).map Lock.value

open Regex Vocabulary

/-- The verbs of going somewhere. -/
def goVerb : Regex :=
  choice [phrase ["go", "to"], phrase ["navigate", "to"], caseless "visit", caseless "open"]

/-- A path that follows a verb of going. -/
def writtenPath : Regex :=
  let inner := [SetItem.category .word false false] ++ marks "./-"
  let last := [SetItem.category .word false false] ++ marks "/-"
  all [wordEdge, goVerb, blanks, maybe quoteMark,
    group 1 (seq (caseless "/") (maybe (seq (many (oneOf inner)) (oneOf last))))]

/-- The word in front of `page`. -/
def namedPage : Regex :=
  all [wordEdge, goVerb, blanks, leading [caseless "the"], group 1 (many1 wordChar), blanks,
    caseless "page", wordEdge]

/-- The path that the instruction spells out. -/
def writtenPath? (text : String) : Option String :=
  match (writtenPath.search text).bind (·.text? 1) with
  | some path => some path
  | none =>
      ((namedPage.search text).bind (·.text? 1)).map fun name => "/" ++ Text.lower name

/-- Where the test begins: the extracted address, a locked one, a path that is spelled out, or a
path that the tables know. -/
def path (resolver : Resolver) (text : String) (values : Values) (locks : List Lock) :
    Except Regex.Fault String :=
  match filled values.url, locked? locks .url, writtenPath? text with
  | some url, _, _ => .ok url
  | none, some url, _ => .ok url
  | none, none, some path => .ok path
  | none, none, none =>
      (lookup resolver.tables.paths text).map fun found => (filled found).getD "/"

/-- The fields of a login. -/
inductive Credential where
  | username
  | password
  deriving DecidableEq, Repr

namespace Credential

def field : Credential → String
  | username => "username"
  | password => "password"

def label : Credential → String
  | username => "Username"
  | password => "Password"

/-- The usual value for a demonstration. -/
def usual : Credential → String
  | username => "testuser"
  | password => "password123"

end Credential

/-- What is filled in: the value, else the test data, else what the strictness lays down. -/
def credentialText (resolver : Resolver) (credential : Credential) (value : Option String) :
    String :=
  match filled value, filled (resolver.testData.lookup credential.field) with
  | some value, _ => value
  | none, some value => value
  | none, none =>
      match resolver.strictness with
      | .legacy => credential.usual
      | .strict => Marker.unspecified credential.field

def fillCredential (resolver : Resolver) (credential : Credential) (value : Option String) :
    Step :=
  .fill (.label credential.label) (resolver.credentialText credential value)

/-- The extracted value, or else the first spare one, and the spares that are left. -/
def orSpare (value : Option String) (spare : List String) : Option String × List String :=
  match filled value, spare with
  | some value, spare => (some value, spare)
  | none, [] => (none, [])
  | none, first :: rest => (some first, rest)

/-- The steps that fill in user name and password, if the instruction is about them. -/
def credentialSteps (resolver : Resolver) (text : String) (values : Values)
    (locks : List Lock) : Except Regex.Fault (List Step) := do
  let about ←
    if (filled values.username).isSome || (filled values.password).isSome then pure true
    else resolver.tables.credentialsCue.occursIn text
  if about then
    let (username, spare) := orSpare values.username (spares locks)
    let (password, _) := orSpare values.password spare
    return [resolver.fillCredential .username username, resolver.fillCredential .password password]
  else return []

def emailSteps (values : Values) : List Step :=
  (filled values.email).toList.map fun email => .fill (.label "Email") email

/-- A verb of clicking and the word after it, with a particle. -/
def clickCue : Regex :=
  let letters := many1 (oneOf [.range 'A' 'Z', .range 'a' 'z'])
  all [wordEdge, clickVerb, blanks, leading [caseless "on"], leading [caseless "the"],
    group 1 (seq letters
      (maybe (seq blanks (choice [caseless "in", caseless "up", caseless "out"]))))]

/-- The word that follows the verb of clicking. -/
def clicked? (text : String) : Option String := (clickCue.search text).bind (·.text? 1)

def submitCue : Regex := choice [wholly [caseless "submit"], login]

/-- Words that name no button. -/
def nameless : List String := ["button", "it", "on", "and"]

/-- The name of the button that a clicked word means. -/
def clickedButton? (tables : Tables) (clicked : String) :
    Except Regex.Fault (Option String) := do
  match filled (← lookup tables.buttons clicked) with
  | some name => return some name
  | none => return if nameless.contains (Text.lower clicked) then none else some clicked

/-- The name of the button: the quoted one, the clicked word, or one that the tables know. -/
def button? (resolver : Resolver) (text : String) (values : Values) :
    Except Regex.Fault (Option String) := do
  match filled values.button, clicked? text with
  | some name, _ => return some name
  | none, none => lookup resolver.tables.buttons text
  | none, some clicked =>
      match ← clickedButton? resolver.tables clicked with
      | some name => return some name
      | none => lookup resolver.tables.buttons text

/-- The step that clicks a button, if the instruction asks for one. -/
def clickSteps (resolver : Resolver) (text : String) (values : Values) :
    Except Regex.Fault (List Step) := do
  if (filled values.button).isSome || (clicked? text).isSome || submitCue.occursIn text then
    return [.click (.role (some "button") (← resolver.button? text values))]
  else return []

def errorLocator : Locator := .css "[role='alert'], .error, .alert-error"

def successLocator : Locator := .css ".success, [role='status'], .alert-success"

def urlContains (value : String) : Assertion := ⟨"urlContains", none, some value⟩

def isVisible (locator : Locator) : Assertion := ⟨"visible", some locator, none⟩

/-- What the cues in the instruction ask to check. -/
def cuedAssertion? (tables : Tables) (text : String) :
    Except Regex.Fault (Option Assertion) := do
  if ← tables.dashboardCue.occursIn text then return some (urlContains "/dashboard")
  else if ← tables.errorCue.occursIn text then return some (isVisible errorLocator)
  else if ← tables.successCue.occursIn text then return some (isVisible successLocator)
  else if login.occursIn text then return some (urlContains "/dashboard")
  else return none

/-- What the instruction asks to check, the type that a lock sets apart. -/
def plainAssertion? (resolver : Resolver) (text : String) (values : Values)
    (locks : List Lock) : Except Regex.Fault (Option Assertion) :=
  match (locked? locks .assertionText).or (filled values.expected), filled values.expectedUrl with
  | some expected, _ =>
      let place := ((locked? locks .selector).map Locator.parse).getD (.css "body")
      .ok (some ⟨"containsText", some place, some expected⟩)
  | none, some expected => .ok (some (urlContains expected))
  | none, none => cuedAssertion? resolver.tables text

/-- The type of assertion that a lock means; other words are kept. -/
def assertionType (words : String) : String :=
  let trimmed := Text.trim words
  let lowered := Text.lower trimmed
  match (AssertionKind.all.map AssertionKind.name).find? fun name => Text.lower name == lowered with
  | some name => name
  | none =>
      if lowered == "tohavetext" || lowered == "exact text" then "exactText"
      else if lowered == "contains" then "containsText"
      else trimmed

/-- What the instruction asks to check. -/
def assertion? (resolver : Resolver) (text : String) (values : Values) (locks : List Lock) :
    Except Regex.Fault (Option Assertion) := do
  let found ← resolver.plainAssertion? text values locks
  return found.map fun assertion =>
    match locked? locks .assertionType with
    | some words => { assertion with type := assertionType words }
    | none => assertion

/-- The steps before any refinement; `text` is free of annotations. -/
def steps (resolver : Resolver) (text : String) (values : Values) (locks : List Lock) :
    Except Regex.Fault (List Step) := do
  let path ← resolver.path text values locks
  let credentials ← resolver.credentialSteps text values locks
  let clicks ← resolver.clickSteps text values
  let assertion ← resolver.assertion? text values locks
  return .goto path :: credentials ++ emailSteps values ++ clicks ++
    assertion.toList.map Step.check

/-- The steps with the locators of the catalog. -/
def refine (resolver : Resolver) (steps : List Step) : Except Catalog.Fault (List Step) :=
  match resolver.catalog with
  | some catalog => steps.mapM fun step => catalog.refine step none
  | none => .ok steps

/-- The name, the address and the tags of the case; the description keeps its annotations. -/
def heading (description baseUrl : String) : Heading :=
  let text := Lock.strip description
  ⟨Name.derive text, baseUrl, some description, Tags.ofText text⟩

/-- The test case of an instruction. -/
def resolve (resolver : Resolver) (description : String) (values : Values) (baseUrl : String)
    (locks : List Lock) : Except Fault TestCase := do
  let steps ← (resolver.steps (Lock.strip description) values locks).mapError .pattern
  let refined ← (resolver.refine steps).mapError .catalog
  return ⟨heading description baseUrl, refined⟩

end Resolver

end PlainScript
