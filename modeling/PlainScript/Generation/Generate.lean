/-
Generation: the text of an instruction goes in, the code of its test comes out. In strict mode
nothing is generated from an instruction that is incomplete, and code that deviates from the
instruction is withheld.
-/

import PlainScript.Check.Strict
import PlainScript.Instruction.Extraction
import PlainScript.Render.Code
import PlainScript.Resolver.Resolve
import PlainScript.TestCase.Basic
import PlainScript.TestCase.Document
import PlainScript.TestData.Document
import PlainScript.TestData.Placeholder

namespace PlainScript

/-- Why there is no code. -/
inductive Problem where
  | noTestData (name : String)
  | gap (gap : Gap)
  | deviation (deviation : Deviation)
  | unsupported (cause : Unsupported)
  deriving DecidableEq, Repr

namespace Problem

def message : Problem → String
  | noTestData name => .ofList ("INCOMPLETE: no test data for ".toList ++ Placeholder.opening ++
      name.toList ++ Placeholder.closing)
  | .gap found => found.message
  | .deviation found => found.message
  | unsupported cause => cause.message

end Problem

/-- The problems of a verdict. -/
def Verdict.problems (verdict : Verdict) : List Problem :=
  verdict.gaps.map .gap ++ verdict.deviations.map .deviation

/-- What generation reports besides its result. -/
inductive Notice where
  | unknownLock (type : String)
  | tolerated (problem : Problem)
  | unknownPart (part : Unknown)
  | failed (cause : Unsupported)
  | unchecked (name : String)
  deriving DecidableEq, Repr

/-- What is written in place of code that is withheld. -/
def withheld (headline : String) (problems : List Problem) : String :=
  "ERROR: " ++ headline ++ "\n".intercalate (problems.map Problem.message)

structure Generation where
  framework : String
  language : String
  checklist : List String := []
  values : List (String × String) := []
  case? : Option TestCase := none
  code : String := ""
  problems : List Problem := []
  notices : List Notice := []
  deriving DecidableEq, Repr

namespace Generation

def isOk (generation : Generation) : Bool := generation.problems.isEmpty

def errors (generation : Generation) : List String := generation.problems.map Problem.message

/-- The generation with problems and no code. -/
def fail (generation : Generation) (headline : String) (problems : List Problem) : Generation :=
  { generation with problems, code := withheld headline problems }

/-- The name of the test; without a case it has none of its own. -/
def testName (generation : Generation) : String :=
  match generation.case? with
  | some case => case.heading.name
  | none => "generated"

/-- The file to save the code in. -/
def fileName (generation : Generation) : String :=
  let name := generation.testName
  match Dialect.find generation.framework generation.language with
  | .error _ => name ++ ".txt"
  | .ok .playwrightPython | .ok .seleniumPython => "test_" ++ name ++ ".py"
  | .ok .seleniumJava => Name.joined name ++ "Test.java"
  | .ok dialect => name ++ dialect.extension

end Generation

structure Generator where
  resolver : Resolver := {}
  data : Option TestData := none

namespace Generator

def isStrict (generator : Generator) : Bool := generator.resolver.strictness == .strict

/-- The instruction with test data in place of placeholders. -/
def substitute (generator : Generator) (text : String) : String :=
  match generator.data with
  | some data => data.fill .valid text
  | none => text

/-- Placeholders that are left and that no test data are for. -/
def missingData (generator : Generator) (text : String) : List Problem :=
  match generator.data with
  | some data => (data.missing text).map .noTestData
  | none => []

/-- What shows to be missing before the instruction is resolved. -/
def earlyProblems (generator : Generator) (text : String) (locks : List Lock) : List Problem :=
  generator.missingData text ++
    if generator.isStrict then (Strict.incomplete locks).problems else []

/-- What is reported before the instruction is resolved. -/
def earlyNotices (generator : Generator) (text : String) : List Notice :=
  let locks := Lock.ofText text
  (Lock.unknownTypes text).map .unknownLock ++
    if generator.isStrict then [] else (generator.earlyProblems text locks).map .tolerated

/-- Addresses that the code may contain. -/
def context (case : TestCase) : List String :=
  case.heading.baseUrl ::
    (case.steps.filter fun step => step.kind? == some .goto).map fun step => step.path.getD ""

def headline : String := "DEVIATION DETECTED\n"

/-- What ends generation without a result. -/
inductive Fault where
  | resolver (fault : Resolver.Fault)
  | timeout (cause : Number.Unwritable)
  deriving DecidableEq, Repr

def Fault.severity : Fault → Severity
  | .resolver fault => fault.severity
  | timeout cause => cause.severity

/-- Checks the code of a case in strict mode. -/
def conclude (generator : Generator) (text : String) (locks : List Lock) (case : TestCase)
    (generated : GeneratedCode) (started : Generation) : Generation :=
  let rendered :=
    { started with
      code := generated.code
      notices := started.notices ++ case.unknowns.map .unknownPart }
  if generator.isStrict then
    let verdict := Strict.verdict text generated.code started.values locks (context case)
    let problems := verdict.problems.eraseDups
    if problems.isEmpty then rendered else rendered.fail headline problems
  else { rendered with notices := rendered.notices ++ [.unchecked case.heading.name] }

/-- Renders a resolved case and, in strict mode, checks the code. -/
def finish (generator : Generator) (text : String) (locks : List Lock) (case : TestCase)
    (options : RenderOptions) (started : Generation) : Except Fault Generation :=
  match render case options with
  | .error (.timeout cause) => .error (.timeout cause)
  | .error (.unsupported cause) =>
      let noticed : Generation := { started with notices := started.notices ++ [.failed cause] }
      .ok (noticed.fail "" [.unsupported cause])
  | .ok generated => .ok (generator.conclude text locks case generated started)

/-- The code of an instruction's test, or why there is none. -/
def generate (generator : Generator) (text baseUrl : String) (options : RenderOptions) :
    Except Fault Generation := do
  let text := generator.substitute text
  let locks := Lock.ofText text
  let early := generator.earlyProblems text locks
  let blank : Generation :=
    { framework := options.framework
      language := options.language
      notices := generator.earlyNotices text }
  if generator.isStrict && !early.isEmpty then return blank.fail headline early
  else
    let values := Extraction.extract text
    let case ← (generator.resolver.resolve text values baseUrl locks).mapError .resolver
    let started :=
      { blank with
        checklist := case.checklist
        values := values.toList
        case? := some case }
    generator.finish text locks case options started

end Generator

end PlainScript

namespace PlainScript.Generation

/-- The result without the case. -/
def summaryFields (generation : Generation) : List (String × Value) := [
  ("resolvedSteps", .texts generation.checklist),
  ("extractedValues", Value.ofTexts generation.values),
  ("code", .text generation.code),
  ("framework", .text generation.framework),
  ("language", .text generation.language),
  ("errors", .texts generation.errors)]

def summary (generation : Generation) : Value := .ofFields generation.summaryFields

/-- The result with the case, if there is one. -/
def document (generation : Generation) : Value :=
  .ofFields (generation.summaryFields ++
    generation.case?.toList.map fun case => ("testCase", case.document))

end PlainScript.Generation
