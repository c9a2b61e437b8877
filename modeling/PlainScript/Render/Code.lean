/-
The code of a whole case: a prelude, the lines of each step in order and a closing. Options are read
from documents.
-/

import PlainScript.Number.Integer
import PlainScript.Number.Text
import PlainScript.Render.Line
import PlainScript.Schema.Decoder
import PlainScript.TestCase.Name

namespace PlainScript

structure RenderOptions where
  framework : String := "playwright"
  language : String := "typescript"
  includeComments : Bool := true
  includeScreenshots : Bool := false
  /-- The timeout of the test in milliseconds. -/
  timeout : Int := 30000
  deriving DecidableEq, Repr

structure GeneratedCode where
  code : String
  framework : String
  language : String
  dependencies : List String
  setup : List String
  deriving DecidableEq, Repr

/-- The title of a case: its description on one line, or else its name. -/
def Heading.title (heading : Heading) : String :=
  let line := Text.oneLine (heading.description.getD "")
  if line.isEmpty then heading.name else line

namespace Dialect

/-- Comments that tell what the test is. -/
def header (dialect : Dialect) (options : RenderOptions) (heading : Heading) : List String :=
  if options.includeComments then
    (dialect.comment ++ " Test: " ++ heading.title) ::
      (dialect.comment ++ " Base URL: " ++ heading.baseUrl) ::
      if heading.tags.isEmpty then []
      else [dialect.comment ++ " Tags: " ++ ", ".intercalate heading.tags]
  else []

/-- The text of a timeout, which is told in seconds or in milliseconds. -/
def timeoutText (dialect : Dialect) (milliseconds : Int) : Except Number.Unwritable String :=
  match dialect with
  | seleniumPython =>
      match Number.Double.quotient? milliseconds 1000 with
      | some seconds => .ok seconds.briefText
      | none => .error .oversized
  | _ => Number.intText milliseconds

def playwrightScriptPrelude (firstLine signatureEnd : String) (options : RenderOptions)
    (heading : Heading) (header : List String) (timeout : String) : List String :=
  [firstLine, ""] ++ header ++
    ["", "test(" ++ Literal.quote heading.name ++ ", async (" ++ signatureEnd] ++
    (if options.includeComments then ["  // Set timeout for the test"] else []) ++
    ["  test.setTimeout(" ++ timeout ++ ");", ""]

/-- The class that holds a Selenium test. -/
def className (heading : Heading) : String := Name.camel heading.name ++ "Test"

/-- Everything before the steps; the text of the timeout is given. -/
def prelude (dialect : Dialect) (options : RenderOptions) (heading : Heading)
    (timeout : String) : List String :=
  let header := dialect.header options heading
  match dialect with
  | playwrightTypeScript =>
      playwrightScriptPrelude "import \x7b test, expect, Page \x7d from '@playwright/test';"
        "\x7b page \x7d: \x7b page: Page \x7d) => \x7b" options heading header timeout
  | playwrightJavaScript =>
      playwrightScriptPrelude "const \x7b test, expect \x7d = require('@playwright/test');"
        "\x7b page \x7d) => \x7b" options heading header timeout
  | playwrightPython =>
      ["from playwright.sync_api import Page, expect", "", ""] ++ header ++
        ["def test_" ++ heading.name ++ "(page: Page):",
          "    page.set_default_timeout(" ++ timeout ++ ")", ""]
  | seleniumPython =>
      ["import unittest", "", "from selenium import webdriver",
        "from selenium.webdriver.common.by import By", "", ""] ++ header ++
        ["class " ++ className heading ++ "(unittest.TestCase):",
          "    def setUp(self):",
          "        self.driver = webdriver.Chrome()",
          "        self.driver.implicitly_wait(" ++ timeout ++ ")",
          "",
          "    def tearDown(self):",
          "        self.driver.quit()",
          "",
          "    def test_" ++ heading.name ++ "(self):",
          "        driver = self.driver"]
  | seleniumJava =>
      ["import java.io.File;",
        "import java.time.Duration;",
        "import org.junit.After;",
        "import org.junit.Before;",
        "import org.junit.Test;",
        "import org.openqa.selenium.By;",
        "import org.openqa.selenium.OutputType;",
        "import org.openqa.selenium.TakesScreenshot;",
        "import org.openqa.selenium.WebDriver;",
        "import org.openqa.selenium.chrome.ChromeDriver;",
        "import static org.junit.Assert.*;",
        ""] ++ header ++
        ["public class " ++ className heading ++ " \x7b",
          "    private WebDriver driver;",
          "",
          "    @Before",
          "    public void setUp() \x7b",
          "        driver = new ChromeDriver();",
          "        driver.manage().timeouts().implicitlyWait(Duration.ofMillis(" ++ timeout ++
            "));",
          "    \x7d",
          "",
          "    @After",
          "    public void tearDown() \x7b",
          "        driver.quit();",
          "    \x7d",
          "",
          "    @Test",
          "    public void test" ++ Name.camel heading.name ++ "() \x7b"]
  | cypressTypeScript | cypressJavaScript =>
      let top := (if dialect = cypressTypeScript then
        ["/// <reference types=\"cypress\" />", ""] else []) ++ header
      top ++ (if top.isEmpty then [] else [""]) ++
        ["describe(" ++ Literal.quote heading.name ++ ", () => \x7b",
          "  it(" ++ Literal.quote heading.title ++ ", () => \x7b",
          "    Cypress.config('defaultCommandTimeout', " ++ timeout ++ ");"]

/-- Everything after the steps. -/
def closing : Dialect → List String
  | playwrightTypeScript | playwrightJavaScript => ["\x7d);"]
  | playwrightPython => []
  | seleniumPython => ["", "", "if __name__ == \"__main__\":", "    unittest.main()"]
  | seleniumJava => ["    \x7d", "\x7d"]
  | cypressTypeScript | cypressJavaScript => ["  \x7d);", "\x7d);"]

/-- The lines of the step with the given number, counted from one. -/
def stepLines (dialect : Dialect) (options : RenderOptions) (base : String) (number : Nat)
    (step : Step) : List String :=
  (if options.includeComments then
    [dialect.indent ++ dialect.comment ++ " Step " ++ toString number ++ ": " ++ step.action]
  else []) ++
    [dialect.indent ++ dialect.line (dialect.statement base step)] ++
    if options.includeScreenshots then
      [dialect.indent ++ dialect.screenshot ("step-" ++ toString number ++ "-" ++ step.action)]
    else []

def stepsLines (dialect : Dialect) (options : RenderOptions) (case : TestCase) : List String :=
  (case.steps.zipIdx 1).flatMap fun (step, number) =>
    dialect.stepLines options case.heading.baseUrl number step

def lines (dialect : Dialect) (options : RenderOptions) (case : TestCase) (timeout : String) :
    List String :=
  dialect.prelude options case.heading timeout ++ dialect.stepsLines options case ++
    dialect.closing

/-- The whole code; the text of the timeout is given. -/
def code (dialect : Dialect) (options : RenderOptions) (case : TestCase) (timeout : String) :
    String :=
  "\n".intercalate (dialect.lines options case timeout) ++ "\n"

/-- The packages that the code needs. -/
def dependencies : Dialect → List String
  | playwrightTypeScript => ["@playwright/test", "typescript", "@types/node"]
  | playwrightJavaScript => ["@playwright/test"]
  | playwrightPython => ["pytest-playwright"]
  | seleniumPython => ["selenium"]
  | seleniumJava => ["selenium-java", "junit"]
  | cypressTypeScript => ["cypress", "typescript"]
  | cypressJavaScript => ["cypress"]

/-- The file to save a test under. -/
def fileName (dialect : Dialect) (heading : Heading) : String :=
  match dialect with
  | playwrightPython | seleniumPython => "test_" ++ heading.name ++ ".py"
  | seleniumJava => className heading ++ ".java"
  | dialect => heading.name ++ dialect.extension

/-- How to set the test up and run it. -/
def setup (dialect : Dialect) (heading : Heading) : List String :=
  let file := dialect.fileName heading
  match dialect with
  | playwrightTypeScript | playwrightJavaScript =>
      ["npm install @playwright/test", "npx playwright install", "Save the test as " ++ file,
        "Run with: npx playwright test"]
  | playwrightPython =>
      ["pip install pytest-playwright", "playwright install", "Save the test as " ++ file,
        "Run with: pytest"]
  | seleniumPython =>
      ["pip install selenium", "Install Chrome (Selenium Manager fetches the driver)",
        "Save as " ++ file, "Run with: python " ++ file]
  | seleniumJava =>
      ["Add selenium-java and junit to dependencies",
        "Install Chrome (Selenium Manager fetches the driver)", "Save as " ++ file,
        "Run with JUnit"]
  | cypressTypeScript | cypressJavaScript =>
      ["npm install cypress", "Save as cypress/e2e/" ++ file, "Run with: npx cypress open"]

end Dialect

/-- Why a case has no code. -/
inductive RenderFault where
  | unsupported (cause : Unsupported)
  | timeout (cause : Number.Unwritable)
  deriving DecidableEq, Repr

/-- The code of a case in the dialect of the options. -/
def render (case : TestCase) (options : RenderOptions) : Except RenderFault GeneratedCode := do
  let dialect ← (Dialect.find options.framework options.language).mapError .unsupported
  let timeout ← (dialect.timeoutText options.timeout).mapError .timeout
  return ⟨dialect.code options case timeout, options.framework, options.language,
    dialect.dependencies, dialect.setup case.heading⟩

/-- A part of a case that has no code and is rendered as a comment. -/
inductive Unknown where
  | action (name : String)
  | assertionType (name : String)
  deriving DecidableEq, Repr

def Step.unknown? (step : Step) : Option Unknown :=
  match step.kind? with
  | none => some (.action step.action)
  | some .check =>
      step.assertion.bind fun assertion =>
        if assertion.kind?.isNone then some (.assertionType assertion.type) else none
  | some _ => none

/-- The parts of a case that are rendered as comments, in order. -/
def TestCase.unknowns (case : TestCase) : List Unknown := case.steps.filterMap Step.unknown?

open Schema

/-- Options over a base that holds where a document says nothing. -/
def RenderOptions.decodeOver (base : RenderOptions) : Decoder RenderOptions :=
  model .memory "RenderOptions" fun document =>
    RenderOptions.mk <$>
      defaulted ["framework"] plainText base.framework document <*>
      defaulted ["language"] plainText base.language document <*>
      defaulted ["include_comments"] truth base.includeComments document <*>
      defaulted ["include_screenshots"] truth base.includeScreenshots document <*>
      defaulted ["timeout"] wholeNumber base.timeout document

def RenderOptions.decode : Decoder RenderOptions := decodeOver {}

def RenderOptions.document (options : RenderOptions) : Value :=
  .ofFields [
    ("framework", .text options.framework),
    ("language", .text options.language),
    ("include_comments", .bool options.includeComments),
    ("include_screenshots", .bool options.includeScreenshots),
    ("timeout", .int options.timeout)]

def GeneratedCode.document (generated : GeneratedCode) : Value :=
  .ofFields [
    ("code", .text generated.code),
    ("framework", .text generated.framework),
    ("language", .text generated.language),
    ("dependencies", .texts generated.dependencies),
    ("setup_instructions", .texts generated.setup)]

end PlainScript
