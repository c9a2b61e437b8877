/-
The line of code of each statement in each dialect.
-/

import PlainScript.Literal.Quoted
import PlainScript.Render.Statement

namespace PlainScript

open Literal

namespace ElementCheck

def playwrightScript (value : String) : ElementCheck → String
  | containsText => "toContainText(" ++ quote value ++ ")"
  | exactText => "toHaveText(" ++ quote value ++ ")"
  | visible => "toBeVisible()"
  | hasValue => "toHaveValue(" ++ quote value ++ ")"
  | isEnabled => "toBeEnabled()"
  | isDisabled => "toBeDisabled()"

def playwrightPython (value : String) : ElementCheck → String
  | containsText => "to_contain_text(" ++ quote value ++ ")"
  | exactText => "to_have_text(" ++ quote value ++ ")"
  | visible => "to_be_visible()"
  | hasValue => "to_have_value(" ++ quote value ++ ")"
  | isEnabled => "to_be_enabled()"
  | isDisabled => "to_be_disabled()"

def seleniumPython (element value : String) : ElementCheck → String
  | containsText => "self.assertIn(" ++ value ++ ", " ++ element ++ ".text)"
  | exactText => "self.assertEqual(" ++ value ++ ", " ++ element ++ ".text)"
  | visible => "self.assertTrue(" ++ element ++ ".is_displayed())"
  | hasValue => "self.assertEqual(" ++ value ++ ", " ++ element ++ ".get_attribute(\"value\"))"
  | isEnabled => "self.assertTrue(" ++ element ++ ".is_enabled())"
  | isDisabled => "self.assertFalse(" ++ element ++ ".is_enabled())"

def seleniumJava (element value : String) : ElementCheck → String
  | containsText => "assertTrue(" ++ element ++ ".getText().contains(" ++ value ++ "));"
  | exactText => "assertEquals(" ++ value ++ ", " ++ element ++ ".getText());"
  | visible => "assertTrue(" ++ element ++ ".isDisplayed());"
  | hasValue => "assertEquals(" ++ value ++ ", " ++ element ++ ".getAttribute(\"value\"));"
  | isEnabled => "assertTrue(" ++ element ++ ".isEnabled());"
  | isDisabled => "assertFalse(" ++ element ++ ".isEnabled());"

def cypress (value : String) : ElementCheck → String
  | containsText => "should('contain', " ++ quote value ++ ")"
  | exactText => "should('have.text', " ++ quote value ++ ")"
  | visible => "should('be.visible')"
  | hasValue => "should('have.value', " ++ quote value ++ ")"
  | isEnabled => "should('be.enabled')"
  | isDisabled => "should('be.disabled')"

end ElementCheck

namespace Statement

def playwrightScript : Statement → String
  | note text => "// " ++ text
  | goto url => "await page.goto(" ++ quote url ++ ");"
  | fill target text =>
      "await page.locator(" ++ quote target ++ ").fill(" ++ quote text ++ ");"
  | click target => "await page.locator(" ++ quote target ++ ").click();"
  | checkUrl value => "expect(page.url()).toContain(" ++ quote value ++ ");"
  | checkElement check target value =>
      "await expect(page.locator(" ++ quote target ++ "))." ++ check.playwrightScript value ++ ";"

def playwrightPython : Statement → String
  | note text => "# " ++ text
  | goto url => "page.goto(" ++ quote url ++ ")"
  | fill target text => "page.locator(" ++ quote target ++ ").fill(" ++ quote text ++ ")"
  | click target => "page.locator(" ++ quote target ++ ").click()"
  | checkUrl value => "assert " ++ quote value ++ " in page.url"
  | checkElement check target value =>
      "expect(page.locator(" ++ quote target ++ "))." ++ check.playwrightPython value

def seleniumPython : Statement → String
  | note text => "# " ++ text
  | goto url => "driver.get(" ++ quoteDouble url ++ ")"
  | fill target text =>
      "driver.find_element(" ++ target ++ ").send_keys(" ++ quoteDouble text ++ ")"
  | click target => "driver.find_element(" ++ target ++ ").click()"
  | checkUrl value => "self.assertIn(" ++ quoteDouble value ++ ", driver.current_url)"
  | checkElement check target value =>
      check.seleniumPython ("driver.find_element(" ++ target ++ ")") (quoteDouble value)

def seleniumJava : Statement → String
  | note text => "// " ++ text
  | goto url => "driver.get(" ++ quoteDouble url ++ ");"
  | fill target text =>
      "driver.findElement(" ++ target ++ ").sendKeys(" ++ quoteDouble text ++ ");"
  | click target => "driver.findElement(" ++ target ++ ").click();"
  | checkUrl value => "assertTrue(driver.getCurrentUrl().contains(" ++ quoteDouble value ++ "));"
  | checkElement check target value =>
      check.seleniumJava ("driver.findElement(" ++ target ++ ")") (quoteDouble value)

def cypress : Statement → String
  | note text => "// " ++ text
  | goto url => "cy.visit(" ++ quote url ++ ");"
  | fill target text => "cy.get(" ++ quote target ++ ").type(" ++ quote text ++ ");"
  | click target => "cy.get(" ++ quote target ++ ").click();"
  | checkUrl value => "cy.url().should('include', " ++ quote value ++ ");"
  | checkElement check target value =>
      "cy.get(" ++ quote target ++ ")." ++ check.cypress value ++ ";"

end Statement

namespace Dialect

/-- The line of a statement, without its indentation. -/
def line : Dialect → Statement → String
  | playwrightTypeScript | playwrightJavaScript => Statement.playwrightScript
  | playwrightPython => Statement.playwrightPython
  | seleniumPython => Statement.seleniumPython
  | seleniumJava => Statement.seleniumJava
  | cypressTypeScript | cypressJavaScript => Statement.cypress

/-- The line that takes a picture of the page. -/
def screenshot (dialect : Dialect) (name : String) : String :=
  match dialect with
  | playwrightTypeScript | playwrightJavaScript =>
      "await page.screenshot(\x7b path: " ++ quote (name ++ ".png") ++ " \x7d);"
  | playwrightPython => "page.screenshot(path=" ++ quote (name ++ ".png") ++ ")"
  | seleniumPython => "driver.save_screenshot(" ++ quoteDouble (name ++ ".png") ++ ")"
  | seleniumJava =>
      "((TakesScreenshot) driver).getScreenshotAs(OutputType.FILE).renameTo(new File(" ++
        quoteDouble (name ++ ".png") ++ "));"
  | cypressTypeScript | cypressJavaScript => "cy.screenshot(" ++ quote name ++ ");"

/-- The spaces in front of the lines of steps. -/
def indent (dialect : Dialect) : String :=
  match dialect with
  | playwrightTypeScript | playwrightJavaScript => "  "
  | playwrightPython | cypressTypeScript | cypressJavaScript => "    "
  | seleniumPython | seleniumJava => "        "

end Dialect

end PlainScript
