/-
Lines of code are woven of words that belong to the dialect and of literals that hold what a step
gives. Different deeds differ in their words or in what their literals hold, so that a line tells
the deed, whatever its texts imitate.
-/

import PlainScript.Proofs.Literal.Weft
import PlainScript.Proofs.Render.Deed

namespace PlainScript

open Literal

/-! Words up to a selector -/

namespace Lookup

/-- The words up to the selector of an element that Python code looks up. -/
def inPython (front : String) (how : Lookup) : String :=
  front ++ "driver.find_element(" ++ how.pythonName ++ ", "

/-- The words up to the selector of an element that Java code looks up. -/
def inJava (front : String) (how : Lookup) : String :=
  front ++ "driver.findElement(" ++ how.javaName ++ "("

/-- The words up to a selector tell what is in front of them and how it is read. -/
theorem inPython_inj {front front' : String} {how how' : Lookup} :
    how.inPython front = how'.inPython front' ↔ front = front' ∧ how = how' := by
  refine ⟨fun same => ?_, fun ⟨sameFront, sameHow⟩ => sameFront ▸ sameHow ▸ rfl⟩
  have backwards := congrArg (fun words => words.toList.reverse) same
  simp only [inPython, String.toList_append, List.reverse_append] at backwards
  rw [← String.toList_inj]
  cases how <;> cases how' <;> simp_all [pythonName]

theorem inJava_inj {front front' : String} {how how' : Lookup} :
    how.inJava front = how'.inJava front' ↔ front = front' ∧ how = how' := by
  refine ⟨fun same => ?_, fun ⟨sameFront, sameHow⟩ => sameFront ▸ sameHow ▸ rfl⟩
  have backwards := congrArg (fun words => words.toList.reverse) same
  simp only [inJava, String.toList_append, List.reverse_append] at backwards
  rw [← String.toList_inj]
  cases how <;> cases how' <;> simp_all [javaName]

/-- The words in front of any other text do not end like those in front of a selector. -/
theorem inPython_ne {front words : String} {how : Lookup}
    (other : words ∈ ["driver.get(", "self.assertIn(", "self.assertEqual("]) :
    how.inPython front ≠ words := by
  intro same
  have backwards := congrArg (fun words => words.toList.reverse) same
  simp only [inPython, String.toList_append, List.reverse_append] at backwards
  simp only [List.mem_cons, List.not_mem_nil, or_false] at other
  rcases other with rfl | rfl | rfl <;> simp at backwards

theorem inJava_ne {front words : String} {how : Lookup}
    (other : words ∈
      ["driver.get(", "assertTrue(driver.getCurrentUrl().contains(", "assertEquals("]) :
    how.inJava front ≠ words := by
  intro same
  have backwards := congrArg (fun words => words.toList.reverse) same
  simp only [inJava, String.toList_append, List.reverse_append] at backwards
  simp only [List.mem_cons, List.not_mem_nil, or_false] at other
  rcases other with rfl | rfl | rfl <;> cases how <;> simp [javaName] at backwards

theorem isBare_inPython (how : Lookup) (front : String) :
    isBare (how.inPython front) = isBare front := by
  have name : isBare how.pythonName = true := by
    cases how <;> exact isBare_ofList (by decide)
  rw [inPython, isBare_append, isBare_append, isBare_append, name, isBare_ofList (by decide),
    isBare_ofList (by decide), Bool.and_true, Bool.and_true, Bool.and_true]

theorem isBare_inJava (how : Lookup) (front : String) :
    isBare (how.inJava front) = isBare front := by
  have name : isBare how.javaName = true := by
    cases how <;> exact isBare_ofList (by decide)
  rw [inJava, isBare_append, isBare_append, isBare_append, name, isBare_ofList (by decide),
    isBare_ofList (by decide), Bool.and_true, Bool.and_true, Bool.and_true]

end Lookup

/-! The wefts of deeds -/

/-- Every line of the deeds is woven of bare words and of literals, and differently for different
deeds. -/
structure Weaves {framework : Framework} (asked : Mark) (weft : Deed framework → Weft)
    (line : Deed framework → String) : Prop where
  line_eq : ∀ deed, (line deed).toList = weave asked (weft deed).1 (weft deed).2
  bare : ∀ deed, (weft deed).isBare = true
  injective : Function.Injective weft

/-- Lines that are woven so tell their deeds. -/
theorem Weaves.line_injective {framework : Framework} {asked : Mark} {weft : Deed framework → Weft}
    {line : Deed framework → String} (weaves : Weaves asked weft line) :
    Function.Injective line := by
  intro first second same
  have sameChars := congrArg String.toList same
  rw [weaves.line_eq, weaves.line_eq] at sameChars
  exact weaves.injective (Weft.eq_of_weave_eq (weaves.bare first) (weaves.bare second) sameChars)

namespace Deed

def playwrightScript : Deed .playwright → Weft
  | goto url => ("await page.goto(", [(url, ");")])
  | fill element text => ("await page.locator(", [(element, ").fill("), (text, ");")])
  | click element => ("await page.locator(", [(element, ").click();")])
  | checkUrl value => ("expect(page.url()).toContain(", [(value, ");")])
  | checkElement .containsText element text =>
      ("await expect(page.locator(", [(element, ")).toContainText("), (text, ");")])
  | checkElement .exactText element text =>
      ("await expect(page.locator(", [(element, ")).toHaveText("), (text, ");")])
  | checkElement .visible element _ =>
      ("await expect(page.locator(", [(element, ")).toBeVisible();")])
  | checkElement .hasValue element value =>
      ("await expect(page.locator(", [(element, ")).toHaveValue("), (value, ");")])
  | checkElement .isEnabled element _ =>
      ("await expect(page.locator(", [(element, ")).toBeEnabled();")])
  | checkElement .isDisabled element _ =>
      ("await expect(page.locator(", [(element, ")).toBeDisabled();")])

theorem weaves_playwrightScript :
    Weaves .single playwrightScript fun deed => (deed.statement id).playwrightScript where
  line_eq deed := by
    rcases deed with _ | _ | _ | _ | ⟨_ | _ | _ | _ | _ | _, _, _⟩ <;>
      delta Statement.playwrightScript ElementCheck.playwrightScript statement <;>
      dsimp only <;>
      simp only [ElementCheck.text, playwrightScript, weave, quote, String.toList_append,
        String.toList_ofList, List.append_assoc] <;>
      rfl
  bare deed := by
    rcases deed with _ | _ | _ | _ | ⟨_ | _ | _ | _ | _ | _, _, _⟩ <;>
      simp only [playwrightScript, Weft.isBare, List.all_cons, List.all_nil, Bool.and_eq_true,
        and_true] <;>
      and_intros <;>
      exact isBare_ofList (by decide)
  injective first second same := by
    rcases first with _ | _ | _ | _ | ⟨_ | _ | _ | _ | _ | _, _, _⟩ <;>
      rcases second with _ | _ | _ | _ | ⟨_ | _ | _ | _ | _ | _, _, _⟩ <;>
      simp_all [playwrightScript]

def playwrightPython : Deed .playwright → Weft
  | goto url => ("page.goto(", [(url, ")")])
  | fill element text => ("page.locator(", [(element, ").fill("), (text, ")")])
  | click element => ("page.locator(", [(element, ").click()")])
  | checkUrl value => ("assert ", [(value, " in page.url")])
  | checkElement .containsText element text =>
      ("expect(page.locator(", [(element, ")).to_contain_text("), (text, ")")])
  | checkElement .exactText element text =>
      ("expect(page.locator(", [(element, ")).to_have_text("), (text, ")")])
  | checkElement .visible element _ => ("expect(page.locator(", [(element, ")).to_be_visible()")])
  | checkElement .hasValue element value =>
      ("expect(page.locator(", [(element, ")).to_have_value("), (value, ")")])
  | checkElement .isEnabled element _ => ("expect(page.locator(", [(element, ")).to_be_enabled()")])
  | checkElement .isDisabled element _ =>
      ("expect(page.locator(", [(element, ")).to_be_disabled()")])

theorem weaves_playwrightPython :
    Weaves .single playwrightPython fun deed => (deed.statement id).playwrightPython where
  line_eq deed := by
    rcases deed with _ | _ | _ | _ | ⟨_ | _ | _ | _ | _ | _, _, _⟩ <;>
      delta Statement.playwrightPython ElementCheck.playwrightPython statement <;>
      dsimp only <;>
      simp only [ElementCheck.text, playwrightPython, weave, quote, String.toList_append,
        String.toList_ofList, List.append_assoc] <;>
      rfl
  bare deed := by
    rcases deed with _ | _ | _ | _ | ⟨_ | _ | _ | _ | _ | _, _, _⟩ <;>
      simp only [playwrightPython, Weft.isBare, List.all_cons, List.all_nil, Bool.and_eq_true,
        and_true] <;>
      and_intros <;>
      exact isBare_ofList (by decide)
  injective first second same := by
    rcases first with _ | _ | _ | _ | ⟨_ | _ | _ | _ | _ | _, _, _⟩ <;>
      rcases second with _ | _ | _ | _ | ⟨_ | _ | _ | _ | _ | _, _, _⟩ <;>
      simp_all [playwrightPython]

def seleniumPython : Deed .selenium → Weft
  | goto url => ("driver.get(", [(url, ")")])
  | fill (how, selector) text => (how.inPython "", [(selector, ").send_keys("), (text, ")")])
  | click (how, selector) => (how.inPython "", [(selector, ").click()")])
  | checkUrl value => ("self.assertIn(", [(value, ", driver.current_url)")])
  | checkElement .containsText (how, selector) text =>
      ("self.assertIn(", [(text, how.inPython ", "), (selector, ").text)")])
  | checkElement .exactText (how, selector) text =>
      ("self.assertEqual(", [(text, how.inPython ", "), (selector, ").text)")])
  | checkElement .visible (how, selector) _ =>
      (how.inPython "self.assertTrue(", [(selector, ").is_displayed())")])
  | checkElement .hasValue (how, selector) value =>
      ("self.assertEqual(",
        [(value, how.inPython ", "), (selector, ").get_attribute("), ("value", "))")])
  | checkElement .isEnabled (how, selector) _ =>
      (how.inPython "self.assertTrue(", [(selector, ").is_enabled())")])
  | checkElement .isDisabled (how, selector) _ =>
      (how.inPython "self.assertFalse(", [(selector, ").is_enabled())")])

theorem weaves_seleniumPython :
    Weaves .double seleniumPython fun deed =>
      (deed.statement (seleniumArgument true)).seleniumPython where
  line_eq deed := by
    rcases deed with _ | ⟨⟨_, _⟩, _⟩ | ⟨⟨_, _⟩⟩ | _ | ⟨_ | _ | _ | _ | _ | _, ⟨_, _⟩, _⟩ <;>
      delta Statement.seleniumPython ElementCheck.seleniumPython statement seleniumArgument <;>
      dsimp only <;>
      simp only [ElementCheck.text, seleniumPython, Lookup.inPython, weave, quoteDouble, if_true,
        String.toList_append, String.toList_ofList, List.append_assoc] <;>
      rfl
  bare deed := by
    rcases deed with _ | _ | _ | _ | ⟨_ | _ | _ | _ | _ | _, _, _⟩ <;>
      simp only [seleniumPython, Weft.isBare, Lookup.isBare_inPython, List.all_cons, List.all_nil,
        Bool.and_eq_true, and_true] <;>
      and_intros <;>
      exact isBare_ofList (by decide)
  injective first second same := by
    have other {front words : String} {how : Lookup} := @Lookup.inPython_ne front words how
    have other' {front words : String} {how : Lookup} (member) :=
      (@Lookup.inPython_ne front words how member).symm
    rcases first with _ | ⟨⟨_, _⟩, _⟩ | ⟨⟨_, _⟩⟩ | _ | ⟨_ | _ | _ | _ | _ | _, ⟨_, _⟩, _⟩ <;>
      rcases second with _ | ⟨⟨_, _⟩, _⟩ | ⟨⟨_, _⟩⟩ | _ | ⟨_ | _ | _ | _ | _ | _, ⟨_, _⟩, _⟩ <;>
      simp_all [seleniumPython, Lookup.inPython_inj]

def seleniumJava : Deed .selenium → Weft
  | goto url => ("driver.get(", [(url, ");")])
  | fill (how, selector) text => (how.inJava "", [(selector, ")).sendKeys("), (text, ");")])
  | click (how, selector) => (how.inJava "", [(selector, ")).click();")])
  | checkUrl value => ("assertTrue(driver.getCurrentUrl().contains(", [(value, "));")])
  | checkElement .containsText (how, selector) text =>
      (how.inJava "assertTrue(", [(selector, ")).getText().contains("), (text, "));")])
  | checkElement .exactText (how, selector) text =>
      ("assertEquals(", [(text, how.inJava ", "), (selector, ")).getText());")])
  | checkElement .visible (how, selector) _ =>
      (how.inJava "assertTrue(", [(selector, ")).isDisplayed());")])
  | checkElement .hasValue (how, selector) value =>
      ("assertEquals(",
        [(value, how.inJava ", "), (selector, ")).getAttribute("), ("value", "));")])
  | checkElement .isEnabled (how, selector) _ =>
      (how.inJava "assertTrue(", [(selector, ")).isEnabled());")])
  | checkElement .isDisabled (how, selector) _ =>
      (how.inJava "assertFalse(", [(selector, ")).isEnabled());")])

theorem weaves_seleniumJava :
    Weaves .double seleniumJava fun deed =>
      (deed.statement (seleniumArgument false)).seleniumJava where
  line_eq deed := by
    rcases deed with _ | ⟨⟨_, _⟩, _⟩ | ⟨⟨_, _⟩⟩ | _ | ⟨_ | _ | _ | _ | _ | _, ⟨_, _⟩, _⟩ <;>
      delta Statement.seleniumJava ElementCheck.seleniumJava statement seleniumArgument <;>
      dsimp only <;>
      simp only [ElementCheck.text, seleniumJava, Lookup.inJava, weave, quoteDouble,
        Bool.false_eq_true, if_false, String.toList_append, String.toList_ofList, List.append_assoc] <;>
      rfl
  bare deed := by
    rcases deed with _ | _ | _ | _ | ⟨_ | _ | _ | _ | _ | _, _, _⟩ <;>
      simp only [seleniumJava, Weft.isBare, Lookup.isBare_inJava, List.all_cons, List.all_nil,
        Bool.and_eq_true, and_true] <;>
      and_intros <;>
      exact isBare_ofList (by decide)
  injective first second same := by
    have other {front words : String} {how : Lookup} := @Lookup.inJava_ne front words how
    have other' {front words : String} {how : Lookup} (member) :=
      (@Lookup.inJava_ne front words how member).symm
    rcases first with _ | ⟨⟨_, _⟩, _⟩ | ⟨⟨_, _⟩⟩ | _ | ⟨_ | _ | _ | _ | _ | _, ⟨_, _⟩, _⟩ <;>
      rcases second with _ | ⟨⟨_, _⟩, _⟩ | ⟨⟨_, _⟩⟩ | _ | ⟨_ | _ | _ | _ | _ | _, ⟨_, _⟩, _⟩ <;>
      simp_all [seleniumJava, Lookup.inJava_inj]

def cypress : Deed .cypress → Weft
  | goto url => ("cy.visit(", [(url, ");")])
  | fill element text => ("cy.get(", [(element, ").type("), (text, ");")])
  | click element => ("cy.get(", [(element, ").click();")])
  | checkUrl value => ("cy.url().should(", [("include", ", "), (value, ");")])
  | checkElement .containsText element text =>
      ("cy.get(", [(element, ").should("), ("contain", ", "), (text, ");")])
  | checkElement .exactText element text =>
      ("cy.get(", [(element, ").should("), ("have.text", ", "), (text, ");")])
  | checkElement .visible element _ => ("cy.get(", [(element, ").should("), ("be.visible", ");")])
  | checkElement .hasValue element value =>
      ("cy.get(", [(element, ").should("), ("have.value", ", "), (value, ");")])
  | checkElement .isEnabled element _ => ("cy.get(", [(element, ").should("), ("be.enabled", ");")])
  | checkElement .isDisabled element _ =>
      ("cy.get(", [(element, ").should("), ("be.disabled", ");")])

theorem weaves_cypress :
    Weaves .single cypress fun deed => (deed.statement id).cypress where
  line_eq deed := by
    rcases deed with _ | _ | _ | _ | ⟨_ | _ | _ | _ | _ | _, _, _⟩ <;>
      delta Statement.cypress ElementCheck.cypress statement <;>
      dsimp only <;>
      simp only [ElementCheck.text, cypress, weave, quote, String.toList_append,
        String.toList_ofList, List.append_assoc] <;>
      rfl
  bare deed := by
    rcases deed with _ | _ | _ | _ | ⟨_ | _ | _ | _ | _ | _, _, _⟩ <;>
      simp only [cypress, Weft.isBare, List.all_cons, List.all_nil, Bool.and_eq_true, and_true] <;>
      and_intros <;>
      exact isBare_ofList (by decide)
  injective first second same := by
    rcases first with _ | _ | _ | _ | ⟨_ | _ | _ | _ | _ | _, _, _⟩ <;>
      rcases second with _ | _ | _ | _ | ⟨_ | _ | _ | _ | _ | _, _, _⟩ <;>
      simp_all [cypress]

end Deed

/-! Lines of steps -/

namespace Dialect

/-- The line of a deed tells the deed. -/
theorem line_statement_injective (dialect : Dialect) :
    Function.Injective fun deed : Deed dialect.framework =>
      dialect.line (deed.statement dialect.argument) := by
  cases dialect with
  | playwrightTypeScript | playwrightJavaScript => exact Deed.weaves_playwrightScript.line_injective
  | playwrightPython => exact Deed.weaves_playwrightPython.line_injective
  | seleniumPython => exact Deed.weaves_seleniumPython.line_injective
  | seleniumJava => exact Deed.weaves_seleniumJava.line_injective
  | cypressTypeScript | cypressJavaScript => exact Deed.weaves_cypress.line_injective

/-- Complete steps of known action have the same line only if they do the same: they have the same
action and, as far as it shows them, the same address, the same selector under the same strategy
and the same texts. -/
theorem line_eq_line_iff (dialect : Dialect) (base : String) {first second : Step}
    (known : first.IsKnown) (complete : ¬ first.IsIncomplete dialect.framework)
    (known' : second.IsKnown) (complete' : ¬ second.IsIncomplete dialect.framework) :
    dialect.line (dialect.statement base first) = dialect.line (dialect.statement base second) ↔
      ∃ deed, first.deed? dialect.framework base = some deed ∧
        second.deed? dialect.framework base = some deed := by
  obtain ⟨deed, does, line⟩ := dialect.exists_deed base known complete
  obtain ⟨deed', does', line'⟩ := dialect.exists_deed base known' complete'
  rw [line, line', does, does']
  constructor
  · intro same
    exact ⟨deed, rfl, congrArg some (dialect.line_statement_injective same).symm⟩
  · rintro ⟨common, isCommon, isCommon'⟩
    rw [Option.some.inj isCommon, Option.some.inj isCommon']

/-- A text that imitates the end of a literal and of the call around it makes another line. -/
theorem line_ne_line_of_imitation :
    playwrightPython.line (playwrightPython.statement "" (.fill (.css "a") "b')")) ≠
      playwrightPython.line (playwrightPython.statement "" (.fill (.css "a") "b")) := by
  have known (text : String) : (Step.fill (.css "a") text).IsKnown :=
    ⟨.fill, rfl, fun absurd => by cases absurd⟩
  have complete (text : String) (given : text ≠ "") :
      ¬ (Step.fill (.css "a") text).IsIncomplete .playwright := by
    simp [Step.IsIncomplete, Step.kind?, Step.fill, Action.ofName?, Locator.IsLacking, Locator.css,
      Locator.IsUnresolvable, LocatorKind.ofName?, filled, given]
  intro same
  obtain ⟨deed, does, does'⟩ := (line_eq_line_iff playwrightPython "" (known "b')")
    (complete "b')" (by decide)) (known "b") (complete "b" (by decide))).mp same
  have text : deed = .fill "a" "b')" := (Option.some.inj does).symm
  have text' : deed = .fill "a" "b" := (Option.some.inj does').symm
  have sameText := (Deed.fill.inj (text.symm.trans text')).2
  exact absurd sameText (by decide)

end Dialect

end PlainScript
