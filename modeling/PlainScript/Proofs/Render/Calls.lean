/-
Names of calls in code. The words of a line hold the names of its own call, apart from the line
that checks the address in Java, and whatever else the line holds stands in the texts that it shows.
-/

import PlainScript.Proofs.Check.Calls
import PlainScript.Proofs.Render.Faithful
import PlainScript.Proofs.Render.Login

namespace PlainScript

open Literal Requirement

/-- The requirement that a statement is there for; comments are there for none. -/
def Statement.requirement? : Statement → Option Requirement
  | note _ => none
  | goto _ => some .navigation
  | fill _ _ => some .filling
  | click _ => some .clicking
  | checkUrl _ | checkElement _ _ _ => some .assertion

def Statement.checksUrl : Statement → Bool
  | checkUrl _ => true
  | _ => false

/-! Lines of deeds -/

/-- A line meets what its words meet and what the values of its literals meet. -/
theorem Weaves.isMet_line {framework : Framework} {asked : Mark} {weft : Deed framework → Weft}
    {line : Deed framework → String} (weaves : Weaves asked weft line) (deed : Deed framework)
    (requirement : Requirement) :
    requirement.isMet (line deed) = (requirement.isMet (weft deed).1 ||
      (weft deed).2.any fun part => requirement.isMet part.1 || requirement.isMet part.2) := by
  have woven : line deed = .ofList (weave asked (weft deed).1 (weft deed).2) := by
    rw [← weaves.line_eq, String.ofList_toList]
  rw [woven, isMet_weave]

namespace Deed

variable {requirement : Requirement}

theorem isMet_playwrightScript (deed : Deed .playwright)
    (other : (deed.statement id).requirement? ≠ some requirement) :
    requirement.isMet (deed.statement id).playwrightScript =
      (deed.statement id).shown.any requirement.isMet := by
  have silent {words : String}
      (absent : isSilentBut (deed.statement id).requirement? words = true) :
      requirement.isMet words = false := isMet_eq_false absent other
  rw [weaves_playwrightScript.isMet_line]
  rcases deed with _ | _ | _ | _ | ⟨_ | _ | _ | _ | _ | _, _, _⟩ <;>
    simp only [statement, Statement.requirement?] at silent <;>
    simp (disch := (apply silent_ofList; decide)) only [silent, playwrightScript, statement, id,
      Statement.shown, ElementCheck.needsValue, ElementCheck.text, List.any_cons, List.any_nil,
      Bool.or_false, Bool.false_or, if_true, Bool.false_eq_true, if_false]

theorem isMet_playwrightPython (deed : Deed .playwright)
    (other : (deed.statement id).requirement? ≠ some requirement) :
    requirement.isMet (deed.statement id).playwrightPython =
      (deed.statement id).shown.any requirement.isMet := by
  have silent {words : String}
      (absent : isSilentBut (deed.statement id).requirement? words = true) :
      requirement.isMet words = false := isMet_eq_false absent other
  rw [weaves_playwrightPython.isMet_line]
  rcases deed with _ | _ | _ | _ | ⟨_ | _ | _ | _ | _ | _, _, _⟩ <;>
    simp only [statement, Statement.requirement?] at silent <;>
    simp (disch := (apply silent_ofList; decide)) only [silent, playwrightPython, statement, id,
      Statement.shown, ElementCheck.needsValue, ElementCheck.text, List.any_cons, List.any_nil,
      Bool.or_false, Bool.false_or, if_true, Bool.false_eq_true, if_false]

theorem isMet_cypress (deed : Deed .cypress)
    (other : (deed.statement id).requirement? ≠ some requirement) :
    requirement.isMet (deed.statement id).cypress =
      (deed.statement id).shown.any requirement.isMet := by
  have silent {words : String}
      (absent : isSilentBut (deed.statement id).requirement? words = true) :
      requirement.isMet words = false := isMet_eq_false absent other
  rw [weaves_cypress.isMet_line]
  rcases deed with _ | _ | _ | _ | ⟨_ | _ | _ | _ | _ | _, _, _⟩ <;>
    simp only [statement, Statement.requirement?] at silent <;>
    simp (disch := (apply silent_ofList; decide)) only [silent, cypress, statement, id,
      Statement.shown, ElementCheck.needsValue, ElementCheck.text, List.any_cons, List.any_nil,
      Bool.or_false, Bool.false_or, if_true, Bool.false_eq_true, if_false]

/-! Words of Selenium -/

theorem isMet_lookupName (how : Lookup) :
    requirement.isMet (how.pythonName ++ ", ") = false ∧
      requirement.isMet (how.javaName ++ "(") = false := by
  cases how <;>
    exact ⟨isMet_eq_false_of_silent (silent_append_ofList (by decide)),
      isMet_eq_false_of_silent (silent_append_ofList (by decide))⟩

/-- What Selenium looks an element up by shows its selector. -/
theorem isMet_seleniumArgument (python : Bool) (found : Lookup × String) :
    requirement.isMet (seleniumArgument python found) = requirement.isMet found.2 := by
  have blank : requirement.isMet "" = false :=
    isMet_eq_false_of_silent (silent_ofList (by decide))
  have bracket : requirement.isMet ")" = false :=
    isMet_eq_false_of_silent (silent_ofList (by decide))
  cases python with
  | true =>
      have woven : seleniumArgument true found =
          .ofList (weave .double (found.1.pythonName ++ ", ") [(found.2, "")]) := by
        rw [← String.toList_inj]
        simp [seleniumArgument, weave, quoteDouble]
      rw [woven, isMet_weave, (isMet_lookupName found.1).1]
      simp [blank]
  | false =>
      have woven : seleniumArgument false found =
          .ofList (weave .double (found.1.javaName ++ "(") [(found.2, ")")]) := by
        rw [← String.toList_inj]
        simp [seleniumArgument, weave, quoteDouble]
      rw [woven, isMet_weave, (isMet_lookupName found.1).2]
      simp [bracket]

theorem isMet_inPython {front : String} (closed : isClosed front = true) (how : Lookup) :
    requirement.isMet (how.inPython front) = requirement.isMet front := by
  have words : requirement.isMet "driver.find_element(" = false :=
    isMet_eq_false_of_silent (silent_ofList (by decide))
  rw [Lookup.inPython, String.append_assoc, String.append_assoc, isMet_closed_append closed,
    isMet_closed_append (judged_ofList (by decide)), (isMet_lookupName how).1, words,
    Bool.or_false, Bool.or_false]

theorem isMet_inJava {front : String} (closed : isClosed front = true) (how : Lookup) :
    requirement.isMet (how.inJava front) = requirement.isMet front := by
  have words : requirement.isMet "driver.findElement(" = false :=
    isMet_eq_false_of_silent (silent_ofList (by decide))
  rw [Lookup.inJava, String.append_assoc, String.append_assoc, isMet_closed_append closed,
    isMet_closed_append (judged_ofList (by decide)), (isMet_lookupName how).2, words,
    Bool.or_false, Bool.or_false]

theorem isMet_seleniumPython (deed : Deed .selenium)
    (other : (deed.statement (seleniumArgument true)).requirement? ≠ some requirement) :
    requirement.isMet (deed.statement (seleniumArgument true)).seleniumPython =
      (deed.statement (seleniumArgument true)).shown.any requirement.isMet := by
  have silent {words : String}
      (absent : isSilentBut (deed.statement (seleniumArgument true)).requirement? words = true) :
      requirement.isMet words = false := isMet_eq_false absent other
  rw [weaves_seleniumPython.isMet_line]
  rcases deed with _ | ⟨⟨_, _⟩, _⟩ | ⟨⟨_, _⟩⟩ | _ | ⟨_ | _ | _ | _ | _ | _, ⟨_, _⟩, _⟩ <;>
    simp only [statement, Statement.requirement?] at silent <;>
    simp (disch := first | (apply silent_ofList; decide) | (apply judged_ofList; decide)) only
      [silent, seleniumPython, statement, isMet_inPython, isMet_seleniumArgument, Statement.shown,
      ElementCheck.needsValue, ElementCheck.text, List.any_cons, List.any_nil, Bool.or_false,
      Bool.false_or, if_true, Bool.false_eq_true, if_false] <;>
    -- Where a value is expected, it stands in front of the element.
    exact Bool.or_comm _ _

/-- The check of the address asks for it by a name that begins like that of a visit. -/
theorem isMet_seleniumJava (deed : Deed .selenium)
    (other : (deed.statement (seleniumArgument false)).requirement? ≠ some requirement) :
    requirement.isMet (deed.statement (seleniumArgument false)).seleniumJava =
      (requirement == .navigation && (deed.statement (seleniumArgument false)).checksUrl ||
        (deed.statement (seleniumArgument false)).shown.any requirement.isMet) := by
  have silent {words : String}
      (absent : isSilentBut (deed.statement (seleniumArgument false)).requirement? words = true) :
      requirement.isMet words = false := isMet_eq_false absent other
  rw [weaves_seleniumJava.isMet_line]
  rcases deed with _ | ⟨⟨_, _⟩, _⟩ | ⟨⟨_, _⟩⟩ | _ | ⟨_ | _ | _ | _ | _ | _, ⟨_, _⟩, _⟩
  case checkUrl value =>
    have bracket : requirement.isMet "));" = false :=
      isMet_eq_false_of_silent (silent_ofList (by decide))
    have words : requirement.isMet "assertTrue(driver.getCurrentUrl().contains(" =
        (requirement == .navigation) := by
      cases requirement with
      | navigation | filling | clicking => rfl
      | assertion => exact absurd rfl other
    simp only [seleniumJava, statement, Statement.checksUrl, Statement.shown, words, bracket,
      List.any_cons, List.any_nil, Bool.or_false, Bool.and_true]
  all_goals
    simp only [statement, Statement.requirement?] at silent
    simp (disch := first | (apply silent_ofList; decide) | (apply judged_ofList; decide)) only
      [silent, seleniumJava, statement, isMet_inJava, isMet_seleniumArgument, Statement.checksUrl,
      Statement.shown, ElementCheck.needsValue, ElementCheck.text, List.any_cons, List.any_nil,
      Bool.or_false, Bool.false_or, if_true, Bool.false_eq_true, if_false, Bool.and_false]
  all_goals exact Bool.or_comm _ _

end Deed

/-! Lines of steps -/

/-- What a statement looks up. -/
def Statement.target? : Statement → Option String
  | fill target _ | click target | checkElement _ target _ => some target
  | _ => none

namespace Dialect

variable {requirement : Requirement}

/-- The line that checks the address in Java has the first words of a visit. -/
def imitates (dialect : Dialect) (requirement : Requirement) (statement : Statement) : Bool :=
  dialect == .seleniumJava && requirement == .navigation && statement.checksUrl

theorem isMet_line_of_deed (dialect : Dialect) (deed : Deed dialect.framework)
    (other : (deed.statement dialect.argument).requirement? ≠ some requirement) :
    requirement.isMet (dialect.line (deed.statement dialect.argument)) =
      (dialect.imitates requirement (deed.statement dialect.argument) ||
        (deed.statement dialect.argument).shown.any requirement.isMet) := by
  have usual (plain : dialect ≠ .seleniumJava) :
      dialect.imitates requirement (deed.statement dialect.argument) = false := by
    rw [imitates, beq_false_of_ne plain, Bool.false_and, Bool.false_and]
  cases dialect with
  | playwrightTypeScript | playwrightJavaScript =>
      rw [usual nofun]
      exact deed.isMet_playwrightScript other
  | playwrightPython =>
      rw [usual nofun]
      exact deed.isMet_playwrightPython other
  | seleniumPython =>
      rw [usual nofun]
      exact deed.isMet_seleniumPython other
  | seleniumJava => exact deed.isMet_seleniumJava other
  | cypressTypeScript | cypressJavaScript =>
      rw [usual nofun]
      exact deed.isMet_cypress other

/-- A line meets no other requirement than its own, unless it imitates one or a text that it shows
meets one. -/
theorem isMet_line (dialect : Dialect) {statement : Statement}
    (handled : ∀ target ∈ statement.target?, ∃ handle, target = dialect.argument handle)
    (other : statement.requirement? ≠ some requirement) :
    requirement.isMet (dialect.line statement) =
      (dialect.imitates requirement statement || statement.shown.any requirement.isMet) := by
  cases statement with
  | note text =>
      have bare : dialect.imitates requirement (.note text) = false := by
        simp [imitates, Statement.checksUrl]
      rw [bare, Statement.shown, List.any_cons, List.any_nil, Bool.or_false, Bool.false_or]
      cases dialect <;>
        exact isMet_front_append (front_ofList (by decide))
  | goto url => exact dialect.isMet_line_of_deed (.goto url) other
  | fill target text =>
      obtain ⟨handle, rfl⟩ := handled target rfl
      exact dialect.isMet_line_of_deed (.fill handle text) other
  | click target =>
      obtain ⟨handle, rfl⟩ := handled target rfl
      exact dialect.isMet_line_of_deed (.click handle) other
  | checkUrl value => exact dialect.isMet_line_of_deed (.checkUrl value) other
  | checkElement check target value =>
      obtain ⟨handle, rfl⟩ := handled target rfl
      cases check with
      | containsText =>
          exact dialect.isMet_line_of_deed (.checkElement .containsText handle value) other
      | exactText => exact dialect.isMet_line_of_deed (.checkElement .exactText handle value) other
      | hasValue => exact dialect.isMet_line_of_deed (.checkElement .hasValue handle value) other
      | visible =>
          rw [dialect.line_checkElement_of_free rfl _ value ""]
          exact dialect.isMet_line_of_deed (.checkElement .visible handle ()) other
      | isEnabled =>
          rw [dialect.line_checkElement_of_free rfl _ value ""]
          exact dialect.isMet_line_of_deed (.checkElement .isEnabled handle ()) other
      | isDisabled =>
          rw [dialect.line_checkElement_of_free rfl _ value ""]
          exact dialect.isMet_line_of_deed (.checkElement .isDisabled handle ()) other

theorem exists_argument (dialect : Dialect) (user : String) (locator : Option Locator) :
    ∃ handle, dialect.target user locator = dialect.argument handle := by
  cases dialect with
  | seleniumPython | seleniumJava =>
      cases locator with
      | none => exact ⟨(.css, _), rfl⟩
      | some locator =>
          simp only [target, framework, Option.map_some, Option.getD_some, Locator.selenium]
          split <;> exact ⟨_, rfl⟩
  | _ => exact ⟨_, rfl⟩

theorem exists_argument_of_statement (dialect : Dialect) (base : String) (step : Step) :
    ∀ target ∈ (dialect.statement base step).target?,
      ∃ handle, target = dialect.argument handle := by
  intro target found
  revert found
  rw [statement]
  cases step.kind? with
  | none =>
      intro found
      cases found
  | some action =>
      cases action with
      | goto =>
          dsimp only
          split <;> intro found <;> cases found
      | fill | click => exact fun found => Option.some.inj found ▸ dialect.exists_argument _ _
      | check =>
          dsimp only
          split
          · rename_i assertion _
            rw [assertionStatement]
            split <;> intro found
            · cases found
            · exact Option.some.inj found ▸ dialect.exists_argument _ _
            · cases found
          · intro found
            cases found

/-! Lines of steps -/

theorem isMet_indent_append (dialect : Dialect) (text : String) :
    requirement.isMet (dialect.indent ++ text) = requirement.isMet text := by
  cases dialect <;> exact isMet_front_append (front_ofList (by decide))

theorem isMet_comment_append (dialect : Dialect) (text : String) :
    requirement.isMet (dialect.comment ++ text) = requirement.isMet text := by
  cases dialect <;> exact isMet_front_append (front_ofList (by decide))

/-- The lines of a step show its action and the texts of its statement. -/
theorem isMet_stepLines (dialect : Dialect) (base : String) (number : Nat) (step : Step)
    (other : (dialect.statement base step).requirement? ≠ some requirement) :
    (dialect.stepLines dialect.defaults base number step).any requirement.isMet =
      (dialect.imitates requirement (dialect.statement base step) ||
        (step.action :: (dialect.statement base step).shown).any requirement.isMet) := by
  have comment : requirement.isMet (dialect.indent ++ dialect.comment ++ " Step " ++
      toString number ++ ": " ++ step.action) = requirement.isMet step.action := by
    simp only [String.append_assoc]
    rw [isMet_indent_append, isMet_comment_append,
      isMet_front_append (front_ofList (by decide)),
      isMet_append_separator_append (judged_ofList (by decide)),
      isMet_eq_false_of_isNumeral (Number.isNumeral_toString_nat number), Bool.false_or]
  have line :
      requirement.isMet (dialect.indent ++ dialect.line (dialect.statement base step)) = _ :=
    (isMet_indent_append dialect _).trans
      (isMet_line dialect (dialect.exists_argument_of_statement base step) other)
  simp only [stepLines, defaults, if_true, Bool.false_eq_true, if_false, List.append_nil,
    List.any_append, List.any_cons, List.any_nil, Bool.or_false, comment, line]
  exact Bool.or_left_comm _ _ _

end Dialect

end PlainScript
