/-
Code is read line by line: literals have no line feed, so a line of code has one only from the
few texts of a case that it takes as they are.
-/

import PlainScript.Proofs.Render.Timeout
import PlainScript.Proofs.Text.Caseless
import PlainScript.Proofs.Text.Feed

namespace PlainScript

open Text

/-! Texts that code takes as they are -/

/-- The texts of a heading that stand in code unquoted have no line feed. -/
structure Heading.IsUnbroken (heading : Heading) : Prop where
  name : IsOneLine heading.name
  baseUrl : IsOneLine heading.baseUrl
  tags : ∀ tag ∈ heading.tags, IsOneLine tag

/-- The texts of a step that stand in code unquoted have no line feed. -/
structure Step.IsUnbroken (step : Step) : Prop where
  action : IsOneLine step.action
  type : ∀ assertion ∈ step.assertion, IsOneLine assertion.type

/-- A class name has a line feed only from the name that it is made of. -/
theorem Name.isOneLine_camel {name : String} (oneLine : IsOneLine name) :
    IsOneLine (Name.camel name) := by
  have caseless := isCaseless_separators '\n' (by simp)
  have parts : '\n' ∉ capitalizedParts name.toList := by
    rw [capitalizedParts, List.mem_flatMap]
    rintro ⟨part, member, inside⟩
    exact Chars.notMem_capitalize caseless
      (fun inPart => oneLine ((Chars.infix_of_mem_splitAt member).subset inPart)) inside
  rw [IsOneLine, camel, String.toList_ofList, camelChars]
  split
  · rw [List.mem_append, not_or]
    exact ⟨isOneLine_ofList (by decide), parts⟩
  · exact parts

theorem Heading.isOneLine_title {heading : Heading} (unbroken : heading.IsUnbroken) :
    IsOneLine heading.title := by
  rw [title]
  split
  · exact unbroken.name
  · exact isOneLine_oneLine _

namespace Dialect

variable {dialect : Dialect} {options : RenderOptions} {heading : Heading} {step : Step}
  {timeout : String}

/-! Every line is on one line -/

/-- The texts that a statement is written with as they are; arguments for Selenium are made
literals before. -/
def bareTexts (dialect : Dialect) : Statement → List String
  | .note text => [text]
  | .fill target _ | .click target | .checkElement _ target _ =>
      if dialect.framework = .selenium then [target] else []
  | .goto _ | .checkUrl _ => []

/-- A statement is on one line if the texts are that are written as they are. -/
theorem isOneLine_line {statement : Statement}
    (bare : ∀ text ∈ dialect.bareTexts statement, IsOneLine text) :
    IsOneLine (dialect.line statement) := by
  cases statement with
  | checkElement check target value =>
      cases check <;> cases dialect <;>
        simp only [bareTexts, framework, reduceCtorEq, if_true, if_false, List.forall_mem_singleton,
          List.not_mem_nil, IsEmpty.forall_iff, implies_true] at bare <;>
        delta line Statement.playwrightScript Statement.playwrightPython Statement.seleniumPython
          Statement.seleniumJava Statement.cypress ElementCheck.playwrightScript
          ElementCheck.playwrightPython ElementCheck.seleniumPython ElementCheck.seleniumJava
          ElementCheck.cypress <;>
        dsimp only <;>
        simp only [isOneLine_append_iff, isOneLine_quote, isOneLine_quoteDouble, bare,
          and_true] <;>
        simp [IsOneLine]
  | _ =>
      cases dialect <;>
        simp only [bareTexts, framework, reduceCtorEq, if_true, if_false, List.forall_mem_singleton,
          List.not_mem_nil, IsEmpty.forall_iff, implies_true] at bare <;>
        delta line Statement.playwrightScript Statement.playwrightPython Statement.seleniumPython
          Statement.seleniumJava Statement.cypress <;>
        dsimp only <;>
        simp only [isOneLine_append_iff, isOneLine_quote, isOneLine_quoteDouble, bare,
          and_true] <;>
        simp [IsOneLine]

theorem isOneLine_seleniumArgument (python : Bool) (found : Lookup × String) :
    IsOneLine (seleniumArgument python found) := by
  have python_name : IsOneLine found.1.pythonName := by
    cases found.1 <;> simp [Lookup.pythonName, IsOneLine]
  have java_name : IsOneLine found.1.javaName := by
    cases found.1 <;> simp [Lookup.javaName, IsOneLine]
  rw [seleniumArgument]
  split <;>
    simp only [isOneLine_append_iff, isOneLine_quoteDouble, python_name, java_name, and_true,
      true_and] <;>
    simp [IsOneLine]

theorem isOneLine_selenium (python : Bool) (locator : Locator) :
    IsOneLine (locator.selenium python) := by
  unfold Locator.selenium
  split <;> exact isOneLine_seleniumArgument _ _

/-- Selenium finds elements by literals. -/
theorem isOneLine_target (selenium : dialect.framework = .selenium) (user : String)
    (locator : Option Locator) : IsOneLine (dialect.target user locator) := by
  rw [target, selenium]
  cases locator with
  | none => exact isOneLine_seleniumArgument _ _
  | some locator => exact isOneLine_selenium _ locator

theorem isOneLine_of_mem_target (user : String) (locator : Option Locator) :
    ∀ text ∈ if dialect.framework = .selenium then [dialect.target user locator] else [],
      IsOneLine text := by
  split
  · rename_i selenium
    rw [List.forall_mem_singleton]
    exact isOneLine_target selenium user locator
  · exact List.forall_mem_nil _

/-- What an unbroken step has written as it is, is on one line. -/
theorem isOneLine_of_mem_bareTexts (unbroken : step.IsUnbroken) (base : String) :
    ∀ text ∈ dialect.bareTexts (dialect.statement base step), IsOneLine text := by
  rw [statement]
  cases step.kind? with
  | none =>
      refine List.forall_mem_singleton.mpr ?_
      simpa [IsOneLine] using unbroken.action
  | some action =>
      cases action with
      | goto =>
          cases filled step.path with
          | none => exact List.forall_mem_singleton.mpr (isOneLine_ofList (by decide))
          | some path => exact List.forall_mem_nil _
      | fill => exact isOneLine_of_mem_target "fill" step.locator
      | click => exact isOneLine_of_mem_target "click" step.locator
      | check =>
          cases given : step.assertion with
          | none => exact List.forall_mem_singleton.mpr (isOneLine_ofList (by decide))
          | some assertion =>
              dsimp only [assertionStatement]
              cases assertion.kind? with
              | none =>
                  refine List.forall_mem_singleton.mpr ?_
                  simpa [IsOneLine] using unbroken.type assertion given
              | some kind =>
                  cases kind with
                  | urlContains => exact List.forall_mem_nil _
                  | element check => exact isOneLine_of_mem_target "assertion" assertion.locator

theorem isOneLine_screenshot (name : String) : IsOneLine (dialect.screenshot name) := by
  cases dialect <;>
    delta screenshot <;>
    dsimp only <;>
    simp only [isOneLine_append_iff, isOneLine_quote, isOneLine_quoteDouble, and_true] <;>
    simp [IsOneLine]

theorem isOneLine_comment (dialect : Dialect) : IsOneLine dialect.comment := by
  cases dialect <;> simp [comment, IsOneLine]

theorem isOneLine_indent (dialect : Dialect) : IsOneLine dialect.indent := by
  cases dialect <;> simp [indent, IsOneLine]

theorem isOneLine_header (dialect : Dialect) (options : RenderOptions)
    (unbroken : heading.IsUnbroken) :
    ∀ line ∈ dialect.header options heading, IsOneLine line := by
  have tags : IsOneLine (", ".intercalate heading.tags) :=
    isOneLine_intercalate (by simp [IsOneLine]) unbroken.tags
  have title := Heading.isOneLine_title unbroken
  have mark := isOneLine_comment dialect
  rw [header]
  split
  · rw [List.forall_mem_cons, List.forall_mem_cons]
    refine ⟨?_, ?_, ?_⟩
    · simpa [mark, title] using isOneLine_ofList (by decide)
    · simpa [mark, unbroken.baseUrl] using isOneLine_ofList (by decide)
    · split
      · exact List.forall_mem_nil _
      · simpa [mark, tags] using isOneLine_ofList (by decide)
  · exact List.forall_mem_nil _

theorem isOneLine_playwrightScriptPrelude {firstLine signatureEnd : String} {header : List String}
    (first : IsOneLine firstLine) (last : IsOneLine signatureEnd)
    (comments : ∀ line ∈ header, IsOneLine line) (told : IsOneLine timeout) :
    ∀ line ∈ playwrightScriptPrelude firstLine signatureEnd options heading header timeout,
      IsOneLine line := by
  simp only [playwrightScriptPrelude, List.forall_mem_append, List.forall_mem_cons]
  refine ⟨⟨⟨⟨⟨first, isOneLine_ofList (by decide), List.forall_mem_nil _⟩, comments⟩,
    isOneLine_ofList (by decide), ?_, List.forall_mem_nil _⟩, ?_⟩, ?_, isOneLine_ofList (by decide),
    List.forall_mem_nil _⟩
  · simp only [isOneLine_append_iff, isOneLine_quote, last, and_true]
    simp [IsOneLine]
  · split
    · simpa using isOneLine_ofList (by decide)
    · exact List.forall_mem_nil _
  · simp only [isOneLine_append_iff, told, and_true]
    simp [IsOneLine]

/-- Everything before the steps is on one line each. -/
theorem isOneLine_prelude (unbroken : heading.IsUnbroken) (told : IsOneLine timeout) :
    ∀ line ∈ dialect.prelude options heading timeout, IsOneLine line := by
  have comments := isOneLine_header dialect options unbroken
  have name := unbroken.name
  have camel := Name.isOneLine_camel unbroken.name
  cases dialect with
  | playwrightTypeScript | playwrightJavaScript =>
      exact isOneLine_playwrightScriptPrelude (isOneLine_ofList (by decide))
        (isOneLine_ofList (by decide)) comments told
  | playwrightPython =>
      delta prelude
      dsimp only
      simp only [List.forall_mem_append, List.forall_mem_cons, List.not_mem_nil,
        IsEmpty.forall_iff, implies_true, isOneLine_append_iff, told, name, and_true]
      and_intros <;> try (with_reducible apply isOneLine_ofList; decide)
      exact comments
  | seleniumPython =>
      delta prelude
      dsimp only
      simp only [List.forall_mem_append, List.forall_mem_cons, List.not_mem_nil,
        IsEmpty.forall_iff, implies_true, isOneLine_append_iff, className, told, name, camel,
        and_true, true_and]
      and_intros <;> try (with_reducible apply isOneLine_ofList; decide)
      exact comments
  | seleniumJava =>
      delta prelude
      dsimp only
      simp only [List.forall_mem_append, List.forall_mem_cons, List.not_mem_nil,
        IsEmpty.forall_iff, implies_true, isOneLine_append_iff, className, told, camel, and_true,
        true_and]
      and_intros <;> try (with_reducible apply isOneLine_ofList; decide)
      exact comments
  | _ =>
      delta prelude
      dsimp only
      rw [List.forall_mem_append, List.forall_mem_append, List.forall_mem_append]
      refine ⟨⟨⟨?_, comments⟩, ?_⟩, ?_⟩
      · split <;> simp [IsOneLine]
      · split <;> simp [IsOneLine]
      · simp only [List.forall_mem_cons, isOneLine_append_iff, isOneLine_quote, told, and_true]
        simp [IsOneLine]

theorem isOneLine_closing (dialect : Dialect) : ∀ line ∈ dialect.closing, IsOneLine line := by
  cases dialect <;> simp [closing, IsOneLine]

/-- Code begins with an import, a constant, a comment or a description. -/
theorem exists_prelude_eq_cons (dialect : Dialect) (options : RenderOptions) (heading : Heading)
    (timeout : String) : ∃ line rest, dialect.prelude options heading timeout = line :: rest ∧
      ∃ c ∈ ['i', 'c', 'f', '/', 'd'], line.toList.head? = some c := by
  cases dialect with
  | cypressJavaScript =>
      rw [prelude, header]
      cases options.includeComments with
      | true => exact ⟨_, _, rfl, '/', by simp, by simp [comment]⟩
      | false => exact ⟨_, _, rfl, 'd', by simp, by simp⟩
  | playwrightTypeScript | seleniumPython | seleniumJava =>
      exact ⟨_, _, rfl, 'i', by simp, by simp⟩
  | playwrightJavaScript => exact ⟨_, _, rfl, 'c', by simp, by simp⟩
  | playwrightPython => exact ⟨_, _, rfl, 'f', by simp, by simp⟩
  | cypressTypeScript => exact ⟨_, _, rfl, '/', by simp, by simp⟩

theorem lines_ne_nil (dialect : Dialect) (options : RenderOptions) (case : TestCase)
    (timeout : String) : dialect.lines options case timeout ≠ [] := by
  obtain ⟨line, rest, same, -⟩ := exists_prelude_eq_cons dialect options case.heading timeout
  simp [lines, same]

/-! The lines of steps -/

/-- The comment that announces a step. -/
def stepComment (dialect : Dialect) (number : Nat) (step : Step) : String :=
  dialect.indent ++ dialect.comment ++ " Step " ++ toString number ++ ": " ++ step.action

/-- The line that carries a step out. -/
def stepLine (dialect : Dialect) (base : String) (step : Step) : String :=
  dialect.indent ++ dialect.line (dialect.statement base step)

/-- The line that takes a picture of the page after a step. -/
def stepPicture (dialect : Dialect) (number : Nat) (step : Step) : String :=
  dialect.indent ++ dialect.screenshot ("step-" ++ toString number ++ "-" ++ step.action)

theorem stepLines_eq (dialect : Dialect) (options : RenderOptions) (base : String) (number : Nat)
    (step : Step) :
    dialect.stepLines options base number step =
      (if options.includeComments then [dialect.stepComment number step] else []) ++
        [dialect.stepLine base step] ++
        (if options.includeScreenshots then [dialect.stepPicture number step] else []) :=
  rfl

/-- The lines of an unbroken step are on one line each. -/
theorem isOneLine_stepLines (unbroken : step.IsUnbroken) (base : String) (number : Nat) :
    ∀ line ∈ dialect.stepLines options base number step, IsOneLine line := by
  have indent := isOneLine_indent dialect
  have mark := isOneLine_comment dialect
  have counted := isOneLine_of_isNumeral (Number.isNumeral_toString_nat number)
  rw [stepLines_eq, List.forall_mem_append, List.forall_mem_append, List.forall_mem_singleton]
  refine ⟨⟨?_, ?_⟩, ?_⟩
  · split
    · simp only [List.forall_mem_singleton, stepComment, isOneLine_append_iff, indent, mark,
        counted, unbroken.action, and_true]
      simp [IsOneLine]
    · exact List.forall_mem_nil _
  · rw [stepLine, isOneLine_append_iff]
    exact ⟨indent, isOneLine_line (isOneLine_of_mem_bareTexts unbroken base)⟩
  · split
    · rw [List.forall_mem_singleton, stepPicture, isOneLine_append_iff]
      exact ⟨indent, isOneLine_screenshot _⟩
    · exact List.forall_mem_nil _

/-- A timeout that is told is on one line. -/
theorem isOneLine_of_timeoutText {milliseconds : Int}
    (told : dialect.timeoutText milliseconds = .ok timeout) : IsOneLine timeout :=
  isOneLine_of_isNumeral (isNumeral_of_timeoutText told)

/-- The code of an unbroken case is read line by line. -/
theorem feedLines_code {case : TestCase} (unbroken : case.heading.IsUnbroken)
    (steps : ∀ step ∈ case.steps, step.IsUnbroken) (told : IsOneLine timeout) :
    feedLines (dialect.code options case timeout) =
      dialect.lines options case timeout ++ [""] := by
  have oneLine : ∀ line ∈ dialect.lines options case timeout, IsOneLine line := by
    rw [lines, List.forall_mem_append, List.forall_mem_append]
    refine ⟨⟨isOneLine_prelude unbroken told, ?_⟩, isOneLine_closing dialect⟩
    intro line member
    obtain ⟨⟨step, number⟩, numbered, inStep⟩ := List.mem_flatMap.mp member
    exact isOneLine_stepLines (steps step (List.fst_mem_of_mem_zipIdx numbered)) _ number line
      inStep
  rw [code, feedLines_intercalate (lines_ne_nil dialect options case timeout)]
  congr 1
  calc (dialect.lines options case timeout).flatMap feedLines
      = (dialect.lines options case timeout).flatMap fun line => [line] :=
        List.flatMap_congr fun line member => feedLines_eq_singleton (oneLine line member)
    _ = dialect.lines options case timeout := List.flatMap_singleton' _

end Dialect

end PlainScript
