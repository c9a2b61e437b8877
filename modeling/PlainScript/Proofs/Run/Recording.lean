/-
Pages that keep a record of the operations asked of them and are the given page otherwise. What a
step asks of a page is the front part of a script that the step alone determines.
-/

import PlainScript.Proofs.Computation
import PlainScript.Run.Action

namespace PlainScript

/-- An operation that a page is asked for. -/
inductive PageCall where
  | setTimeout (timeout : Int)
  | goto (url : String)
  | count (selector : String)
  | fill (selector text : String)
  | click (selector : String)
  | innerText (selector : String)
  | inputValue (selector : String)
  | isEnabled (selector : String)
  | waitVisible (selector : String) (timeout : Int)
  | waitForUrl (timeout : Int)
  | url
  | screenshot (path : String)
  deriving DecidableEq, Repr

variable {σ ε α β : Type}

/-- The state of a page together with the operations that it was asked for so far. -/
abbrev Recorded (σ : Type) := σ × List PageCall

/-- The operation, which is recorded whether or not it fails. -/
def PageAct.recorded (act : PageAct σ α) (call : PageCall) : PageAct (Recorded σ) α :=
  ExceptT.mk fun record =>
    let (result, state) := act.run.run record.1
    (result, state, record.2 ++ [call])

/-- The page with a record of the operations that it is asked for. -/
def Page.recorded (page : Page σ) : Page (Recorded σ) where
  setTimeout timeout := (page.setTimeout timeout).recorded (.setTimeout timeout)
  goto url := (page.goto url).recorded (.goto url)
  count selector := (page.count selector).recorded (.count selector)
  fill selector text := (page.fill selector text).recorded (.fill selector text)
  click selector := (page.click selector).recorded (.click selector)
  innerText selector := (page.innerText selector).recorded (.innerText selector)
  inputValue selector := (page.inputValue selector).recorded (.inputValue selector)
  isEnabled selector := (page.isEnabled selector).recorded (.isEnabled selector)
  waitVisible selector timeout :=
    (page.waitVisible selector timeout).recorded (.waitVisible selector timeout)
  waitForUrl test timeout := (page.waitForUrl test timeout).recorded (.waitForUrl timeout)
  url := page.url.recorded .url
  screenshot path := (page.screenshot path).recorded (.screenshot path)

/-! Parts of steps on a recorded page -/

/-- Part of a step on a recorded page comes to the same end in the same state as on the page
itself, and asks for a front part of the script. -/
def Begins (script : List PageCall) (recorded : StepAct (Recorded σ) α) (plain : StepAct σ α) :
    Prop :=
  ∀ state ended after, plain.run.run state = (ended, after) → ∃ calls, calls <+: script ∧
    ∀ before, recorded.run.run (state, before) = (ended, after, before ++ calls)

/-- It asks for the operation alone. -/
def Asks (call : PageCall) (recorded : StepAct (Recorded σ) α) (plain : StepAct σ α) : Prop :=
  ∀ state ended after, plain.run.run state = (ended, after) →
    ∀ before, recorded.run.run (state, before) = (ended, after, before ++ [call])

theorem asks_onPage (call : PageCall) (act : PageAct σ α) :
    Asks call (Run.onPage (act.recorded call)) (Run.onPage act) := by
  intro state ended after done before
  change ((act.run.run state).1.mapError _, (act.run.run state).2) = _ at done
  change ((act.run.run state).1.mapError _, (act.run.run state).2, before ++ [call]) = _
  rw [Prod.mk.injEq] at done
  rw [done.1, done.2]

theorem Asks.begins {call : PageCall} {recorded : StepAct (Recorded σ) α}
    {plain : StepAct σ α} (asks : Asks call recorded plain) : Begins [call] recorded plain :=
  fun state ended after done => ⟨[call], List.prefix_rfl, asks state ended after done⟩

namespace Begins

variable {script : List PageCall}

theorem throw (script : List PageCall) (ended : StepEnd) :
    Begins script (throw ended : StepAct (Recorded σ) α) (throw ended) := by
  rintro state _ _ ⟨⟩
  exact ⟨[], List.nil_prefix, fun before => by rw [List.append_nil]; rfl⟩

theorem pure (script : List PageCall) (value : α) :
    Begins script (pure value : StepAct (Recorded σ) α) (pure value) := by
  rintro state _ _ ⟨⟩
  exact ⟨[], List.nil_prefix, fun before => by rw [List.append_nil]; rfl⟩

/-- An operation, and what is done with its result. -/
theorem bind {call : PageCall} {first : StepAct (Recorded σ) α} {first' : StepAct σ α}
    {next : α → StepAct (Recorded σ) β} {next' : α → StepAct σ β}
    (asks : Asks call first first') (begins : ∀ value, Begins script (next value) (next' value)) :
    Begins (call :: script) (first >>= next) (first' >>= next') := by
  intro state ended after done
  rcases run : first'.run.run state with ⟨cause | value, middle⟩
  · rw [run_bind_of_error run] at done
    cases done
    refine ⟨[call], List.prefix_append [call] script, fun before => ?_⟩
    exact run_bind_of_error (asks _ _ _ run before) next
  · rw [run_bind_of_ok run] at done
    obtain ⟨calls, front, same⟩ := begins value _ _ _ done
    refine ⟨call :: calls, List.cons_prefix_cons.mpr ⟨rfl, front⟩, fun before => ?_⟩
    rw [run_bind_of_ok (asks _ _ _ run before), same, List.append_assoc, List.singleton_append]

/-- An operation, and what is done if it fails. -/
theorem tryCatch {call : PageCall} {first : StepAct (Recorded σ) α} {first' : StepAct σ α}
    {handle : StepEnd → StepAct (Recorded σ) α} {handle' : StepEnd → StepAct σ α}
    (asks : Asks call first first') (begins : ∀ cause, Begins script (handle cause) (handle' cause)) :
    Begins (call :: script) (tryCatch first handle) (tryCatch first' handle') := by
  intro state ended after done
  rcases run : first'.run.run state with ⟨cause | value, middle⟩
  · rw [run_tryCatch_of_error run] at done
    obtain ⟨calls, front, same⟩ := begins cause _ _ _ done
    refine ⟨call :: calls, List.cons_prefix_cons.mpr ⟨rfl, front⟩, fun before => ?_⟩
    rw [run_tryCatch_of_error (asks _ _ _ run before), same, List.append_assoc,
      List.singleton_append]
  · rw [run_tryCatch_of_ok run] at done
    cases done
    exact ⟨[call], List.prefix_append [call] script, fun before =>
      run_tryCatch_of_ok (asks _ _ _ run before) handle⟩

end Begins

/-! What steps ask for -/

namespace Run

/-- What is asked for once the element of a locator is known to be there. -/
def locatedCalls (locator : Option Locator) (later : String → List PageCall) : List PageCall :=
  match selectorOf locator with
  | .ok selector => .count selector :: later selector
  | .error _ => []

/-- What a check of an element asks for. -/
def checkCalls (selector : String) : ElementCheck → List PageCall
  | .containsText | .exactText => [.innerText selector]
  | .hasValue => [.inputValue selector]
  | .isEnabled | .isDisabled => [.isEnabled selector]
  | .visible => []

/-- What an assertion asks for; the address is asked for only after waiting in vain. -/
def assertionCalls (timeout : Int) (assertion : Assertion) : List PageCall :=
  match assertion.kind? with
  | some .urlContains => if assertion.value.isSome then [.waitForUrl timeout, .url] else []
  | some (.element .visible) =>
      match selectorOf assertion.locator with
      | .ok selector => [.waitVisible selector timeout]
      | .error _ => []
  | some (.element check) => locatedCalls assertion.locator fun selector => checkCalls selector check
  | none => locatedCalls assertion.locator fun _ => []

/-- What a step asks for, if it gets to its end. -/
def stepCalls (timeout : Int) (baseUrl : String) (step : Step) : List PageCall :=
  match step.kind? with
  | some .goto => [.goto (visitedUrl baseUrl ((filled step.path).getD "/"))]
  | some .fill =>
      locatedCalls step.locator fun selector => [.fill selector (step.text.getD "")]
  | some .click => locatedCalls step.locator fun selector => [.click selector]
  | some .check => step.assertion.elim [] (assertionCalls timeout)
  | none => []

variable (page : Page σ) (timeout : Int)

/-- Looking an element up, and what is done with it. -/
theorem begins_locate_bind {locator : Option Locator} {script : String → List PageCall}
    {next : String → StepAct (Recorded σ) β} {next' : String → StepAct σ β}
    (begins : ∀ selector, Begins (script selector) (next selector) (next' selector)) :
    Begins (locatedCalls locator script) (locate page.recorded locator >>= next)
      (locate page locator >>= next') := by
  rw [locatedCalls]
  cases resolved : selectorOf locator with
  | error fault =>
      simp only [locate, resolved]
      exact .throw [] _
  | ok selector =>
      simp only [locate, resolved, bind_assoc]
      refine .bind (asks_onPage _ _) fun found => ?_
      split
      · exact .throw _ _
      · rw [pure_bind, pure_bind]
        exact begins selector

theorem begins_checkElement (check : ElementCheck) (selector : String) (expected : Option String) :
    Begins (checkCalls selector check) (checkElement page.recorded check selector expected)
      (checkElement page check selector expected) := by
  cases check with
  | containsText =>
      refine .bind (asks_onPage _ _) fun actual => ?_
      cases expected with
      | none => exact .throw _ _
      | some expected =>
          dsimp only
          split
          · exact .pure _ _
          · exact .throw _ _
  | exactText | hasValue =>
      refine .bind (asks_onPage _ _) fun actual => ?_
      extract_lets
      split
      · exact .pure _ _
      · exact .throw _ _
  | isEnabled | isDisabled =>
      refine .bind (asks_onPage _ _) fun enabled => ?_
      cases enabled
      · first | exact .throw _ _ | exact .pure _ _
      · first | exact .throw _ _ | exact .pure _ _
  | visible => exact .pure _ _

theorem begins_checkUrl (expected : String) :
    Begins [.waitForUrl timeout, .url] (checkUrl page.recorded timeout expected)
      (checkUrl page timeout expected) := by
  refine .tryCatch (asks_onPage _ _) fun ended => ?_
  split
  · exact .bind (asks_onPage _ _) fun actual => .throw [] _
  · exact .throw _ _

theorem begins_check (assertion : Assertion) :
    Begins (assertionCalls timeout assertion) (check page.recorded timeout assertion)
      (check page timeout assertion) := by
  rw [assertionCalls, check, check]
  cases assertion.kind? with
  | none => exact begins_locate_bind page fun selector => .throw _ _
  | some kind =>
      cases kind with
      | urlContains =>
          cases assertion.value with
          | none => exact .throw _ _
          | some expected => exact begins_checkUrl page timeout expected
      | element kind =>
          cases kind with
          | visible =>
              dsimp only
              cases selectorOf assertion.locator with
              | error fault => exact .throw _ _
              | ok selector => exact (asks_onPage _ _).begins
          | _ =>
              exact begins_locate_bind page fun selector =>
                begins_checkElement page _ selector assertion.value

/-- A step on a recorded page comes to the same end as on the page itself, and asks for no more than
what it says. -/
theorem begins_act (baseUrl : String) (step : Step) :
    Begins (stepCalls timeout baseUrl step) (act page.recorded timeout baseUrl step)
      (act page timeout baseUrl step) := by
  rw [stepCalls, act, act]
  cases step.kind? with
  | none => exact .throw _ _
  | some action =>
      cases action with
      | goto => exact (asks_onPage _ _).begins
      | fill | click => exact begins_locate_bind page fun selector => (asks_onPage _ _).begins
      | check =>
          cases step.assertion with
          | none => exact .throw _ _
          | some assertion => exact begins_check page timeout assertion

end Run

end PlainScript
