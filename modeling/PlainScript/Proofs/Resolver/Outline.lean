/-
The outline of a resolved case: a visit, the fields to fill in, a button and a check, in this
order. With tables that can be read and a catalog of texts every instruction is resolved to one.
-/

import PlainScript.Proofs.Catalog.Find
import PlainScript.Proofs.Regex.Capture
import PlainScript.Proofs.Resolver.Credentials

namespace PlainScript

namespace Resolver

open Regex

/-! Tables that can be read -/

/-- The cue is a regular expression. -/
def Cue.IsReadable (cue : Cue) : Prop := ∃ regex, cue = .ok regex

/-- Every cue of the tables is a regular expression. -/
structure Tables.AreReadable (tables : Tables) : Prop where
  paths : ∀ rule ∈ tables.paths, rule.cue.IsReadable
  buttons : ∀ rule ∈ tables.buttons, rule.cue.IsReadable
  dashboard : tables.dashboardCue.IsReadable
  error : tables.errorCue.IsReadable
  success : tables.successCue.IsReadable
  credentials : tables.credentialsCue.IsReadable

/-- The usual tables can be read. -/
theorem Tables.areReadable_usual : ({} : Tables).AreReadable := by
  constructor <;> simp [Cue.IsReadable]

theorem Cue.IsReadable.yields {cue : Cue} (readable : cue.IsReadable) (text : String) :
    Yields (fun _ => True) (cue.occursIn text) := by
  obtain ⟨regex, rfl⟩ := readable
  exact ⟨regex.occursIn text, rfl, trivial⟩

theorem yields_lookup {rules : List Rule} (readable : ∀ rule ∈ rules, rule.cue.IsReadable)
    (text : String) : Yields (fun _ => True) (lookup rules text) := by
  induction rules with
  | nil => exact .pure trivial
  | cons rule rules ih =>
      rw [List.forall_mem_cons] at readable
      rw [lookup]
      refine (readable.1.yields text).bind fun occurs _ => ?_
      cases occurs with
      | true => exact .pure trivial
      | false => exact ih readable.2

variable {resolver : Resolver} {text : String} {values : Values} {locks : List Lock}

/-! Paths -/

theorem writtenPath?_ne_empty {path : String} (written : writtenPath? text = some path) :
    path ≠ "" := by
  rw [writtenPath?] at written
  split at written
  · rename_i found here
    obtain rfl := Option.some.inj written
    obtain ⟨whole, searched, captured⟩ := Option.bind_eq_some_iff.mp here
    obtain ⟨span, grouped, rfl⟩ := Option.map_eq_some_iff.mp captured
    have each : ∀ body chars, moves body = true → Heeds body chars → chars ≠ [] :=
      fun _ _ moves heeds => heeds.moved moves
    have read : span.chars ≠ [] := captured_of_search each (by decide) searched grouped
    simpa [Span.text] using read
  · obtain ⟨name, -, rfl⟩ := Option.map_eq_some_iff.mp written
    simp

theorem ne_empty_of_filled {content : Option String} {value : String}
    (given : filled content = some value) : value ≠ "" :=
  ((filled_eq_some_iff _ _).mp given).2

/-- The path is never empty. -/
theorem yields_path (readable : resolver.tables.AreReadable) (text : String) (values : Values)
    (locks : List Lock) : Yields (· ≠ "") (resolver.path text values locks) := by
  rw [path]
  split
  · rename_i given
    exact ⟨_, rfl, ne_empty_of_filled given⟩
  · rename_i locked
    exact ⟨_, rfl, ne_empty_of_filled locked⟩
  · rename_i written
    exact ⟨_, rfl, writtenPath?_ne_empty written⟩
  · refine (yields_lookup readable.paths text).map fun found _ => ?_
    cases known : filled found with
    | none => decide
    | some path => exact ne_empty_of_filled known

/-! Parts that are there or not -/

theorem yields_aboutLogin (readable : resolver.tables.AreReadable) (text : String)
    (values : Values) : Yields (fun _ => True) (resolver.aboutLogin text values) := by
  rw [aboutLogin]
  split
  · exact .pure trivial
  · exact readable.credentials.yields text

theorem yields_clickedButton? (readable : resolver.tables.AreReadable) (clicked : String) :
    Yields (fun _ => True) (clickedButton? resolver.tables clicked) := by
  rw [clickedButton?]
  refine (yields_lookup readable.buttons clicked).bind fun found _ => ?_
  split <;> exact .pure trivial

theorem yields_button? (readable : resolver.tables.AreReadable) (text : String)
    (values : Values) : Yields (fun _ => True) (resolver.button? text values) := by
  rw [button?]
  split
  · exact .pure trivial
  · exact yields_lookup readable.buttons text
  · rename_i clicked _ _
    refine (yields_clickedButton? readable clicked).bind fun found _ => ?_
    cases found with
    | some name => exact .pure trivial
    | none => exact yields_lookup readable.buttons text

/-- There is one click at most, on a button. -/
theorem yields_clickSteps (readable : resolver.tables.AreReadable) (text : String)
    (values : Values) :
    Yields (fun steps => ∃ button : Option (Option String),
        steps = button.toList.map fun name => .click (.role (some "button") name))
      (resolver.clickSteps text values) := by
  rw [clickSteps]
  split
  · exact (yields_button? readable text values).bind fun name _ => .pure ⟨some name, rfl⟩
  · exact .pure ⟨none, rfl⟩

theorem yields_cuedAssertion? (readable : resolver.tables.AreReadable) (text : String) :
    Yields (fun _ => True) (cuedAssertion? resolver.tables text) := by
  rw [cuedAssertion?]
  refine (readable.dashboard.yields text).bind fun dashboard _ => ?_
  cases dashboard with
  | true => exact .pure trivial
  | false =>
      refine (readable.error.yields text).bind fun error _ => ?_
      cases error with
      | true => exact .pure trivial
      | false =>
          refine (readable.success.yields text).bind fun success _ => ?_
          cases success with
          | true => exact .pure trivial
          | false =>
              simp only [Bool.false_eq_true, if_false]
              split <;> exact .pure trivial

theorem yields_assertion? (readable : resolver.tables.AreReadable) (text : String)
    (values : Values) (locks : List Lock) :
    Yields (fun _ => True) (resolver.assertion? text values locks) := by
  rw [assertion?]
  refine Yields.bind (P := fun _ => True) ?_ fun _ _ => .pure trivial
  rw [plainAssertion?]
  split
  · exact .pure trivial
  · exact .pure trivial
  · exact yields_cuedAssertion? readable text

/-! Outlines -/

/-- What the steps of a case are about, their places on the page apart. -/
structure Outline where
  path : String
  /-- User name and password. -/
  credentials : Option (String × String)
  email : Option String
  /-- The name of the button, which may be missing. -/
  button : Option (Option String)
  assertion : Option Assertion

namespace Outline

/-- The steps of an outline; `place` tells where a field is. -/
def steps (outline : Outline) (place : String → Locator) : List Step :=
  .goto outline.path ::
    (outline.credentials.toList.flatMap fun texts =>
        [.fill (place "Username") texts.1, .fill (place "Password") texts.2]) ++
    (outline.email.toList.map fun typed => .fill (place "Email") typed) ++
    (outline.button.toList.map fun name => .click (.role (some "button") name)) ++
    outline.assertion.toList.map Step.check

/-- The outline goes by the instruction: where its texts come from, and which of its parts are
there. -/
structure GoesBy (outline : Outline) (resolver : Resolver) (text : String) (values : Values)
    (locks : List Lock) : Prop where
  path : outline.path ≠ ""
  about : outline.credentials.isSome = true ↔
    resolver.aboutLogin text values = .ok true
  username : ∀ texts ∈ outline.credentials,
    resolver.Provides .username (givenUsername values locks) texts.1
  password : ∀ texts ∈ outline.credentials,
    resolver.Provides .password (givenPassword values locks) texts.2
  email : outline.email = filled values.email

variable {outline : Outline}

/-- What holds of a visit, of every filled field, of a click and of a check holds of all steps. -/
theorem forall₂_steps {R : Step → Step → Prop} {first second : String → Locator}
    (goto : ∀ path, R (.goto path) (.goto path))
    (fill : ∀ name typed, R (.fill (first name) typed) (.fill (second name) typed))
    (click : ∀ locator, R (.click locator) (.click locator))
    (check : ∀ assertion, R (.check assertion) (.check assertion)) (outline : Outline) :
    List.Forall₂ R (outline.steps first) (outline.steps second) := by
  obtain ⟨path, credentials, email, button, assertion⟩ := outline
  cases credentials <;> cases email <;> cases button <;> cases assertion <;>
    simp [steps, goto, fill, click, check]

end Outline

/-! Places -/

/-- Where the field with this label is: at the element that the catalog finds for it, or else at
its label. -/
inductive Places (resolver : Resolver) (name : String) : Locator → Prop
  | label (unknown : ∀ catalog ∈ resolver.catalog, catalog.find name none = .ok none) :
      Places resolver name (.label name)
  | element {catalog : Catalog} {locator : Locator} (given : resolver.catalog = some catalog)
      (found : catalog.find name none = .ok (some locator)) : Places resolver name locator

theorem refine_fill_label (catalog : Catalog) (name typed : String) (page : Option String) :
    catalog.refine (.fill (.label name) typed) page =
      (catalog.find name page).map fun found => .fill (found.getD (.label name)) typed := rfl

/-- With a catalog of texts the fields of an outline are placed, and nothing else changes. -/
theorem exists_refine_steps (textual : ∀ catalog ∈ resolver.catalog, catalog.IsTextual)
    (outline : Outline) :
    ∃ place : String → Locator, (∀ name, resolver.Places name (place name)) ∧
      resolver.refine (outline.steps .label) = .ok (outline.steps place) := by
  cases given : resolver.catalog with
  | none =>
      refine ⟨.label, fun name => .label (by simp [given]), ?_⟩
      rw [refine, given]
  | some catalog =>
      have placed (name : String) : ∃ locator, resolver.Places name locator ∧ ∀ typed,
          catalog.refine (.fill (.label name) typed) none = .ok (.fill locator typed) := by
        obtain ⟨found, looked, -⟩ := (textual catalog given).yields_find name none
        simp only [refine_fill_label, looked]
        cases found with
        | none => exact ⟨_, .label (by simpa [given] using looked), fun _ => rfl⟩
        | some locator => exact ⟨locator, .element given looked, fun _ => rfl⟩
      choose place places refined using placed
      refine ⟨place, places, ?_⟩
      rw [refine, given]
      refine Except.mapM_eq_ok_iff.mpr (Outline.forall₂_steps
        (R := fun step changed => catalog.refine step none = .ok changed) (fun _ => rfl) refined
        (fun _ => rfl) (fun _ => rfl) outline)

/-- Every text that is filled in is there. -/
theorem Outline.GoesBy.exists_typed {outline : Outline} {place : String → Locator}
    (goesBy : outline.GoesBy resolver text values locks) {step : Step}
    (member : step ∈ outline.steps place) (fills : step.kind? = some .fill) :
    ∃ typed, step.text = some typed ∧ typed ≠ "" := by
  simp only [Outline.steps, List.cons_append, List.mem_cons, List.mem_append, List.mem_flatMap,
    List.mem_map, Option.mem_toList, List.not_mem_nil, or_false] at member
  rcases member with rfl | ((⟨texts, given, rfl | rfl⟩ | ⟨typed, given, rfl⟩) | ⟨name, -, rfl⟩) |
    ⟨assertion, -, rfl⟩
  · cases fills
  · exact ⟨_, rfl, (goesBy.username texts given).ne_empty⟩
  · exact ⟨_, rfl, (goesBy.password texts given).ne_empty⟩
  · exact ⟨typed, rfl, ne_empty_of_filled (goesBy.email ▸ given)⟩
  · cases fills
  · cases fills

/-- Before the catalog is asked, fields are at their labels. -/
theorem exists_steps (readable : resolver.tables.AreReadable) (text : String) (values : Values)
    (locks : List Lock) :
    ∃ outline : Outline, outline.GoesBy resolver text values locks ∧
      resolver.steps text values locks = .ok (outline.steps .label) := by
  obtain ⟨path, pathMade, nonempty⟩ := yields_path readable text values locks
  obtain ⟨about, decided, -⟩ := yields_aboutLogin readable text values
  obtain ⟨clicks, clicksMade, button, rfl⟩ := yields_clickSteps readable text values
  obtain ⟨assertion, assertionMade, -⟩ := yields_assertion? readable text values locks
  let username := resolver.credentialText .username (givenUsername values locks)
  let password := resolver.credentialText .password (givenPassword values locks)
  refine ⟨⟨path, if about then some (username, password) else none, filled values.email, button,
    assertion⟩, ⟨nonempty, ?_, ?_, ?_, rfl⟩, ?_⟩
  · cases about <;> simp [decided]
  · cases about
    · exact nofun
    · rintro texts ⟨rfl⟩
      exact provides_credentialText resolver .username _
  · cases about
    · exact nofun
    · rintro texts ⟨rfl⟩
      exact provides_credentialText resolver .password _
  · rw [Resolver.steps, pathMade, credentialSteps_eq, decided, clicksMade, assertionMade]
    cases about <;> rfl

/-- Steps that are made and refined are those of a case. -/
theorem resolve_of_steps {description baseUrl : String} {values : Values} {locks : List Lock}
    {steps refined : List Step}
    (made : resolver.steps (Lock.strip description) values locks = .ok steps)
    (changed : resolver.refine steps = .ok refined) :
    resolver.resolve description values baseUrl locks =
      .ok ⟨heading description baseUrl, refined⟩ := by
  rw [resolve, made]
  change ((resolver.refine steps).mapError Fault.catalog >>= _) = _
  rw [changed]
  rfl

/-- Every instruction is resolved to a case with the steps of an outline, and the outline goes by
the instruction. -/
theorem exists_outline (readable : resolver.tables.AreReadable)
    (textual : ∀ catalog ∈ resolver.catalog, catalog.IsTextual) (description : String)
    (values : Values) (baseUrl : String) (locks : List Lock) :
    ∃ case outline place,
      resolver.resolve description values baseUrl locks = .ok case ∧
      case.steps = Outline.steps outline place ∧
      outline.GoesBy resolver (Lock.strip description) values locks ∧
      (∀ name, resolver.Places name (place name)) ∧
      ∀ step ∈ case.steps, step.kind? = some .fill →
        ∃ typed, step.text = some typed ∧ typed ≠ "" := by
  obtain ⟨outline, goesBy, made⟩ := exists_steps readable (Lock.strip description) values locks
  obtain ⟨place, places, refined⟩ := exists_refine_steps textual outline
  refine ⟨⟨heading description baseUrl, outline.steps place⟩, outline, place, ?_, rfl, goesBy,
    places, fun step member fills => goesBy.exists_typed member fills⟩
  rw [resolve, made]
  change ((resolver.refine (outline.steps .label)).mapError Fault.catalog >>= _) = _
  rw [refined]
  rfl

/-- A sample: a catalog of one field, and a user name for instructions without one. -/
def sampleResolver : Resolver where
  testData := [("username", "kept")]
  catalog := some ⟨[("home", .list [.ofTexts [("name", "username"), ("id", "user")]])]⟩

/-- An empty lock is used up, but leaves the user name to the test data. -/
theorem exists_outline_of_empty_lock :
    ∃ case outline place,
      sampleResolver.resolve "login" {} "" [⟨.value, "value", "", true⟩,
        ⟨.value, "value", "secret", true⟩] = .ok case ∧
      case.steps = Outline.steps outline place ∧
      outline.credentials = some ("kept", "secret") := by
  have textual : ∀ catalog ∈ sampleResolver.catalog, catalog.IsTextual := by
    rintro catalog ⟨rfl⟩
    intro page member
    obtain rfl := List.mem_singleton.mp member
    refine ⟨_, rfl, fun item inside => ?_⟩
    obtain rfl := List.mem_singleton.mp inside
    exact ⟨_, rfl, by simp [Value.isText]⟩
  obtain ⟨case, outline, place, done, steps, goesBy, -⟩ :=
    @exists_outline sampleResolver Tables.areReadable_usual textual "login" {} ""
      [⟨.value, "value", "", true⟩, ⟨.value, "value", "secret", true⟩]
  refine ⟨case, outline, place, done, steps, ?_⟩
  have about : sampleResolver.aboutLogin (Lock.strip "login") {} = .ok true := by decide +kernel
  obtain ⟨⟨username, password⟩, given⟩ := Option.isSome_iff_exists.mp (goesBy.about.mpr about)
  have first : username = "kept" :=
    (goesBy.username _ given).eq_credentialText.trans (by decide +kernel)
  have second : password = "secret" :=
    (goesBy.password _ given).eq_credentialText.trans (by decide +kernel)
  rw [given, first, second]

end Resolver

end PlainScript
