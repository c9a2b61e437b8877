/-
Resolution of a plain login: it goes to the login page, fills in both values, clicks the login
button and makes one check.
-/

import PlainScript.Proofs.Instruction.Login
import PlainScript.Proofs.Render.Target
import PlainScript.Resolver.Resolve

namespace PlainScript.PlainLogin

open Regex Sketch Vocabulary Resolver

variable (login : PlainLogin)

/-! Pages -/

theorem writtenPath?_text : writtenPath? login.text = none := by
  have written : writtenPath.search login.text = none :=
    search_eq_none login.fits_text (by decide)
  have named : namedPage.search login.text = none :=
    search_eq_none login.fits_text (by decide)
  rw [writtenPath?, written, named]
  rfl

/-- The verb of the instruction is the first word that the tables know. -/
theorem run_login {next : Next} {out : State}
    (found : next ⟨⟨['n', 'i', 'g', 'o', 'l'], verb.drop 5 ++
      (usernameWord ++ ' ' :: (login.user ++ login.tail))⟩, []⟩ = some out) :
    Resolver.login.run ⟨.start login.text.toList, []⟩ next = some out := by
  have text : login.text.toList = ['l', 'o', 'g', 'i', 'n'] ++ (verb.drop 5 ++
      (usernameWord ++ ' ' :: (login.user ++ login.tail))) := by
    rw [toList_text]
    rfl
  rw [Resolver.login, wholly, run_all_cons, wordEdge, text, Cursor.start, run_anchor rfl,
    run_all_cons, choice_cons_cons]
  refine run_alt_of_some ?_
  rw [run_caseless (by simp), run_all_cons, run_anchor rfl, run_all_nil]
  exact found

theorem occursIn_login : Resolver.login.occursIn login.text = true := by
  have matched := matchAt_eq_some_iff.mpr ⟨_, login.run_login rfl, rfl⟩
  rw [occursIn, search]
  rw [Cursor.start] at matched
  rw [searchFrom_of_matchAt matched, Option.isSome_some]

theorem occursIn_submitCue : submitCue.occursIn login.text = true := by
  have found : ∃ last, submitCue.run ⟨.start login.text.toList, []⟩ some = some last := by
    rw [submitCue, choice_cons_cons, choice_singleton, run_alt]
    cases (wholly [caseless "submit"]).run ⟨.start login.text.toList, []⟩ some with
    | some last => exact ⟨last, rfl⟩
    | none => exact ⟨_, login.run_login rfl⟩
  obtain ⟨last, found⟩ := found
  have matched := matchAt_eq_some_iff.mpr ⟨_, found, rfl⟩
  rw [Cursor.start] at matched
  rw [occursIn, search, searchFrom_of_matchAt matched, Option.isSome_some]

/-! Buttons -/

/-- The word that a verb of clicking takes for the name of a button. -/
def clickedWord : Regex :=
  group 1 (seq (many1 (oneOf [.range 'A' 'Z', .range 'a' 'z']))
    (maybe (seq blanks (choice [caseless "in", caseless "up", caseless "out"]))))

theorem clickCue_eq :
    clickCue = all ([wordEdge, clickVerb, blanks, leading [caseless "on"],
      leading [caseless "the"]] ++ [clickedWord]) := rfl

/-- After the user name the word is the one that joins the password to it. -/
theorem run_clickedWord (before rest : List Char) (groups : List (Nat × Span)) :
    clickedWord.run ⟨⟨before, andWord ++ ' ' :: (passwordWord ++ rest)⟩, groups⟩ some =
      some ⟨⟨andWord.reverse ++ before, ' ' :: (passwordWord ++ rest)⟩,
        (1, ⟨⟨before, andWord ++ ' ' :: (passwordWord ++ rest)⟩,
          ⟨andWord.reverse ++ before, ' ' :: (passwordWord ++ rest)⟩⟩) :: groups⟩ := by
  have missed (next : Next) : (seq blanks (choice [caseless "in", caseless "up",
      caseless "out"])).run ⟨⟨andWord.reverse ++ before, ' ' :: (passwordWord ++ rest)⟩, groups⟩
        next = none := by
    rw [run_seq, run_blanks (by rintro c ⟨rfl⟩; rfl)]
    rfl
  rw [clickedWord, run_group]
  refine run_many1_word (by decide) (by decide) (by rintro c ⟨rfl⟩; rfl) ?_
  rw [run_maybe_of_none (missed _)]
  rfl

/-- A verb of clicking can only be the end of the user name. -/
theorem clicked?_text : clicked? login.text = none ∨ clicked? login.text = some "and" := by
  rw [clicked?]
  cases searched : clickCue.search login.text with
  | none => exact .inl rfl
  | some found =>
      right
      obtain ⟨cursor, stands, matched⟩ :=
        exists_of_searchFrom (stands_of_fits login.fits_text).places searched
      obtain ⟨last, ran, rfl⟩ := matchAt_eq_some_iff.mp matched
      rw [clickCue_eq, run_all_append] at ran
      obtain ⟨⟨⟨before, after⟩, groups⟩, ⟨place, reached, fits⟩, ran⟩ :=
        leads_after _ sketch.places stands ran
      have only : sketch.after (all [wordEdge, clickVerb, blanks, leading [caseless "on"],
        leading [caseless "the"]]) sketch.places = [23] := by decide
      obtain rfl := List.mem_singleton.mp (only ▸ reached)
      have rest : sketch.drop 23 =
          ofChars (andWord ++ ' ' :: passwordWord) ++ (ofChars [' '] ++ word secretAlphabet) := rfl
      rw [rest, fits_ofChars_append_iff] at fits
      obtain ⟨back, same, -⟩ := fits
      obtain rfl : after = andWord ++ ' ' :: (passwordWord ++ back) := by simpa using same
      rw [all, run_clickedWord] at ran
      obtain rfl := Option.some.inj ran
      have named : String.ofList andWord = "and" := by simp [andWord]
      exact (text?_word _ 1 andWord).trans (congrArg some named)

/-- The first rule of a table applies where its cue occurs. -/
theorem lookup_of_occursIn {cue : Regex} {text : String} (occurs : cue.occursIn text = true)
    (result : String) (rules : List Rule) :
    lookup (⟨.ok cue, result⟩ :: rules) text = .ok (some result) := by
  have found : Cue.occursIn (.ok cue) text = .ok true := congrArg Except.ok occurs
  rw [lookup, found]
  rfl

/-- The joining word names no button. -/
theorem clickedButton?_and : clickedButton? {} "and" = .ok none := by
  decide

variable {login} {resolver : Resolver} {given : Values}

/-- Whatever is clicked, the button is the one that the tables know for a login. -/
theorem button?_text (usual : resolver.tables = {}) (unquoted : given.button = none) :
    resolver.button? login.text given = .ok (some "Login") := by
  have table : lookup ({} : Tables).buttons login.text = .ok (some "Login") :=
    lookup_of_occursIn login.occursIn_login "Login" ({} : Tables).buttons.tail
  rw [Resolver.button?, usual, unquoted]
  rcases login.clicked?_text with none | some
  · rw [none]
    exact table
  · rw [some]
    change (clickedButton? {} "and" >>= _) = _
    rw [clickedButton?_and]
    exact table

theorem path_text (usual : resolver.tables = {}) (unlinked : given.url = none) :
    resolver.path login.text given [] = .ok "/login" := by
  have table : lookup ({} : Tables).paths login.text = .ok (some "/login") :=
    lookup_of_occursIn login.occursIn_login "/login" ({} : Tables).paths.tail
  rw [Resolver.path, usual, unlinked, writtenPath?_text]
  change (lookup ({} : Tables).paths login.text).map _ = _
  rw [table]
  rfl

/-- What can be checked after a login. -/
def checks : List Assertion :=
  [urlContains "/dashboard", isVisible errorLocator, isVisible successLocator]

/-- An instruction to log in is checked, whatever other cues it holds. -/
theorem exists_cuedAssertion? (tables : Tables) {text : String} {dashboard error success : Bool}
    (dashboardCue : tables.dashboardCue.occursIn text = .ok dashboard)
    (errorCue : tables.errorCue.occursIn text = .ok error)
    (successCue : tables.successCue.occursIn text = .ok success)
    (cued : Resolver.login.occursIn text = true) :
    ∃ assertion ∈ checks, cuedAssertion? tables text = .ok (some assertion) := by
  cases dashboard with
  | true =>
      refine ⟨urlContains "/dashboard", by simp [checks], ?_⟩
      rw [cuedAssertion?, dashboardCue]
      rfl
  | false =>
      cases error with
      | true =>
          refine ⟨isVisible errorLocator, by simp [checks], ?_⟩
          simp only [cuedAssertion?, dashboardCue, errorCue]
          rfl
      | false =>
          cases success with
          | true =>
              refine ⟨isVisible successLocator, by simp [checks], ?_⟩
              simp only [cuedAssertion?, dashboardCue, errorCue, successCue]
              rfl
          | false =>
              refine ⟨urlContains "/dashboard", by simp [checks], ?_⟩
              simp only [cuedAssertion?, dashboardCue, errorCue, successCue, cued]
              rfl

variable (login)

/-- The steps of a plain login up to its check. -/
def actions : List Step :=
  [.goto "/login", .fill (.label "Username") login.username,
    .fill (.label "Password") login.password, .click (.role (some "button") (some "Login"))]

theorem filled_username : filled (some login.username) = some login.username :=
  (filled_eq_some_iff _ _).mpr ⟨rfl, login.username_ne⟩

theorem filled_password : filled (some login.password) = some login.password :=
  (filled_eq_some_iff _ _).mpr ⟨rfl, login.password_ne⟩

theorem credentialSteps_text (resolver : Resolver) :
    resolver.credentialSteps login.text login.values [] =
      .ok [.fill (.label "Username") login.username,
        .fill (.label "Password") login.password] := by
  simp only [credentialSteps, values, filled_username, filled_password, orSpare, fillCredential,
    credentialText, Option.isSome_some, Bool.true_or, if_true]
  rfl

theorem clickSteps_text (usual : resolver.tables = {}) :
    resolver.clickSteps login.text login.values =
      .ok [.click (.role (some "button") (some "Login"))] := by
  rw [clickSteps, occursIn_submitCue, Bool.or_true, if_pos rfl, button?_text usual rfl]
  rfl

theorem exists_assertion?_text (usual : resolver.tables = {}) :
    ∃ assertion ∈ checks,
      resolver.assertion? login.text login.values [] = .ok (some assertion) := by
  obtain ⟨assertion, member, cued⟩ :=
    exists_cuedAssertion? {} rfl rfl rfl login.occursIn_login
  refine ⟨assertion, member, ?_⟩
  have plain : resolver.plainAssertion? login.text login.values [] = .ok (some assertion) := by
    rw [← usual] at cued
    exact cued
  rw [assertion?, plain]
  rfl

/-- With the usual tables and without a catalogue a plain login is resolved into its actions and one
check, in either mode and whatever the test data hold. -/
theorem exists_resolve_of_usual (resolver : Resolver) (usual : resolver.tables = {})
    (unrefined : resolver.catalog = none) (baseUrl : String) :
    ∃ assertion ∈ checks, resolver.resolve login.text login.values baseUrl [] =
      .ok ⟨heading login.text baseUrl, login.actions ++ [.check assertion]⟩ := by
  obtain ⟨assertion, member, checked⟩ := login.exists_assertion?_text usual
  refine ⟨assertion, member, ?_⟩
  have made : resolver.steps login.text login.values [] =
      .ok (login.actions ++ [.check assertion]) := by
    rw [Resolver.steps, path_text usual rfl, credentialSteps_text, clickSteps_text login usual,
      checked]
    rfl
  rw [resolve, strip_text, made]
  simp only [refine, unrefined]
  rfl

/-- A plain login is resolved into its actions and one check. -/
theorem exists_resolve_text (baseUrl : String) :
    ∃ assertion ∈ checks, ({} : Resolver).resolve login.text login.values baseUrl [] =
      .ok ⟨heading login.text baseUrl, login.actions ++ [.check assertion]⟩ :=
  login.exists_resolve_of_usual {} rfl rfl baseUrl

/-- User name and password are taken as they stand, whatever words they hold or end with: nothing
else is extracted, and the test goes to the login page, fills in both and clicks the login button,
in either mode and whatever the test data hold. -/
theorem extract_and_resolve_text (strictness : Strictness) (testData : List (String × String))
    (baseUrl : String) :
    (Extraction.extract login.text).toList =
        [("username", login.username), ("password", login.password)] ∧
      ∃ testCase, ({ strictness, testData } : Resolver).resolve login.text
          (Extraction.extract login.text) baseUrl [] = .ok testCase ∧
        testCase.steps.take 4 = [.goto "/login",
          .fill (.label "Username") login.username, .fill (.label "Password") login.password,
          .click (.role (some "button") (some "Login"))] := by
  rw [extract_text]
  obtain ⟨assertion, -, resolved⟩ :=
    login.exists_resolve_of_usual { strictness, testData } rfl rfl baseUrl
  exact ⟨login.toList_values, _, resolved, rfl⟩

end PlainScript.PlainLogin
