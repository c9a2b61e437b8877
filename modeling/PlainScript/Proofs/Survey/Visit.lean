/-
What a survey leaves: each page that it reaches is written to a file, and a file holds the page that
was written there last. Pages at addresses with one last part share a file, unless they are named.
-/

import PlainScript.Proofs.File.Directory
import PlainScript.Proofs.File.LineEnds
import PlainScript.Proofs.Json.RoundTrip
import PlainScript.Survey.Visit

namespace PlainScript

open File Json

/-- A file with a written document is read as the document. -/
theorem Directory.readJson_of_openFile {directory : Directory} {path : String} {value : Value}
    (document : IsDocument mostLevels value)
    (opened : directory.openFile path = .ok (.text (readable.write value))) :
    directory.readJson path = .ok value := by
  have same : unifyLineEnds (readable.write value).toList = (readable.write value).toList := by
    rw [Layout.write, String.toList_ofList]
    exact unifyLineEnds_eq_self (document.return_notMem 2 0)
  have read : directory.readText path = .ok (readable.write value) := by
    rw [readText, opened]
    change Except.ok (String.ofList (unifyLineEnds _)) = _
    rw [same, String.ofList_toList]
  have parsed : parse (readable.write value) = .ok value := parse_write 2 document
  rw [readJson, read]
  dsimp only
  rw [parsed]
  rfl

namespace Survey

theorem Element.isDocument_document {levels : Nat} (element : Element) :
    IsDocument (levels + 1) element.document :=
  ((((((((((HoldsDocuments.nil.cons "placeholder" (.text element.placeholder)).cons
    "class" (.text element.styles)).cons "data-testid" (.text element.testId)).cons
      "role" (.text element.role)).cons "label" (.text element.label)).cons
        "text" (.text element.text)).cons "tag" (.text element.kind.name)).cons
          "name" (.text element.name)).cons "id" (.text element.id)).append
            (.toList "type" .text element.inputType)).isDocument (by decide)

theorem isDocument_pageDocument {levels : Nat} (page : LoadedPage) :
    IsDocument (levels + 3) (pageDocument page) :=
  (((HoldsDocuments.nil.cons "elements"
    (isDocument_map fun element _ => element.isDocument_document)).cons
      "title" (.text page.title)).cons "url" (.text page.url)).isDocument (by decide)

/-! Visits -/

/-- A target that was reached, with its page. -/
structure Visit where
  target : Target
  page : LoadedPage

/-- The path that the page is written to. -/
def Visit.path (folder : String) (visit : Visit) : String :=
  join folder (visit.target.pageName visit.target.url.shown ++ ".json")

def Visit.written (folder : String) (visit : Visit) : String × String :=
  (visit.path folder, pageText visit.page)

/-- The visit of an item, if it has a target that can be reached. -/
def reach? (site : Site) (item : Value) : Option Visit :=
  (Target.ofItem? item).bind fun target => (load site target).toOption.map (Visit.mk target)

/-- The visits of all items that can be reached, in their order. -/
def reached (site : Site) (items : List Value) : List Visit := items.filterMap (reach? site)

variable {site : Site} {folder : String} {progress after : Progress} {items : List Value}

/-- A visit that goes well writes the page, or notes that it was not reached. -/
theorem visit_eq_ok {item : Value} (done : visit site folder progress item = .ok after) :
    (reach? site item = none ∧ after.written = progress.written ∧
      after.directory = progress.directory) ∨
    ∃ visit, reach? site item = some visit ∧
      after.written = progress.written ++ [visit.path folder] ∧
      progress.directory.writeText (visit.path folder) (pageText visit.page) =
        .ok after.directory := by
  unfold visit at done
  split at done
  · rename_i target has
    rcases found : load site target with fault | page
    · rw [found] at done
      cases done
      refine .inl ⟨?_, rfl, rfl⟩
      rw [reach?, has, Option.bind_some, found]
      rfl
    · rw [found] at done
      obtain ⟨-, done⟩ | ⟨-, ⟨⟩⟩ := ite_eq_iff.mp done
      obtain ⟨directory, writes, same⟩ := Except.exists_of_bind_eq_ok done
      cases same
      refine .inr ⟨⟨target, page⟩, ?_, rfl, Except.mapError_eq_ok_iff.mp writes⟩
      rw [reach?, has, Option.bind_some, found]
      rfl
  · cases done

/-- Visits that all go well write the pages that are reached one after another. -/
theorem writes_of_visitAll (done : visitAll site folder progress items = (after, none)) :
    Directory.Writes progress.directory ((reached site items).map (Visit.written folder))
        after.directory ∧
      after.written = progress.written ++ (reached site items).map (Visit.path folder) := by
  induction items generalizing progress with
  | nil =>
      cases done
      exact ⟨.nil _, (List.append_nil _).symm⟩
  | cons item items ih =>
      unfold visitAll at done
      split at done
      · cases done
      · rename_i next here
        obtain ⟨writes, written⟩ := ih done
        rcases visit_eq_ok here with ⟨lost, unwritten, unchanged⟩ | ⟨visit, found, one, first⟩
        · rw [reached, List.filterMap_cons_none lost, ← reached]
          rw [unchanged] at writes
          rw [unwritten] at written
          exact ⟨writes, written⟩
        · rw [reached, List.filterMap_cons_some found, ← reached, List.map_cons, List.map_cons]
          refine ⟨.cons first writes, ?_⟩
          rw [written, one, List.append_assoc]
          rfl

/-- The visit that wrote last to where the visit wrote. -/
def lastAt? (folder : String) (visits : List Visit) (visit : Visit) : Option Visit :=
  visits.reverse.find? fun other => placeOf (other.path folder) == placeOf (visit.path folder)

theorem lastAt?_written (visits : List Visit) (visit : Visit) :
    Directory.lastAt? (visits.map (Visit.written folder)) (visit.path folder) =
      (lastAt? folder visits visit).map fun last => pageText last.page := by
  rw [Directory.lastAt?, lastAt?, ← List.map_reverse, List.find?_map, Option.map_map]
  rfl

/-! Names of pages -/

theorem isNameChar_of_mem_pageName {url : String} {c : Char} (member : c ∈ (pageName url).toList) :
    isNameChar c = true := by
  have cleaned (tail : List Char) :
      let name := tail.map fun c => if isNameChar c then c else '_'
      ∀ c ∈ (if name.isEmpty then "index" else .ofList name).toList, isNameChar c = true := by
    intro name
    split
    · decide
    · rw [String.toList_ofList, List.forall_mem_map]
      intro c _
      split
      · assumption
      · decide
  unfold pageName at member
  exact cleaned _ c member

theorem isName_pageName (url : String) : IsName (pageName url ++ ".json") := by
  have whole : (pageName url ++ ".json").toList = (pageName url).toList ++ ".json".toList :=
    String.toList_append
  have ends (end' : String) (short : end'.toList.length < 5) : pageName url ++ ".json" ≠ end' := by
    intro same
    rw [← same, whole, List.length_append] at short
    have : ".json".toList.length = 5 := rfl
    omega
  refine ⟨⟨?_, ?_⟩, ends ".." (by decide)⟩
  · rw [isStep, Bool.and_eq_true, Bool.not_eq_true', bne_iff_ne, Bool.eq_false_iff, Ne,
      String.isEmpty_iff]
    exact ⟨ends "" (by decide), ends "." (by decide)⟩
  · rw [whole, List.mem_append, not_or]
    exact ⟨fun slash => absurd (isNameChar_of_mem_pageName slash) (by decide), by decide⟩

/-- Targets that are not named are written to one place only if their addresses give one name. -/
theorem placeOf_path_inj {visit other : Visit} (named : folder ≠ "")
    (unnamed : visit.target.name.isPresent = false)
    (unnamed' : other.target.name.isPresent = false) :
    placeOf (visit.path folder) = placeOf (other.path folder) ↔
      pageName visit.target.url.shown = pageName other.target.url.shown := by
  rw [Visit.path, Visit.path, Target.pageName, Target.pageName, unnamed, unnamed',
    if_neg Bool.false_ne_true, if_neg Bool.false_ne_true,
    placeOf_join_inj named (isName_pageName _) (isName_pageName _)]
  exact String.append_left_inj _

/-! What a survey leaves -/

/-- After visits that all go well, a page that was reached can be read where it was written, or
else the page that was written there last. -/
theorem exists_last_of_visitAll
    (done : visitAll site folder progress items = (after, none)) {visit : Visit}
    (member : visit ∈ reached site items) :
    ∃ last ∈ reached site items, lastAt? folder (reached site items) visit = some last ∧
      placeOf (last.path folder) = placeOf (visit.path folder) ∧
        after.directory.readJson (visit.path folder) = .ok (pageDocument last.page) := by
  obtain ⟨writes, -⟩ := writes_of_visitAll done
  obtain ⟨text, found, opened⟩ :=
    writes.exists_lastAt (List.mem_map_of_mem (f := Visit.written folder) member)
  rw [Visit.written, lastAt?_written, Option.map_eq_some_iff] at found
  obtain ⟨last, found, rfl⟩ := found
  exact ⟨last, List.mem_reverse.mp (List.mem_of_find?_eq_some found), found,
    eq_of_beq (List.find?_some found :),
    Directory.readJson_of_openFile (isDocument_pageDocument last.page) opened⟩

variable {directory : Directory} {headless : Bool}

/-- A survey that ends well has made its folder and visited all targets. -/
theorem exists_visitAll_of_run
    (ended : (run site directory folder headless items).fault? = none) :
    ∃ made, directory.makeFolder folder = .ok made ∧
      visitAll site folder { directory := made } items =
        ((run site directory folder headless items).progress, none) := by
  unfold run at ended ⊢
  cases makes : directory.makeFolder folder with
  | error fault =>
      rw [makes] at ended
      cases ended
  | ok made =>
      rw [makes] at ended
      exact ⟨made, rfl, Prod.ext rfl ended⟩

/-- After a survey that ends well, every path that it returns is that of a page that it reached, and
the file there holds the page that was written last to its place. So the pages are all there exactly
if those that share a place have the same document; two pages that are not named share one exactly
if the names read off their addresses are the same. -/
theorem readJson_of_run (ended : (run site directory folder headless items).fault? = none) :
    let left := (run site directory folder headless items).progress
    let visits := reached site items
    left.written = visits.map (Visit.path folder) ∧
      (∀ visit ∈ visits, ∃ last ∈ visits, lastAt? folder visits visit = some last ∧
        left.directory.readJson (visit.path folder) = .ok (pageDocument last.page)) ∧
      ((∀ visit ∈ visits,
          left.directory.readJson (visit.path folder) = .ok (pageDocument visit.page)) ↔
        ∀ visit ∈ visits, ∀ other ∈ visits,
          placeOf (visit.path folder) = placeOf (other.path folder) →
            pageDocument visit.page = pageDocument other.page) ∧
      ∀ visit other : Visit,
        visit.target.name.isPresent = false → other.target.name.isPresent = false →
          (placeOf (visit.path folder) = placeOf (other.path folder) ↔
            pageName visit.target.url.shown = pageName other.target.url.shown) := by
  intro left visits
  obtain ⟨made, makes, all⟩ := exists_visitAll_of_run ended
  have named : folder ≠ "" := by
    rintro rfl
    cases makes
  refine ⟨(writes_of_visitAll all).2, ?_, ⟨?_, ?_⟩, fun _ _ => placeOf_path_inj named⟩
  · intro visit member
    obtain ⟨last, listed, found, -, read⟩ := exists_last_of_visitAll all member
    exact ⟨last, listed, found, read⟩
  · -- Two pages at one place are both read from the one that was written last.
    intro whole visit member other listed same
    obtain ⟨last, -, found, -, read⟩ := exists_last_of_visitAll all member
    obtain ⟨last', -, found', -, read'⟩ := exists_last_of_visitAll all listed
    rw [lastAt?, same, ← lastAt?, found', Option.some.injEq] at found
    rw [whole visit member, Except.ok.injEq] at read
    rw [whole other listed, Except.ok.injEq] at read'
    rw [read, read', found]
  · intro alike visit member
    obtain ⟨last, listed, -, same, read⟩ := exists_last_of_visitAll all member
    rw [read, alike last listed visit member same]

/-! Two pages for signing in -/

def userLogin : LoadedPage := { url := "https://a.test/login", title := "Sign in" }

def adminLogin : LoadedPage := { url := "https://a.test/admin/login", title := "Admin" }

def loginSite : Site := fun url =>
  if url = userLogin.url then .ok userLogin
  else if url = adminLogin.url then .ok adminLogin
  else .error (Site.unknown url)

def loginItems : List Value := [.text userLogin.url, .text adminLogin.url]

def userVisit : Visit := ⟨{ url := .text userLogin.url }, userLogin⟩

def adminVisit : Visit := ⟨{ url := .text adminLogin.url }, adminLogin⟩

theorem reached_loginItems : reached loginSite loginItems = [userVisit, adminVisit] := rfl

/-- Both addresses have one last part. -/
theorem path_logins :
    userVisit.path "pages" = "pages/login.json" ∧ adminVisit.path "pages" = "pages/login.json" := by
  decide

theorem pageDocument_userLogin_ne : pageDocument userLogin ≠ pageDocument adminLogin := by
  intro same
  have titles : some (Value.text "Sign in") = some (Value.text "Admin") :=
    congrArg (·.field? "title") same
  simp at titles

/-- The survey of both ends well, but one of them is lost. -/
theorem readJson_of_run_logins :
    let left := (run loginSite .empty "pages" true loginItems).progress
    left.written = ["pages/login.json", "pages/login.json"] ∧
      ¬ ∀ visit ∈ [userVisit, adminVisit],
        left.directory.readJson (visit.path "pages") = .ok (pageDocument visit.page) := by
  obtain ⟨written, -, whole, -⟩ :=
    @readJson_of_run loginSite "pages" loginItems .empty true (by decide)
  rw [reached_loginItems] at written whole
  obtain ⟨user, admin⟩ := path_logins
  refine ⟨?_, fun all => pageDocument_userLogin_ne ?_⟩
  · rw [written, List.map_cons, List.map_cons, List.map_nil, user, admin]
  · exact whole.mp all userVisit List.mem_cons_self adminVisit
      (List.mem_cons_of_mem _ List.mem_cons_self) (by rw [user, admin])

/-- Not every survey that ends well returns paths that are all different, nor can each page that it
reaches be read where it was written. -/
theorem exists_survey_that_loses_page :
    ∃ (site : Site) (items : List Value),
      let outcome := run site .empty "pages" true items
      outcome.fault? = none ∧ ¬ outcome.progress.written.Nodup ∧
        ∃ visit ∈ reached site items,
          outcome.progress.directory.readJson (visit.path "pages") ≠
            .ok (pageDocument visit.page) := by
  have ended : (run loginSite .empty "pages" true loginItems).fault? = none := by decide
  obtain ⟨made, makes, all⟩ := exists_visitAll_of_run ended
  have member : userVisit ∈ reached loginSite loginItems := by
    rw [reached_loginItems]
    exact List.mem_cons_self
  obtain ⟨last, -, found, -, read⟩ := exists_last_of_visitAll all member
  have adminLast : lastAt? "pages" [userVisit, adminVisit] userVisit = some adminVisit := by
    rw [lastAt?, path_logins.1]
    refine List.find?_cons_of_pos ?_
    rw [path_logins.2]
    exact beq_self_eq_true _
  rw [reached_loginItems, adminLast, Option.some.injEq] at found
  subst found
  have written : (run loginSite .empty "pages" true loginItems).progress.written =
      ["pages/login.json", "pages/login.json"] := by decide
  refine ⟨loginSite, loginItems, ended, ?_, userVisit, member, ?_⟩
  · rw [written]
    decide
  · rw [read, Ne, Except.ok.injEq]
    exact pageDocument_userLogin_ne.symm

end Survey

end PlainScript
