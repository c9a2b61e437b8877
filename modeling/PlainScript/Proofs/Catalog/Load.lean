/-
Loading a catalog. A file that holds no document is passed over, and the pages of all others are
there in the order of their files; the first document that is no record ends the loading, and one
whose elements cannot be listed ends the reading of the elements. What becomes of files that nest too
deeply, or that hold halves of characters, is left open.
-/

import Mathlib.Data.List.Nodup
import PlainScript.Catalog.Pages
import PlainScript.Proofs.Computation
import PlainScript.Proofs.File.Directory

namespace PlainScript

open File

/-! Folders without patterns -/

namespace File

/-- What keeps a document from being read is reported, or left open. -/
theorem DocumentFault.severity_ne_breaking (fault : DocumentFault) :
    fault.severity ≠ .breaking := by
  cases fault with
  | unreadable fault => nofun
  | malformed content failure =>
      rw [severity, Json.Failure.severity]
      split <;> nofun

theorem isPattern_trimSlashes {path : String} (plain : Glob.isPattern path = false) :
    Glob.isPattern (trimSlashes path) = false := by
  rw [Glob.isPattern, List.any_eq_false] at plain ⊢
  intro c member
  refine plain c ?_
  simp only [trimSlashes] at member
  split at member
  · exact member
  · rw [String.toList_ofList] at member
    exact (Chars.trimRightWhere_prefix_self _ _).subset member

theorem trimSlashes_ne_empty {path : String} (named : path ≠ "") : trimSlashes path ≠ "" := by
  simp only [trimSlashes]
  split
  · exact named
  · rename_i kept
    rwa [Ne, ← String.toList_eq_nil_iff, String.toList_ofList, ← List.isEmpty_iff]

end File

namespace Catalog

variable {directory : Directory} {folder page : String} {file : String × String}

/-! The files of a catalog -/

theorem isPageFile_iff (name : String) :
    isPageFile name = true ↔
      ∃ page, name = page ++ ".json" ∧ Text.startsWith (page ++ ".json") "." = false := by
  rw [isPageFile, Bool.and_eq_true, Bool.not_eq_true', Text.endsWith, List.isSuffixOf_iff_suffix]
  constructor
  · rintro ⟨⟨front, same⟩, visible⟩
    have whole : name = .ofList front ++ ".json" := by
      rw [← String.toList_inj, ← same]
      simp
    exact ⟨.ofList front, whole, whole ▸ visible⟩
  · rintro ⟨page, rfl, visible⟩
    exact ⟨⟨page.toList, by simp⟩, visible⟩

/-- The page of a file has its name without the extension. -/
theorem splitExtension_pageFile (visible : Text.startsWith (page ++ ".json") "." = false)
    (entry : page ++ ".json" = "/" ∨ IsPiece (page ++ ".json")) :
    splitExtension (page ++ ".json") = (page, ".json") := by
  have unslashed : '/' ∉ page.toList := by
    rcases entry with root | isPiece
    · have last := congrArg (fun text => text.toList.getLast?) root
      simp [List.getLast?_append] at last
    · exact fun inside => isPiece.slash_notMem (by simp [inside])
  have begins : ∃ c, page.toList.head? = some c ∧ c ≠ '.' := by
    cases chars : page.toList with
    | nil => simp [Text.startsWith, chars] at visible
    | cons c rest =>
        refine ⟨c, rfl, ?_⟩
        rintro rfl
        simp [Text.startsWith, chars] at visible
  exact @splitExtension_append page "json" unslashed begins (by decide)

theorem mem_filesIn_iff :
    file ∈ filesIn directory folder ↔ ∃ page, page ++ ".json" ∈ directory.entries folder ∧
      Text.startsWith (page ++ ".json") "." = false ∧
      file = (join folder (page ++ ".json"), page) := by
  simp only [filesIn, List.mem_map, List.mem_filter, isPageFile_iff]
  constructor
  · rintro ⟨_, ⟨member, page, rfl, visible⟩, rfl⟩
    refine ⟨page, member, visible, ?_⟩
    rw [splitExtension_pageFile visible (Directory.isPiece_of_mem_entries member)]
  · rintro ⟨page, member, visible, rfl⟩
    refine ⟨_, ⟨member, page, rfl, visible⟩, ?_⟩
    rw [splitExtension_pageFile visible (Directory.isPiece_of_mem_entries member)]

/-- The pages of one folder have names of their own. -/
theorem nodup_filesIn (directory : Directory) (folder : String) :
    ((filesIn directory folder).map Prod.snd).Nodup := by
  rw [filesIn, List.map_map]
  refine List.Nodup.map_on ?_ ((Directory.nodup_entries directory folder).filter _)
  intro first member second other same
  rw [List.mem_filter, isPageFile_iff] at member other
  obtain ⟨listed, page, rfl, visible⟩ := member
  obtain ⟨listed', page', rfl, visible'⟩ := other
  have left := splitExtension_pageFile visible (Directory.isPiece_of_mem_entries listed)
  have right := splitExtension_pageFile visible' (Directory.isPiece_of_mem_entries listed')
  simp only [Function.comp, left, right] at same
  rw [same]

/-- A folder without marks of a pattern holds the files of its catalog itself. -/
theorem perm_pageFiles (plain : Glob.isPattern folder = false) :
    (pageFiles directory folder).Perm (filesIn directory (trimSlashes folder)) := by
  have folders : Glob.folders directory (trimSlashes folder) = [trimSlashes folder] := by
    rw [Glob.folders, isPattern_trimSlashes plain, if_neg Bool.false_ne_true]
  rw [pageFiles, folders, List.flatMap_singleton]
  exact Order.perm_sort _ _

theorem pairwise_pageFiles (directory : Directory) (folder : String) :
    (pageFiles directory folder).Pairwise fun first second => first.1 ≤ second.1 := by
  have sorted := Order.pairwise_sort
    (fun first second : String × String => decide (first.1 ≤ second.1))
    (fun a b c => by simpa using String.le_trans) (fun a b => by simpa using String.le_total _ _)
    ((Glob.folders directory (trimSlashes folder)).flatMap (filesIn directory))
  exact sorted.imp fun le => by simpa using le

/-! File by file -/

/-- The page in a file: the elements of its record, or none. -/
def page? (directory : Directory) (file : String × String) : Option (String × Value) :=
  match directory.readJson file.1 with
  | .ok (.record entries) =>
      some (file.2, ((Value.record entries).field? "elements").getD (.list []))
  | _ => none

/-- The notice of a file without a document. -/
def notice? (directory : Directory) (file : String × String) : Option Notice :=
  match directory.readJson file.1 with
  | .ok _ => none
  | .error fault => some (.skipped file.1 fault)

/-- Whether a file is passed over or holds a record. -/
def isFit (directory : Directory) (file : String × String) : Bool :=
  match directory.readJson file.1 with
  | .ok (.record _) => true
  | .ok _ => false
  | .error fault => fault.severity.message?.isSome

/-- What ends the loading at a file that is not fit. -/
def faultOf (directory : Directory) (file : String × String) : Fault :=
  match directory.readJson file.1 with
  | .ok _ => .unfit
  | .error fault => .file fault

/-- The catalog after pages that are put into it one after another. -/
def putAll (catalog : Catalog) (pages : List (String × Value)) : Catalog :=
  pages.foldl (fun catalog page => catalog.put page.1 page.2) catalog

/-- One file is passed over, or put into the catalog, or ends the loading. -/
theorem loadPage_eq (directory : Directory) (loaded : Catalog × List Notice)
    (file : String × String) :
    loadPage directory loaded file =
      if isFit directory file then
        .ok (loaded.1.putAll (page? directory file).toList,
          loaded.2 ++ (notice? directory file).toList)
      else .error (faultOf directory file) := by
  rw [loadPage, isFit, page?, notice?, faultOf]
  cases directory.readJson file.1 with
  | error fault =>
      dsimp only
      split <;> simp [*, Severity.message?, putAll]
  | ok document => cases document <;> simp [definitions, putAll, Except.map]

/-- The first file that is not fit. -/
def firstUnfit? (directory : Directory) (files : List (String × String)) :
    Option (String × String) :=
  files.find? fun file => !isFit directory file

/-- The files are loaded together if each of them is fit. -/
theorem foldlM_loadPage (directory : Directory) (loaded : Catalog × List Notice)
    (files : List (String × String)) :
    files.foldlM (loadPage directory) loaded =
      match firstUnfit? directory files with
      | some file => .error (faultOf directory file)
      | none => .ok (loaded.1.putAll (files.filterMap (page? directory)),
          loaded.2 ++ files.filterMap (notice? directory)) := by
  induction files generalizing loaded with
  | nil => simp [putAll, firstUnfit?, pure, Except.pure]
  | cons file files ih =>
      rw [List.foldlM_cons, loadPage_eq, firstUnfit?]
      cases fit : isFit directory file with
      | false => simp [fit, bind, Except.bind]
      | true =>
          change files.foldlM (loadPage directory) _ = _
          rw [ih, List.find?_cons_of_neg (by simp [fit]), ← firstUnfit?]
          cases page : page? directory file <;> cases notice : notice? directory file <;>
            simp [page, notice, putAll]

/-- The files that the catalog in a folder is loaded from, none where there is no folder. -/
def filesOf (directory : Directory) (folder : String) : List (String × String) :=
  if directory.isFolder folder then pageFiles directory folder else []

theorem load_eq (directory : Directory) (folder : String) :
    load directory folder =
      match firstUnfit? directory (filesOf directory folder) with
      | some file => .error (faultOf directory file)
      | none => .ok (putAll ⟨[]⟩ ((filesOf directory folder).filterMap (page? directory)),
          if directory.isFolder folder then (filesOf directory folder).filterMap (notice? directory)
          else [.noFolder folder]) := by
  rw [load, filesOf]
  split
  · rw [foldlM_loadPage, List.nil_append]
  · rfl

theorem firstUnfit?_eq_none_iff {files : List (String × String)} :
    firstUnfit? directory files = none ↔ ∀ file ∈ files, isFit directory file = true := by
  simp [firstUnfit?]

/-- Where the loading succeeds, all files are fit. -/
theorem isFit_of_load {loaded : Catalog × List Notice}
    (done : load directory folder = .ok loaded) :
    ∀ file ∈ filesOf directory folder, isFit directory file = true := by
  rw [load_eq] at done
  split at done
  · cases done
  · rename_i none
    exact firstUnfit?_eq_none_iff.mp none

theorem load_of_isFit (fit : ∀ file ∈ filesOf directory folder, isFit directory file = true) :
    load directory folder =
      .ok (putAll ⟨[]⟩ ((filesOf directory folder).filterMap (page? directory)),
        if directory.isFolder folder then (filesOf directory folder).filterMap (notice? directory)
        else [.noFolder folder]) := by
  rw [load_eq, firstUnfit?_eq_none_iff.mpr fit]

/-- Pages of new names are put behind the others. -/
theorem putAll_of_nodup {catalog : Catalog} {pages : List (String × Value)}
    (distinct : ((catalog.pages ++ pages).map Prod.fst).Nodup) :
    catalog.putAll pages = ⟨catalog.pages ++ pages⟩ := by
  induction pages generalizing catalog with
  | nil => rw [List.append_nil]; rfl
  | cons page pages ih =>
      have new : (catalog.pages.any fun other => other.1 == page.1) = false := by
        rw [List.map_append, List.map_cons] at distinct
        have apart := (List.nodup_middle.mp distinct).notMem
        rw [List.any_eq_false]
        intro other member same
        refine apart (List.mem_append_left _ ?_)
        rw [← beq_iff_eq.mp same]
        exact List.mem_map_of_mem member
      have next : catalog.put page.1 page.2 = ⟨catalog.pages ++ [page]⟩ := by
        rw [put, new, if_neg Bool.false_ne_true]
      rw [List.append_cons] at distinct
      rw [putAll, List.foldl_cons, ← putAll, next, ih distinct, ← List.append_cons]

theorem map_fst_filterMap_page? (directory : Directory) (files : List (String × String)) :
    ((files.filterMap (page? directory)).map Prod.fst).Sublist (files.map Prod.snd) := by
  induction files with
  | nil => exact .slnil
  | cons file files ih =>
      cases page : page? directory file with
      | none => simpa [page] using ih.cons file.2
      | some found =>
          have name : found.1 = file.2 := by
            rw [page?] at page
            split at page
            · cases page
              rfl
            · cases page
          simpa [page, name] using ih.cons_cons file.2

/-- The elements that the definitions of a page list. -/
def listed (page : String × Value) : List Element := (page.2.members?.getD []).map Element.mk

theorem mapM_elementsOf (pages : List (String × Value)) :
    pages.mapM (fun page => elementsOf page.2) =
      if pages.all fun page => page.2.members?.isSome then .ok (pages.map listed)
      else .error .noItems := by
  induction pages with
  | nil => rfl
  | cons page pages ih =>
      rw [List.mapM_cons, ih, elementsOf, List.all_cons, List.map_cons, listed]
      cases page.2.members? with
      | none => rfl
      | some items =>
          cases pages.all fun page => page.2.members?.isSome <;> rfl

/-- All pages list their elements, or the reading ends. -/
theorem elements_eq (catalog : Catalog) :
    catalog.elements =
      if catalog.pages.all fun page => page.2.members?.isSome then
        .ok (catalog.pages.flatMap listed)
      else .error .noItems := by
  rw [elements, mapM_elementsOf]
  split <;> rfl

/-- The document is a record, and its elements, if it has any, can be listed. -/
def ListsElements (document : Value) : Prop :=
  ∃ entries, document = .record entries ∧
    ∀ elements, (Value.record entries).field? "elements" = some elements →
      elements.members?.isSome = true

theorem listsElements_record_iff (entries : List (Value × Value)) :
    ListsElements (.record entries) ↔
      (((Value.record entries).field? "elements").getD (.list [])).members?.isSome = true := by
  constructor
  · rintro ⟨_, ⟨⟩, lists⟩
    cases found : (Value.record entries).field? "elements" with
    | none => rfl
    | some elements => exact lists elements found
  · refine fun lists => ⟨entries, rfl, fun elements found => ?_⟩
    rwa [found, Option.getD_some] at lists

/-- Whether it is settled what becomes of a file. -/
def isSettled (directory : Directory) (file : String × String) : Bool :=
  match directory.readJson file.1 with
  | .ok _ => true
  | .error fault => fault.severity != .unsettled

theorem isSome_message?_iff (fault : DocumentFault) :
    fault.severity.message?.isSome = true ↔ fault.severity ≠ .unsettled := by
  cases same : fault.severity with
  | reported message => simp [Severity.message?]
  | breaking => exact absurd same fault.severity_ne_breaking
  | unsettled => simp [Severity.message?]

/-- A settled file is fit and its page lists elements if that is so of the document in it. -/
theorem listsElements_iff (settled : isSettled directory file = true) :
    (∀ document, directory.readJson file.1 = .ok document → ListsElements document) ↔
      isFit directory file = true ∧
        ∀ page ∈ page? directory file, page.2.members?.isSome = true := by
  rw [isFit, page?]
  rw [isSettled] at settled
  cases read : directory.readJson file.1 with
  | error fault =>
      rw [read, bne_iff_ne] at settled
      simp [(isSome_message?_iff fault).mpr settled]
  | ok document =>
      simp only [Except.ok.injEq, forall_eq']
      cases document with
      | record entries => simp [listsElements_record_iff]
      | _ => simp [ListsElements]

section Plain

variable {catalog : Catalog} {notices : List Notice} {elements : List Element}

theorem nodup_filesOf (directory : Directory) (plain : Glob.isPattern folder = false) :
    ((filesOf directory folder).map Prod.snd).Nodup := by
  rw [filesOf]
  split
  · exact ((perm_pageFiles plain).map _).nodup_iff.mpr (nodup_filesIn directory _)
  · exact .nil

/-- The pages that are loaded are those of the files, in their order. -/
theorem pages_of_load (plain : Glob.isPattern folder = false)
    (loaded : load directory folder = .ok (catalog, notices)) :
    catalog.pages = (filesOf directory folder).filterMap (page? directory) := by
  rw [load_of_isFit (isFit_of_load loaded)] at loaded
  have distinct := (map_fst_filterMap_page? directory _).nodup (nodup_filesOf directory plain)
  rw [putAll_of_nodup (by simpa using distinct)] at loaded
  cases loaded
  rfl

/-- The elements can be read exactly if no document in the files is of another form. -/
theorem exists_elements_iff (plain : Glob.isPattern folder = false)
    (settled : ∀ file ∈ filesOf directory folder, isSettled directory file = true) :
    (∃ catalog notices elements, load directory folder = .ok (catalog, notices) ∧
        catalog.elements = .ok elements) ↔
      ∀ file ∈ filesOf directory folder, ∀ document, directory.readJson file.1 = .ok document →
        ListsElements document := by
  have same : (∀ file ∈ filesOf directory folder, ∀ document,
      directory.readJson file.1 = .ok document → ListsElements document) ↔
      ∀ file ∈ filesOf directory folder, isFit directory file = true ∧
        ∀ page ∈ page? directory file, page.2.members?.isSome = true :=
    forall₂_congr fun file member => listsElements_iff (settled file member)
  rw [same]
  constructor
  · rintro ⟨catalog, notices, elements, loaded, read⟩ file member
    refine ⟨isFit_of_load loaded file member, fun page found => ?_⟩
    rw [elements_eq, pages_of_load plain loaded] at read
    split at read
    · rename_i lists
      rw [List.all_eq_true] at lists
      exact lists page (List.mem_filterMap.mpr ⟨file, member, found⟩)
    · cases read
  · intro all
    have fit : ∀ file ∈ filesOf directory folder, isFit directory file = true :=
      fun file member => (all file member).1
    obtain ⟨⟨catalog, notices⟩, loaded⟩ : ∃ loaded, load directory folder = .ok loaded :=
      ⟨_, load_of_isFit fit⟩
    refine ⟨catalog, notices, catalog.pages.flatMap listed, loaded, ?_⟩
    rw [elements_eq, if_pos]
    rw [List.all_eq_true, pages_of_load plain loaded]
    intro page member
    obtain ⟨file, inside, found⟩ := List.mem_filterMap.mp member
    exact (all file inside).2 page found

/-- Reading the elements gives those of all pages in their order. -/
theorem eq_listed_of_elements (read : catalog.elements = .ok elements) :
    elements = catalog.pages.flatMap listed := by
  rw [elements_eq] at read
  split at read
  · exact (Except.ok.inj read).symm
  · cases read

/-- Each file without a document is passed over with a notice. -/
theorem skipped_mem_of_load (loaded : load directory folder = .ok (catalog, notices))
    {fault : DocumentFault} (member : file ∈ filesOf directory folder)
    (broken : directory.readJson file.1 = .error fault) : .skipped file.1 fault ∈ notices := by
  have present : directory.isFolder folder = true := by
    rw [filesOf] at member
    split at member
    · assumption
    · cases member
  rw [load_of_isFit (isFit_of_load loaded), present] at loaded
  cases loaded
  refine List.mem_filterMap.mpr ⟨file, member, ?_⟩
  rw [notice?, broken]

theorem pairwise_filesOf (directory : Directory) (folder : String) :
    (filesOf directory folder).Pairwise fun first second => first.1 ≤ second.1 := by
  rw [filesOf]
  split
  · exact pairwise_pageFiles directory folder
  · exact .nil

theorem isName_pageFile (unslashed : '/' ∉ page.toList)
    (visible : Text.startsWith (page ++ ".json") "." = false) : IsName (page ++ ".json") where
  leads := by
    have longer : page ++ ".json" ≠ "." := by
      intro same
      rw [same] at visible
      exact absurd visible (by decide)
    simp [isStep, longer]
  slash_notMem := by simp [unslashed]
  ne_back := by
    intro same
    rw [same] at visible
    exact absurd visible (by decide)

/-- Each file of a page that can be opened in the folder is one of the files of the catalog. -/
theorem mem_filesOf_of_openFile (plain : Glob.isPattern folder = false) {found : Content}
    (present : directory.isFolder folder = true) (unslashed : '/' ∉ page.toList)
    (visible : Text.startsWith (page ++ ".json") "." = false)
    (opened : directory.openFile (join (trimSlashes folder) (page ++ ".json")) = .ok found) :
    (join (trimSlashes folder) (page ++ ".json"), page) ∈ filesOf directory folder := by
  have named : folder ≠ "" := by
    rintro rfl
    cases present
  rw [filesOf, if_pos present, (perm_pageFiles plain).mem_iff, mem_filesIn_iff]
  exact ⟨page, Directory.mem_entries_of_openFile (trimSlashes_ne_empty named)
    (isName_pageFile unslashed visible) opened, visible, rfl⟩

end Plain

/-- The files of a catalog are those of its folder that can be opened, in the order of their names.
The catalog is loaded and its elements can be read exactly if each document in the files is a record
that lists elements, if it has any, where that is settled for each file; then files without a document
are passed over, and the pages of all others are there in order, and their elements. -/
theorem loads_page_files (plain : Glob.isPattern folder = false)
    (settled : ∀ file ∈ filesOf directory folder, isSettled directory file = true) :
    ((∃ catalog notices elements, load directory folder = .ok (catalog, notices) ∧
        catalog.elements = .ok elements) ↔
      ∀ file ∈ filesOf directory folder, ∀ document, directory.readJson file.1 = .ok document →
        ListsElements document) ∧
    (∀ catalog notices elements, load directory folder = .ok (catalog, notices) →
      catalog.elements = .ok elements →
        catalog.pages = (filesOf directory folder).filterMap (page? directory) ∧
        elements = catalog.pages.flatMap listed ∧
        ∀ file ∈ filesOf directory folder, ∀ fault,
          directory.readJson file.1 = .error fault → .skipped file.1 fault ∈ notices) ∧
    ((filesOf directory folder).Pairwise fun first second => first.1 ≤ second.1) ∧
    ∀ page found, directory.isFolder folder = true → '/' ∉ page.toList →
      Text.startsWith (page ++ ".json") "." = false →
      directory.openFile (join (trimSlashes folder) (page ++ ".json")) = .ok found →
        (join (trimSlashes folder) (page ++ ".json"), page) ∈ filesOf directory folder := by
  refine ⟨exists_elements_iff plain settled, fun catalog notices elements loaded read => ⟨?_, ?_, ?_⟩,
    pairwise_filesOf directory folder, ?_⟩
  · exact pages_of_load plain loaded
  · exact eq_listed_of_elements read
  · exact fun file member fault broken => skipped_mem_of_load loaded member broken
  · exact fun page found present unslashed visible opened =>
      mem_filesOf_of_openFile plain present unslashed visible opened

/-- A folder with the page of a login and one more page. -/
def loginBeside (content : String) : Directory where
  files := [("pages/extra.json", .text content),
    ("pages/login.json", .text "\x7b\"elements\": [\x7b\"name\": \"user\"\x7d]\x7d")]
  folders := []

/-- A file that breaks off is passed over. -/
theorem loads_page_files_beside_broken : Glob.isPattern "pages" = false ∧
    (∀ file ∈ filesOf (loginBeside "[nope") "pages", isSettled (loginBeside "[nope") file = true) ∧
    ∃ catalog notices elements, load (loginBeside "[nope") "pages" = .ok (catalog, notices) ∧
      catalog.elements = .ok elements := by
  have settled : ∀ file ∈ filesOf (loginBeside "[nope") "pages",
      isSettled (loginBeside "[nope") file = true := by
    decide +kernel
  refine ⟨by decide, settled, (loads_page_files (by decide) settled).1.mpr ?_⟩
  have lists : ((filesOf (loginBeside "[nope") "pages").all fun file =>
      isFit (loginBeside "[nope") file &&
        (page? (loginBeside "[nope") file).all fun page => page.2.members?.isSome) = true := by
    decide +kernel
  intro file member
  obtain ⟨fit, listed⟩ := Bool.and_eq_true_iff.mp (List.all_eq_true.mp lists file member)
  refine (listsElements_iff (settled file member)).mpr ⟨fit, fun page found => ?_⟩
  rwa [Option.mem_def.mp found, Option.all_some] at listed

/-- One file with a list in it keeps the pages of all others from being loaded. -/
theorem exists_page_file_that_ends_loading :
    ∃ directory folder, directory.isFolder folder = true ∧ Glob.isPattern folder = false ∧
      load directory folder = .error .unfit := by
  refine ⟨loginBeside "[]", "pages", by decide +kernel, by decide, ?_⟩
  have first : firstUnfit? (loginBeside "[]") (filesOf (loginBeside "[]") "pages") =
      some ("pages/extra.json", "extra") := by
    decide +kernel
  have unfit : faultOf (loginBeside "[]") ("pages/extra.json", "extra") = .unfit := by
    decide +kernel
  rw [load_eq, first]
  exact congrArg Except.error unfit

end Catalog

end PlainScript
