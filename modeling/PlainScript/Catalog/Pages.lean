/-
The catalog of analyzed pages: one file of element definitions a page. It finds the element that
a step means and refines the steps that fill fields.
-/

import PlainScript.Catalog.Element
import PlainScript.File.Glob
import PlainScript.Text.Search

namespace PlainScript

/-- The pages in the order of their files, each with its definitions as the file holds them. -/
structure Catalog where
  pages : List (String × Value)

namespace Catalog

/-- What is passed over when a catalog is loaded. -/
inductive Notice where
  | noFolder (path : String)
  | skipped (path : String) (fault : File.DocumentFault)
  deriving DecidableEq, Repr

def Notice.message : Notice → String
  | noFolder path => "Pages directory '" ++ path ++ "' not found"
  | skipped path fault => "Error loading " ++ path ++ ": " ++ fault.message

/-- Whether a file of the catalog has this name. -/
def isPageFile (name : String) : Bool :=
  Text.endsWith name ".json" && !Text.startsWith name "."

/-- The files of a folder that are pages, and the names of the pages. -/
def filesIn (directory : Directory) (folder : String) : List (String × String) :=
  ((directory.entries folder).filter isPageFile).map fun name =>
    (File.join folder name, (File.splitExtension name).1)

/-- The files of the catalog and the names of their pages, in order. The path of the folder is read
as a pattern. -/
def pageFiles (directory : Directory) (folder : String) : List (String × String) :=
  let folders := File.Glob.folders directory (File.trimSlashes folder)
  Order.sort (fun first second => decide (first.1 ≤ second.1)) (folders.flatMap (filesIn directory))

/-- The element definitions of a page's document. -/
def definitions : Value → Except Fault Value
  | .record entries => .ok (((Value.record entries).field? "elements").getD (.list []))
  | _ => .error .unfit

/-- Puts a page into a catalog: one of the same name keeps its place and takes the definitions. -/
def put (catalog : Catalog) (name : String) (definitions : Value) : Catalog :=
  if catalog.pages.any (·.1 == name) then
    ⟨catalog.pages.map fun page => if page.1 == name then (name, definitions) else page⟩
  else ⟨catalog.pages ++ [(name, definitions)]⟩

/-- Adds the page of a file, or a notice if the file holds no document. -/
def loadPage (directory : Directory) (loaded : Catalog × List Notice)
    (file : String × String) : Except Fault (Catalog × List Notice) :=
  match directory.readJson file.1 with
  | .error fault =>
      match fault.severity with
      | .reported _ => .ok (loaded.1, loaded.2 ++ [.skipped file.1 fault])
      | .breaking | .unsettled => .error (.file fault)
  | .ok document =>
      (definitions document).map fun elements => (loaded.1.put file.2 elements, loaded.2)

/-- The catalog in a folder. -/
def load (directory : Directory) (folder : String) : Except Fault (Catalog × List Notice) :=
  if directory.isFolder folder then
    (pageFiles directory folder).foldlM (loadPage directory) (⟨[]⟩, [])
  else .ok (⟨[]⟩, [.noFolder folder])

/-- The elements that a page defines. -/
def elementsOf (definitions : Value) : Except Fault (List Element) :=
  match definitions.members? with
  | some items => .ok (items.map Element.mk)
  | none => .error .noItems

/-- The elements of all pages in order. -/
def elements (catalog : Catalog) : Except Fault (List Element) :=
  (catalog.pages.mapM fun page => elementsOf page.2).map List.flatten

/-- The score from which on an element is taken to be the one that is meant. -/
def confident : Nat := 10

/-- The best element, if it fits well enough. -/
def confidentBest? (target : String) (elements : List Element) :
    Except Fault (Option Element) := do
  let (element, score) ← best target elements
  return if confident ≤ score then element else none

/-- The element of the named page that is meant, if the page is known. -/
def onPage? (catalog : Catalog) (target : String) (page : Option String) :
    Except Fault (Option Element) :=
  match (filled page).bind fun name => catalog.pages.lookup name with
  | some definitions => (elementsOf definitions).bind (confidentBest? target)
  | none => .ok none

/-- The element that is meant: the best one on the page, the best one of all pages, or a
namesake. -/
def meant? (catalog : Catalog) (target : String) (page : Option String) :
    Except Fault (Option Element) := do
  match ← catalog.onPage? target page with
  | some element => return some element
  | none =>
      let elements ← catalog.elements
      match ← confidentBest? target elements with
      | some element => return some element
      | none => namesake? target elements

/-- The locator of the element that is meant. -/
def find (catalog : Catalog) (target : String) (page : Option String) :
    Except Fault (Option Locator) := do
  match ← catalog.meant? target page with
  | some element => return some (← element.locator)
  | none => return none

/-- The step with the locator of the element that its label means. Only steps that fill a
labelled field change. -/
def refine (catalog : Catalog) (step : Step) (page : Option String) : Except Fault Step :=
  match step.kind?, step.locator with
  | some .fill, some locator =>
      if locator.type == "label" then
        (catalog.find (locator.value?.getD "") page).map fun found =>
          { step with locator := some (found.getD locator) }
      else .ok step
  | _, _ => .ok step

end Catalog

end PlainScript
