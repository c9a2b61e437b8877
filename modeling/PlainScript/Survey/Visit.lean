/-
A survey visits addresses and writes a file on each page that it reaches.
-/

import PlainScript.File.Directory
import PlainScript.Run.Execute
import PlainScript.Survey.Element
import PlainScript.Value.Display

namespace PlainScript.Survey

/-- Whether a character may be in the name of a page. -/
def isNameChar (c : Char) : Bool := c.isAlphanum || c == '_' || c == '-'

/-- The name of the page at an address: the last part of its path, or a name for the start. -/
def pageName (url : String) : String :=
  let path := ((Text.cut? url "://").map (·.2)).getD url
  let path := ((Text.cut? path "?").map (·.1)).getD path
  let chars := Chars.trimRightWhere (· == '/') path.toList
  let tail :=
    if chars.contains '/' then (chars.reverse.takeWhile (· != '/')).reverse else "index".toList
  let name := tail.map fun c => if isNameChar c then c else '_'
  if name.isEmpty then "index" else .ofList name

/-- An address to visit, and the name that its page is to have. -/
structure Target where
  url : Value
  name : Value := .null

/-- The target of an item, which is an address or a record with one. -/
def Target.ofItem? (item : Value) : Option Target :=
  match item with
  | .text url => some { url := .text url }
  | .record _ => some {
      url := (item.field? "url").getD .null
      name := (item.field? "name").getD .null }
  | _ => none

/-- The name that is asked for, or else that of the address. -/
def Target.pageName (target : Target) (url : String) : String :=
  if target.name.isPresent then target.name.shown else Survey.pageName url

/-- What ends a survey. -/
inductive Fault where
  | noTarget
  | untold (cause : Number.Unwritable)
  | file (fault : File.Fault)
  deriving DecidableEq, Repr

def Fault.severity : Fault → Severity
  | noTarget => .breaking
  | untold cause => cause.severity
  | file fault => .reported fault.message

/-- A page that could not be reached. -/
structure Notice where
  url : String
  fault : PageFault
  deriving DecidableEq, Repr

def Notice.message (notice : Notice) : String :=
  "Error processing " ++ notice.url ++ ": " ++ notice.fault.message

/-- What a survey has done so far. -/
structure Progress where
  written : List String := []
  notices : List Notice := []
  directory : Directory

/-- The page of a target. -/
def load (site : Site) (target : Target) : Except PageFault LoadedPage :=
  match target.url with
  | .text url => site url
  | url => .error (Site.unknown url.shown)

/-- Visits a target; a page that cannot be reached is passed over. -/
def visit (site : Site) (folder : String) (progress : Progress) (item : Value) :
    Except Fault Progress := do
  let some target := Target.ofItem? item | throw .noTarget
  match load site target with
  | .error fault =>
      return { progress with notices := progress.notices ++ [⟨target.url.shown, fault⟩] }
  | .ok page =>
      if target.name.hasShortNumbers then
        let path := File.join folder (target.pageName target.url.shown ++ ".json")
        let directory ← (progress.directory.writeText path (pageText page)).mapError .file
        return { progress with written := progress.written ++ [path], directory }
      else throw (.untold .overlong)

/-- Visits one item after the other up to a fault. -/
def visitAll (site : Site) (folder : String) : Progress → List Value → Progress × Option Fault
  | progress, [] => (progress, none)
  | progress, item :: items =>
      match visit site folder progress item with
      | .error fault => (progress, some fault)
      | .ok progress => visitAll site folder progress items

/-- What a survey leaves, what ended it early, and what was asked of the browser. -/
structure Outcome where
  progress : Progress
  fault? : Option Fault
  browser : List BrowserCall

/-- Surveys pages into a folder that is made for them. -/
def run (site : Site) (directory : Directory) (folder : String) (headless : Bool)
    (items : List Value) : Outcome :=
  match directory.makeFolder folder with
  | .error fault => ⟨{ directory }, some (.file fault), []⟩
  | .ok directory =>
      let (progress, fault?) := visitAll site folder { directory } items
      ⟨progress, fault?, .launch headless :: if fault?.isNone then [.close] else []⟩

end PlainScript.Survey
