/-
Batches of instructions: each entry has an id, a prompt and perhaps an address of its own. They come
from a file with a prompt a line, a YAML list, or a reply from the network.
-/

import PlainScript.File.Directory
import PlainScript.Text.Case
import PlainScript.Value.Display
import PlainScript.Yaml.Reader

namespace PlainScript

structure BatchEntry where
  id : String
  prompt : String
  baseUrl : Option String := none
  deriving DecidableEq, Repr

namespace BatchEntry

/-- The first of the fields that is there and not empty. -/
def firstFilled? (item : Value) (names : List String) : Option Value :=
  names.findSome? fun name => (item.field? name).filter Value.isPresent

/-- The entry of a record; without an id it takes its index, and without a prompt it is none. -/
def ofRecord? (item : Value) (index : Int) : Except Number.Unwritable (Option BatchEntry) :=
  match firstFilled? item ["prompt", "description", "title"] with
  | none => return none
  | some prompt => do
      let id ← ((item.field? "id").getD (.int index)).tell
      let prompt ← prompt.tell
      let baseUrl ← (firstFilled? item ["base_url", "baseUrl"]).mapM Value.tell
      return some { id, prompt, baseUrl }

/-- The entry of an item, which may be the prompt itself. -/
def ofItem? (item : Value) (index : Int) : Except Number.Unwritable (Option BatchEntry) :=
  match item with
  | .record _ => ofRecord? item index
  | _ => ofRecord? (.ofFields [("prompt", item)]) index

/-- The only entry of a prompt that is given by hand. -/
def ofPrompt (prompt : String) (baseUrl : Option String) : List BatchEntry :=
  if prompt.isEmpty then []
  else [{ id := "cli", prompt, baseUrl := baseUrl.filter (!·.isEmpty) }]

end BatchEntry

namespace Batch

/-- What is passed over when a batch is read. -/
inductive Notice where
  | noPrompt (index : Nat) (path : String)
  | status (code : Int) (url : String)
  | noReply (reason : String)
  | noList
  deriving DecidableEq, Repr

def Notice.message : Notice → String
  | noPrompt index path => "Skipping entry " ++ toString index ++ " of " ++ path ++ ": no prompt"
  | status code url => "HTTP Error " ++ toString code ++ ": " ++ url
  | noReply reason => "Error fetching from API: " ++ reason
  | noList => "API response is not a list of cases"

/-- Why there is no batch in a file or a reply. -/
inductive Fault where
  | unreadable (fault : File.Fault)
  | malformed (fault : Yaml.Fault)
  | noList (path : String)
  | untold (cause : Number.Unwritable)
  | reply (fault : File.DocumentFault)
  deriving DecidableEq, Repr

def Fault.severity : Fault → Severity
  | unreadable fault => .reported fault.message
  | malformed fault => fault.severity
  | noList path => .reported (path ++ ": YAML file must contain a list of entries")
  | untold cause => cause.severity
  | reply fault => fault.severity

/-- A batch, and what was passed over until it or its fault was found. -/
structure Reading where
  notices : List Notice := []
  entries : Except Fault (List BatchEntry)

/-- Whether a path names a YAML file. -/
def isYaml (path : String) : Bool :=
  [".yaml", ".yml"].contains (Text.lower (File.splitExtension path).2)

/-- The lines of a file, which end at line feeds, without blanks around them. -/
def trimmedLines (content : String) : List String :=
  ((Chars.splitAt (· == '\n') content.toList).map fun line => .ofList (Chars.trim line)).filter
    fun line => !line.isEmpty

/-- The prompts of a text file; lines that begin with a number sign do not count. -/
def promptLines (content : String) : List String :=
  ((Chars.splitAt (· == '\n') content.toList).filter fun line => line.head? != some '#').map
    (fun line => .ofList (Chars.trim line)) |>.filter fun line => !line.isEmpty

/-- The items in the content of a file. -/
def itemsOf (path content : String) : Except Fault (List Value) :=
  if isYaml path then
    match Yaml.read content with
    | .error fault => .error (.malformed fault)
    | .ok (.list items) => .ok items
    | .ok document => if document.isPresent then .error (.noList path) else .ok []
  else .ok ((promptLines content).map .text)

/-- The items in a file. -/
def readItems (directory : Directory) (path : String) : Except Fault (List Value) := do
  let content ← (directory.readText path).mapError .unreadable
  itemsOf path content

/-- Takes the first item into a batch of the others. -/
def Reading.cons (path : String) (index : Nat) (item : Value) (rest : Reading) : Reading :=
  match BatchEntry.ofItem? item index with
  | .error cause => { entries := .error (.untold cause) }
  | .ok none => { rest with notices := .noPrompt index path :: rest.notices }
  | .ok (some entry) => { rest with entries := rest.entries.map (entry :: ·) }

/-- The batch of items, which are numbered. -/
def readNumbered (path : String) : List (Value × Nat) → Reading
  | [] => { entries := .ok [] }
  | (item, index) :: rest => (readNumbered path rest).cons path index item

/-- The batch in a file. -/
def ofFile (directory : Directory) (path : String) : Reading :=
  match readItems directory path with
  | .error fault => { entries := .error fault }
  | .ok items => readNumbered path (items.zipIdx 1)

/-- What a request to the network brings. -/
inductive Reply where
  | unreachable (reason : String)
  | answered (status : Int) (body : List UInt8)
  deriving DecidableEq, Repr

/-- The document in the body of a reply. -/
def bodyDocument (body : List UInt8) : Except File.DocumentFault Value := do
  let content ← ((File.decode body).mapError .encoding).mapError .unreadable
  (Json.parse (.ofList content)).mapError (.malformed (.ofList content))

/-- The entry of a record in a list; other items do not count, but keep their index. -/
def entryOfRecord? (item : Value × Nat) : Except Number.Unwritable (Option BatchEntry) :=
  match item.1 with
  | .record _ => BatchEntry.ofRecord? item.1 item.2
  | _ => return none

/-- The entries of the records in a list. -/
def recordsOf (items : List Value) : Except Number.Unwritable (List BatchEntry) := do
  return (← items.zipIdx.mapM entryOfRecord?).filterMap id

/-- The batch in a reply; what is wrong with the reply leaves the batch empty. -/
def ofReply (url : String) : Reply → Reading
  | .unreachable reason =>
      { notices := [.noReply ("<urlopen error " ++ reason ++ ">")], entries := .ok [] }
  | .answered code body =>
      if code != 200 then { notices := [.status code url], entries := .ok [] }
      else match bodyDocument body with
        | .error fault =>
            match fault.severity with
            | .reported reason => { notices := [.noReply reason], entries := .ok [] }
            | .breaking | .unsettled => { entries := .error (.reply fault) }
        | .ok (.list items) => { entries := (recordsOf items).mapError .untold }
        | .ok _ => { notices := [.noList], entries := .ok [] }

end Batch

end PlainScript
