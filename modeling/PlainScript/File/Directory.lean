/-
A directory of files, as a run of the program finds it and leaves it, and the documents in them.
-/

import PlainScript.File.Path
import PlainScript.File.Utf8
import PlainScript.Json.Parser

namespace PlainScript

namespace File

inductive Content where
  | text (content : String)
  | bytes (content : List UInt8)
  deriving DecidableEq, Repr

/-- A carriage return, with or without a line feed after it, reads as a line feed. -/
def unifyLineEnds : List Char → List Char
  | '\r' :: '\n' :: rest => '\n' :: unifyLineEnds rest
  | '\r' :: rest => '\n' :: unifyLineEnds rest
  | c :: rest => c :: unifyLineEnds rest
  | [] => []

/-- The text of a file. -/
def Content.read : Content → Except EncodingFault String
  | text content => .ok (.ofList (unifyLineEnds content.toList))
  | bytes content => (decode content).map fun chars => .ofList (unifyLineEnds chars)

/-- Why a path cannot be opened or made. -/
inductive PathProblem where
  | notFound
  | exists
  | notDirectory
  | isDirectory
  | nameTooLong
  deriving DecidableEq, Repr

def PathProblem.code : PathProblem → Nat
  | notFound => 2
  | .exists => 17
  | notDirectory => 20
  | isDirectory => 21
  | nameTooLong => 36

def PathProblem.description : PathProblem → String
  | notFound => "No such file or directory"
  | .exists => "File exists"
  | notDirectory => "Not a directory"
  | isDirectory => "Is a directory"
  | nameTooLong => "File name too long"

inductive Fault where
  | path (problem : PathProblem) (path : String)
  | nullByte
  | encoding (fault : EncodingFault)
  deriving DecidableEq, Repr

def Fault.message : Fault → String
  | path problem name =>
      "[Errno " ++ toString problem.code ++ "] " ++ problem.description ++ ": " ++
        Text.display name
  | nullByte => "embedded null byte"
  | encoding fault => fault.message

end File

open File

/-- Files by path, and directories that hold no file yet. -/
structure Directory where
  files : List (String × Content)
  folders : List String
  deriving DecidableEq, Repr

namespace Directory

def empty : Directory := ⟨[], []⟩

/-- The content of the file at a place. -/
def fileAt? (directory : Directory) (place : List String) : Option Content :=
  (directory.files.find? fun file => placeOf file.1 == place).map (·.2)

/-- The places of all directories. -/
def folderPlaces (directory : Directory) : List (List String) :=
  (directory.folders.flatMap fun folder => ways (placeOf folder)) ++
    directory.files.flatMap fun file => ways (placeOf file.1).dropLast

/-- Whether a place is a directory, as the start, the root and all that lies above are. -/
def hasFolder (directory : Directory) (place : List String) : Bool :=
  place.all (· == "..") || place == ["/"] || directory.folderPlaces.contains place

/-- Where steps lead; all places on the way have to be directories. -/
def follow (directory : Directory) :
    (place : List String) → List (String × String) → Except PathProblem (List String)
  | place, [] => .ok place
  | place, (step, _) :: rest =>
      if isTooLong step then .error .nameTooLong
      else
        let next := stepFrom place step
        if rest.isEmpty then .ok next
        else if directory.hasFolder next then directory.follow next rest
        else if (directory.fileAt? next).isSome then .error .notDirectory
        else .error .notFound

/-- The place of a path, whatever is to be done there. -/
def locate (directory : Directory) (path : String) : Except Fault (List String) :=
  if path.toList.contains '\x00' then .error .nullByte
  else if path.isEmpty then .error (.path .notFound path)
  else (directory.follow [] (steps path)).mapError fun problem => .path problem path

def isFolder (directory : Directory) (path : String) : Bool :=
  match directory.locate path with
  | .ok place => directory.hasFolder place
  | .error _ => false

/-- The content of a file. -/
def openFile (directory : Directory) (path : String) : Except Fault Content := do
  let place ← directory.locate path
  if directory.hasFolder place then .error (.path .isDirectory path)
  else match directory.fileAt? place with
    | none => .error (.path .notFound path)
    | some content =>
        if Text.endsWith path "/" then .error (.path .notDirectory path) else .ok content

/-- The text of a file. -/
def readText (directory : Directory) (path : String) : Except Fault String :=
  (directory.openFile path).bind fun content => content.read.mapError .encoding

/-- Makes the directories that steps lead through. -/
def makeFolders (directory : Directory) (path : String) :
    (place : List String) → List (String × String) → Except Fault Directory
  | _, [] => .ok directory
  | place, (step, text) :: rest =>
      let whole (rest : List (String × String)) (text : String) :=
        if rest.isEmpty then path else text
      if isTooLong step then .error (.path .nameTooLong (whole rest text))
      else
        let next := stepFrom place step
        if directory.hasFolder next then directory.makeFolders path next rest
        else if (directory.fileAt? next).isSome then
          match rest with
          | [] => .error (.path .exists path)
          | (_, text) :: rest => .error (.path .notDirectory (whole rest text))
        else
          { directory with folders := directory.folders ++ [pathOf next] }.makeFolders path next
            rest

/-- Makes a directory with all above it, unless it is there. -/
def makeFolder (directory : Directory) (path : String) : Except Fault Directory :=
  if path.toList.contains '\x00' then .error .nullByte
  else if path.isEmpty then .error (.path .notFound path)
  else directory.makeFolders path [] (steps path)

/-- Writes a file; one at the same place is replaced. -/
def writeText (directory : Directory) (path content : String) : Except Fault Directory := do
  let place ← directory.locate path
  if directory.hasFolder place || Text.endsWith path "/" then .error (.path .isDirectory path)
  else
    let others := directory.files.filter fun file => placeOf file.1 != place
    return { directory with files := others ++ [(pathOf place, .text content)] }

/-- The names of the files and directories right inside a directory. -/
def entries (directory : Directory) (path : String) : List String :=
  let outer := placeOf path
  let inside (place : List String) : Option String :=
    if outer.isPrefixOf place then (place.drop outer.length).head? else none
  ((directory.files.filterMap fun file => inside (placeOf file.1)) ++
    directory.folders.filterMap fun folder => inside (placeOf folder)).eraseDups

end Directory

namespace File

/-- Why a file holds no document. -/
inductive DocumentFault where
  | unreadable (fault : Fault)
  | malformed (content : String) (failure : Json.Failure)
  deriving DecidableEq, Repr

def DocumentFault.message : DocumentFault → String
  | unreadable fault => fault.message
  | malformed content failure => failure.message content

def DocumentFault.severity : DocumentFault → Severity
  | unreadable fault => .reported fault.message
  | malformed content failure => failure.severity content

end File

/-- The JSON document in a file. -/
def Directory.readJson (directory : Directory) (path : String) :
    Except File.DocumentFault Value :=
  match directory.readText path with
  | .error fault => .error (.unreadable fault)
  | .ok content => (Json.parse content).mapError (.malformed content)

end PlainScript
