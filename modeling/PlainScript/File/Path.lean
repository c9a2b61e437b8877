/-
Paths of files: the steps that they are made of, and the places that they lead to.
-/

import PlainScript.Text.Blank
import PlainScript.Text.Search

namespace PlainScript.File

/-- The pieces of a path between slashes. -/
def pieces (path : String) : List String :=
  (Chars.splitAt (· == '/') path.toList).map .ofList

/-- Whether a piece of a path leads anywhere; an empty one and a single dot do not. -/
def isStep (piece : String) : Bool := !piece.isEmpty && piece != "."

/-- The steps of a path, each with the text of the path up to it. A path from the root begins
with a step of its own. -/
def steps (path : String) : List (String × String) :=
  let all := pieces path
  (if Text.startsWith path "/" then [("/", "/")] else []) ++
    (all.zipIdx 1).filterMap fun (piece, count) =>
      if isStep piece then some (piece, "/".intercalate (all.take count)) else none

/-- Where a step leads from a place; two dots lead back. -/
def stepFrom (place : List String) (step : String) : List String :=
  if step != ".." then place ++ [step]
  else match place.getLast? with
    | none | some ".." => place ++ [step]
    | some "/" => place
    | some _ => place.dropLast

/-- The place that a path names, if all its steps can be made. -/
def placeOf (path : String) : List String :=
  (steps path).foldl (fun place step => stepFrom place step.1) []

/-- The path of a place. -/
def pathOf (place : List String) : String := "/".intercalate place

/-- The places on the way to a place, itself and the start included. -/
def ways : List String → List (List String)
  | [] => [[]]
  | first :: rest => [] :: (ways rest).map (first :: ·)

/-- Whether a step is longer than names of files can be. -/
def isTooLong (step : String) : Bool := 255 < step.utf8ByteSize

/-- The path of an entry of a directory. -/
def join (directory name : String) : String :=
  if Text.startsWith name "/" || directory.isEmpty then name
  else if Text.endsWith directory "/" then directory ++ name
  else directory ++ "/" ++ name

/-- The name without its last extension, and the extension with its dot. Dots in front of the
name belong to the name. -/
def splitExtension (path : String) : String × String :=
  let chars := path.toList
  let name := (chars.reverse.takeWhile (· != '/')).reverse
  let dots := name.takeWhile (· == '.')
  let rest := name.dropWhile (· == '.')
  let tail := (rest.reverse.takeWhile (· != '.')).reverse
  if dots.length + tail.length == name.length then (path, "")
  else
    let keep := chars.length - (tail.length + 1)
    (.ofList (chars.take keep), .ofList (chars.drop keep))

end PlainScript.File
