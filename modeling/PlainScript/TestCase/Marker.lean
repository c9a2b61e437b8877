/-
Markers of values that an instruction does not supply.
-/

import PlainScript.Text.Alphabet
import PlainScript.Text.Search

namespace PlainScript.Marker

def opening : List Char := "TODO: ".toList

def closing : List Char := " not specified".toList

/-- The marker that stands in for a field. -/
def unspecified (field : String) : String := .ofList (opening ++ field.toList ++ closing)

/-- The characters of a field in a marker. -/
def isFieldChar (c : Char) : Bool := Text.isWord c || c == ' '

/-- Where the closing words begin for the last time. -/
def lastClosing? : List Char → Option Nat
  | [] => none
  | c :: rest =>
      match lastClosing? rest with
      | some index => some (index + 1)
      | none => if closing.isPrefixOf (c :: rest) then some 0 else none

/-- The field of a marker that begins here; it is as long as it can be. -/
def fieldAt? (chars : List Char) : Option (List Char) :=
  if opening.isPrefixOf chars then
    let run := (chars.drop opening.length).takeWhile isFieldChar
    (lastClosing? (run.drop 1)).map fun index => run.take (index + 1)
  else none

def markerOf (field : List Char) : List Char := opening ++ field ++ closing

/-- The markers in a text; the first `skip` characters belong to the one before. -/
def findFrom : (skip : Nat) → List Char → List (List Char)
  | _, [] => []
  | skip + 1, _ :: rest => findFrom skip rest
  | 0, c :: rest =>
      match fieldAt? (c :: rest) with
      | some field =>
          let marker := markerOf field
          marker :: findFrom (marker.length - 1) rest
      | none => findFrom 0 rest

def findAll (text : String) : List String := (findFrom 0 text.toList).map .ofList

def occursIn (text : String) : Bool := !(findAll text).isEmpty

end PlainScript.Marker
