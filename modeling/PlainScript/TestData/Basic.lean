/-
Test data: named sets of valid or invalid values, and variables that hold for all of them.
-/

import PlainScript.Text.Case
import PlainScript.Text.Search

namespace PlainScript

structure DataSet where
  name : String
  description : Option String := none
  entries : List (String × String) := []
  isValid : Bool := true
  deriving DecidableEq, Repr

structure TestData where
  baseUrl : String := ""
  sets : List DataSet := []
  globals : List (String × String) := []
  deriving DecidableEq, Repr

/-- Which of the data sets is meant. -/
inductive DataKind where
  | valid
  | invalid
  deriving DecidableEq, Repr

/-- Every other word asks for the invalid data. -/
def DataKind.ofName (name : String) : DataKind := if name == "valid" then .valid else .invalid

namespace TestData

def setBaseUrl (data : TestData) (url : String) : TestData := { data with baseUrl := url }

def add (data : TestData) (set : DataSet) : TestData := { data with sets := data.sets ++ [set] }

/-- Whether a set has the name, or a description that mentions it in any letter case. -/
def answersTo (name : String) (set : DataSet) : Bool :=
  set.name == name || Text.contains (Text.lower (set.description.getD "")) (Text.lower name)

/-- The first set that answers to the name. -/
def find? (data : TestData) (name : String) : Option DataSet :=
  data.sets.find? (answersTo name)

/-- The entries of the first set of a kind. -/
def entries (data : TestData) (kind : DataKind) : List (String × String) :=
  match data.sets.find? fun set => set.isValid == (kind == .valid) with
  | some set => set.entries
  | none => []

end TestData

/-- Puts a value under a key: a key that is there keeps its place. -/
def putText (entries : List (String × String)) (key value : String) : List (String × String) :=
  if entries.any (·.1 == key) then
    entries.map fun entry => if entry.1 == key then (key, value) else entry
  else entries ++ [(key, value)]

end PlainScript
