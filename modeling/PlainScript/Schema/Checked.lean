/-
Results of checking a document. Faults of all parts are kept, in the order of the parts.
-/

namespace PlainScript.Schema

/-- What is wrong with a value of a document. -/
inductive Cause where
  | missing
  | notText
  | notInt
  | unreadableInt
  | fractionalInt
  | infiniteInt
  | oversizedInt
  | notBool
  | unreadableBool
  | notList
  | notArray
  | notMapping
  | notModel (model : String)
  | notObject
  | notAmong (choices : String)
  | invalid (reason : String)
  | malformed
  deriving DecidableEq, Repr

def Cause.message : Cause → String
  | missing => "Field required"
  | notText => "Input should be a valid string"
  | notInt => "Input should be a valid integer"
  | unreadableInt => "Input should be a valid integer, unable to parse string as an integer"
  | fractionalInt => "Input should be a valid integer, got a number with a fractional part"
  | infiniteInt => "Input should be a finite number"
  | oversizedInt => "Unable to parse input string as an integer, exceeded maximum size"
  | notBool => "Input should be a valid boolean"
  | unreadableBool => "Input should be a valid boolean, unable to interpret input"
  | notList => "Input should be a valid list"
  | notArray => "Input should be a valid array"
  | notMapping => "Input should be a valid dictionary"
  | notModel model => "Input should be a valid dictionary or instance of " ++ model
  | notObject => "Input should be an object"
  | notAmong choices => "Input should be " ++ choices
  | invalid reason => "Value error, " ++ reason
  | malformed => "Invalid JSON"

/-- A cause and the way from the top of the document to the value. -/
structure Fault where
  path : List String
  cause : Cause
  deriving DecidableEq, Repr

def Fault.message (fault : Fault) : String :=
  ".".intercalate fault.path ++ ": " ++ fault.cause.message

/-- All faults in one line. -/
def report (faults : List Fault) : String := "; ".intercalate (faults.map Fault.message)

inductive Checked (α : Type) where
  | valid (value : α)
  | faulty (faults : List Fault)
  deriving DecidableEq, Repr

namespace Checked

def fault {α : Type} (cause : Cause) : Checked α := .faulty [⟨[], cause⟩]

def map {α β : Type} (f : α → β) : Checked α → Checked β
  | valid value => .valid (f value)
  | faulty faults => .faulty faults

/-- Applies a checked function to a checked value and keeps the faults of both. -/
def apply {α β : Type} : Checked (α → β) → Checked α → Checked β
  | valid f, valid value => .valid (f value)
  | valid _, faulty faults => .faulty faults
  | faulty faults, valid _ => .faulty faults
  | faulty first, faulty second => .faulty (first ++ second)

instance : Applicative Checked where
  pure := .valid
  seq f value := apply f (value ())

/-- A further check that needs the value. -/
def andThen {α β : Type} (checked : Checked α) (next : α → Checked β) : Checked β :=
  match checked with
  | valid value => next value
  | faulty faults => .faulty faults

/-- Moves the faults below a step of the way. -/
def under {α : Type} (step : String) : Checked α → Checked α
  | valid value => .valid value
  | faulty faults => .faulty (faults.map fun fault => ⟨step :: fault.path, fault.cause⟩)

/-- All values, or all faults. -/
def all {α : Type} : List (Checked α) → Checked (List α)
  | [] => .valid []
  | first :: rest => apply (first.map List.cons) (all rest)

def toExcept {α : Type} : Checked α → Except (List Fault) α
  | valid value => .ok value
  | faulty faults => .error faults

end Checked

end PlainScript.Schema
