/-
Values as documents hold them. A record keeps its entries in the order of the document.
-/

import PlainScript.Number.Double

namespace PlainScript

structure Date where
  year : Nat
  month : Nat
  day : Nat
  deriving DecidableEq, Repr

/-- A time of day on a date; the offset from universal time is in minutes. -/
structure Moment where
  date : Date
  hour : Nat
  minute : Nat
  second : Nat
  microsecond : Nat
  offset : Option Int
  deriving DecidableEq, Repr

inductive Value where
  | null
  | bool (truth : Bool)
  | int (number : Int)
  | float (number : Number.Double)
  | text (content : String)
  | bytes (content : List UInt8)
  | date (day : Date)
  | moment (time : Moment)
  | list (items : List Value)
  | pair (first second : Value)
  | set (items : List Value)
  | record (entries : List (Value × Value))
  deriving Inhabited

namespace Value

/-- Null, zero, false and whatever is empty count as absent. -/
def isPresent : Value → Bool
  | null => false
  | bool truth => truth
  | int number => number != 0
  | float number => !number.isZero
  | text content => !content.isEmpty
  | bytes content => !content.isEmpty
  | list items => !items.isEmpty
  | set items => !items.isEmpty
  | record entries => !entries.isEmpty
  | date _ | moment _ | pair _ _ => true

/-- A truth value counts as one or zero among the numbers. -/
def number? : Value → Option Number.Double
  | bool truth => some (.ofInt (if truth then 1 else 0))
  | int number => some (.ofInt number)
  | float number => some number
  | _ => none

def integer? : Value → Option Int
  | bool truth => some (if truth then 1 else 0)
  | int number => some number
  | float number => number.toInt?
  | _ => none

/-- Numbers are the same when they have the same value, whatever their kind. -/
def sameNumber (left right : Value) : Bool :=
  match left.integer?, right.integer? with
  | some first, some second => first == second
  | none, none =>
      match left.number?, right.number? with
      | some first, some second => first == second && first != .undefined
      | _, _ => false
  | _, _ => false

mutual

/-- Equality of values: numbers by value, records regardless of the order of entries. -/
def same : Value → Value → Bool
  | null, null => true
  | text first, text second => first == second
  | bytes first, bytes second => first == second
  | date first, date second => first == second
  | moment first, moment second => first == second
  | list first, list second => sameItems first second
  | pair first second, pair third fourth => same first third && same second fourth
  | set first, set second => first.length == second.length && includesItems first second
  | record first, record second => first.length == second.length && includesEntries first second
  | left, right => sameNumber left right

def sameItems : List Value → List Value → Bool
  | [], [] => true
  | first :: firsts, second :: seconds => same first second && sameItems firsts seconds
  | _, _ => false

def includesItems : List Value → List Value → Bool
  | [], _ => true
  | first :: firsts, seconds =>
      seconds.any (fun second => same first second) && includesItems firsts seconds

def includesEntries : List (Value × Value) → List (Value × Value) → Bool
  | [], _ => true
  | (key, value) :: rest, entries =>
      entries.any (fun entry => same key entry.1 && same value entry.2) &&
        includesEntries rest entries

end

/-- What a value is made of: its items, characters or bytes, or the keys of a record. -/
def members? : Value → Option (List Value)
  | list items | set items => some items
  | pair first second => some [first, second]
  | text content => some (content.toList.map fun c => text (.singleton c))
  | bytes content => some (content.map fun byte => int byte.toNat)
  | record entries => some (entries.map (·.1))
  | _ => none

def isText : Value → Bool
  | text _ => true
  | _ => false

/-- The value of the last entry whose key is the text. -/
def field? (value : Value) (key : String) : Option Value :=
  match value with
  | record entries =>
      (entries.find? fun entry => match entry.1 with
        | text name => name == key
        | _ => false).map (·.2)
  | _ => none

/-- A record with text keys. -/
def ofFields (fields : List (String × Value)) : Value :=
  record (fields.map fun field => (text field.1, field.2))

/-- A record of texts. -/
def ofTexts (fields : List (String × String)) : Value :=
  ofFields (fields.map fun field => (field.1, text field.2))

def texts (items : List String) : Value := list (items.map text)

end Value

/-- Puts an entry into a record's entries: an equal key keeps its place and takes the value. -/
def putEntry (entries : List (Value × Value)) (key value : Value) : List (Value × Value) :=
  if entries.any (fun entry => entry.1.same key) then
    entries.map fun entry => if entry.1.same key then (entry.1, value) else entry
  else entries ++ [(key, value)]

/-- The entries of a record into which all of the given ones are put in turn. -/
def putAll (entries : List (Value × Value)) : List (Value × Value) :=
  entries.foldl (fun sofar entry => putEntry sofar entry.1 entry.2) []

end PlainScript
