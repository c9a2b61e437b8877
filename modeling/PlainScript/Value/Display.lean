/-
Values as they are shown inside text: a text by itself stands bare, inside a list it is quoted.
-/

import PlainScript.Number.Integer
import PlainScript.Number.Text
import PlainScript.Text.Printable
import PlainScript.Value.Basic

namespace PlainScript

/-- A number in at least so many digits. -/
def padded (width number : Nat) : String :=
  let digits := toString number
  .ofList (List.replicate (width - digits.length) '0') ++ digits

def Date.text (date : Date) : String :=
  padded 4 date.year ++ "-" ++ padded 2 date.month ++ "-" ++ padded 2 date.day

def offsetText (minutes : Int) : String :=
  (if minutes < 0 then "-" else "+") ++ padded 2 (minutes.natAbs / 60) ++ ":" ++
    padded 2 (minutes.natAbs % 60)

def Moment.text (time : Moment) : String :=
  time.date.text ++ " " ++ padded 2 time.hour ++ ":" ++ padded 2 time.minute ++ ":" ++
    padded 2 time.second ++
    (if time.microsecond == 0 then "" else "." ++ padded 6 time.microsecond) ++
    (match time.offset with
      | none => ""
      | some minutes => offsetText minutes)

def Date.arguments (date : Date) : List String :=
  [toString date.year, toString date.month, toString date.day]

def offsetDisplay (minutes : Int) : String :=
  if minutes == 0 then "datetime.timezone.utc"
  else if minutes < 0 then
    "datetime.timezone(datetime.timedelta(days=-1, seconds=" ++ toString (86400 + minutes * 60) ++
      "))"
  else "datetime.timezone(datetime.timedelta(seconds=" ++ toString (minutes * 60) ++ "))"

def Moment.display (time : Moment) : String :=
  let always := time.date.arguments ++ [toString time.hour, toString time.minute]
  let micro := if time.microsecond == 0 then [] else [toString time.microsecond]
  let second := if time.second == 0 && micro.isEmpty then [] else [toString time.second]
  let zone := match time.offset with
    | none => []
    | some minutes => ["tzinfo=" ++ offsetDisplay minutes]
  "datetime.datetime(" ++ ", ".intercalate (always ++ second ++ micro ++ zone) ++ ")"

/-- The display of bytes: printable characters stand as they are. -/
def displayBytes (bytes : List UInt8) : String :=
  let chars := bytes.map fun byte => Char.ofNat byte.toNat
  let mark := Text.displayMark chars
  let shown := chars.flatMap fun c =>
    if c == mark || c == '\\' || c == '\n' || c == '\r' || c == '\t' || c.toNat < 127 then
      Text.displayChar mark c
    else Text.escapeCode c.toNat
  .ofList ('b' :: mark :: shown ++ [mark])

namespace Value

mutual

/-- The display of a value inside another one. -/
def display : Value → String
  | null => "None"
  | bool truth => if truth then "True" else "False"
  | int number => toString number
  | float number => number.text
  | text content => Text.display content
  | bytes content => displayBytes content
  | date day => "datetime.date(" ++ ", ".intercalate day.arguments ++ ")"
  | moment time => time.display
  | list items => "[" ++ ", ".intercalate (displayItems items) ++ "]"
  | pair first second => "(" ++ display first ++ ", " ++ display second ++ ")"
  | set items =>
      if items.isEmpty then "set()" else "\x7b" ++ ", ".intercalate (displayItems items) ++ "\x7d"
  | record entries => "\x7b" ++ ", ".intercalate (displayEntries entries) ++ "\x7d"

def displayItems : List Value → List String
  | [] => []
  | item :: rest => display item :: displayItems rest

def displayEntries : List (Value × Value) → List String
  | [] => []
  | (key, value) :: rest => (display key ++ ": " ++ display value) :: displayEntries rest

end

/-- The text of a value by itself. -/
def shown : Value → String
  | text content => content
  | date day => day.text
  | moment time => time.text
  | other => other.display

mutual

/-- Whether every whole number in a value is short enough to be written. -/
def hasShortNumbers : Value → Bool
  | int number => Number.isShort number
  | list items | set items => haveShortNumbers items
  | pair first second => hasShortNumbers first && hasShortNumbers second
  | record entries => entriesHaveShortNumbers entries
  | _ => true

def haveShortNumbers : List Value → Bool
  | [] => true
  | item :: items => hasShortNumbers item && haveShortNumbers items

def entriesHaveShortNumbers : List (Value × Value) → Bool
  | [] => true
  | (key, value) :: entries =>
      hasShortNumbers key && hasShortNumbers value && entriesHaveShortNumbers entries

end

/-- The text of a value by itself, if its numbers have one. -/
def tell (value : Value) : Except Number.Unwritable String :=
  if value.hasShortNumbers then .ok value.shown else .error .overlong

end Value

end PlainScript
