/-
Dates and times of day in scalars.
-/

import PlainScript.Value.Basic
import PlainScript.Yaml.Tag

namespace PlainScript.Yaml

/-- Which part of a moment does not exist. -/
inductive MomentFault where
  | year
  | month
  | day
  | hour
  | minute
  | second
  | offset (minutes : Int)
  deriving DecidableEq, Repr

/-- Days and seconds, as a difference between moments is shown. -/
def differenceDisplay (minutes : Int) : String :=
  let days := minutes.fdiv 1440
  let seconds := (minutes - days * 1440) * 60
  "datetime.timedelta(days=" ++ toString days ++
    (if seconds == 0 then "" else ", seconds=" ++ toString seconds) ++ ")"

def MomentFault.message : MomentFault → String
  | year => "year 0 is out of range"
  | month => "month must be in 1..12"
  | day => "day is out of range for month"
  | hour => "hour must be in 0..23"
  | minute => "minute must be in 0..59"
  | second => "second must be in 0..59"
  | offset minutes =>
      "offset must be a timedelta strictly between -timedelta(hours=24) and " ++
        "timedelta(hours=24), not " ++ differenceDisplay minutes

def isLeapYear (year : Nat) : Bool :=
  year % 4 == 0 && (year % 100 != 0 || year % 400 == 0)

def daysInMonth (year month : Nat) : Nat :=
  if month == 2 then if isLeapYear year then 29 else 28
  else if [4, 6, 9, 11].contains month then 30
  else 31

def checkDate (date : Date) : Except MomentFault Date :=
  if date.year == 0 then .error .year
  else if date.month == 0 || 12 < date.month then .error .month
  else if date.day == 0 || daysInMonth date.year date.month < date.day then .error .day
  else .ok date

def checkMoment (time : Moment) : Except MomentFault Moment :=
  if time.offset.any fun minutes => 1440 ≤ minutes.natAbs then
    .error (.offset (time.offset.getD 0))
  else (checkDate time.date).bind fun _ =>
    if 23 < time.hour then .error .hour
    else if 59 < time.minute then .error .minute
    else if 59 < time.second then .error .second
    else .ok time

def natOf (text : String) : Nat :=
  text.toList.foldl (fun number digit => number * 10 + (digit.toNat - '0'.toNat)) 0

/-- The part of a match as a number; a part that is missing counts as zero. -/
def numberOf (found : Regex.Match) (group : Nat) : Nat := natOf ((found.text? group).getD "")

/-- The first six digits after the point, as millionths. -/
def millionths (digits : String) : Nat :=
  let kept := digits.toList.take 6
  natOf (.ofList kept) * Nat.pow 10 (6 - kept.length)

/-- The offset from universal time, in minutes. -/
def offsetOf (found : Regex.Match) : Option Int :=
  match found.text? 8, found.text? 9 with
  | none, _ => none
  | some _, none => some 0
  | some _, some sign =>
      let minutes : Int := numberOf found 10 * 60 + numberOf found 11
      some (if sign == "-" then -minutes else minutes)

/-- The date or the moment in a scalar; none if it has the form of neither. -/
def readMoment (text : String) : Option (Except MomentFault Value) :=
  (Tag.momentForm.search text).map fun found =>
    let date : Date := ⟨numberOf found 1, numberOf found 2, numberOf found 3⟩
    if (found.text? 4).isNone then (checkDate date).map .date
    else
      (checkMoment ⟨date, numberOf found 4, numberOf found 5, numberOf found 6,
        millionths ((found.text? 7).getD ""), offsetOf found⟩).map .moment

end PlainScript.Yaml
