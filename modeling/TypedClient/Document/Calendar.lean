import TypedClient.Text.Basic

/-!
Calendar dates and points of time of the Gregorian calendar, years 1 to 9999, with their ISO texts
and the reasons for which a date or time does not exist.
-/

namespace TypedClient

structure Date where
  year : Nat
  month : Nat
  day : Nat
  deriving DecidableEq, Repr

structure Timestamp where
  date : Date
  hour : Nat
  minute : Nat
  second : Nat
  microsecond : Nat
  offset : Option Int
  deriving DecidableEq, Repr

namespace Calendar

inductive Fault where
  | year (year : Nat)
  | month
  | day
  | hour
  | minute
  | second
  | offset (minutes : Int)
  deriving DecidableEq, Repr

def leapYear (year : Nat) : Bool :=
  year % 4 == 0 && (year % 100 != 0 || year % 400 == 0)

def daysIn (year month : Nat) : Nat :=
  if month = 2 then (if leapYear year then 29 else 28)
  else if month ∈ [4, 6, 9, 11] then 30
  else 31

def date (year month day : Nat) : Except Fault Date :=
  if year = 0 ∨ 9999 < year then .error (.year year)
  else if month = 0 ∨ 12 < month then .error .month
  else if day = 0 ∨ daysIn year month < day then .error .day
  else .ok ⟨year, month, day⟩

def timestamp (year month day hour minute second microsecond : Nat) (offset : Option Int) :
    Except Fault Timestamp :=
  match offset.filter fun minutes => 24 * 60 ≤ minutes.natAbs with
  | some minutes => .error (.offset minutes)
  | none =>
    match date year month day with
    | .error fault => .error fault
    | .ok date =>
      if 23 < hour then .error .hour
      else if 59 < minute then .error .minute
      else if 59 < second then .error .second
      else .ok ⟨date, hour, minute, second, microsecond, offset⟩

/-- A span of time as whole days, which may be negative, and seconds of a day, which may not. -/
def spanText (minutes : Int) : Text :=
  let days := minutes.fdiv (24 * 60)
  let seconds := (minutes.fmod (24 * 60)).toNat * 60
  let parts : List Text :=
    (if days = 0 then [] else ["days=" ++ Text.decimalInt days]) ++
      (if seconds = 0 then [] else ["seconds=" ++ Text.decimal seconds])
  "datetime.timedelta(" ++ (", " : Text).intercalate parts ++ ")"

def Fault.message : Fault → Text
  | .year n => "year " ++ Text.decimal n ++ " is out of range"
  | .month => "month must be in 1..12"
  | .day => "day is out of range for month"
  | .hour => "hour must be in 0..23"
  | .minute => "minute must be in 0..59"
  | .second => "second must be in 0..59"
  | .offset minutes =>
    "offset must be a timedelta strictly between -timedelta(hours=24) and timedelta(hours=24), not "
      ++ spanText minutes ++ "."

def daysBeforeYear (year : Nat) : Nat :=
  let past := year - 1
  past * 365 + past / 4 - past / 100 + past / 400

def dayNumber (date : Date) : Nat :=
  let monthsBefore := List.range' 1 (date.month - 1)
  daysBeforeYear date.year + date.day
    + monthsBefore.foldl (fun days month => days + daysIn date.year month) 0

end Calendar

def Timestamp.instant? (time : Timestamp) : Option Int :=
  time.offset.map fun offset =>
    let minutes : Int := (Calendar.dayNumber time.date * 24 + time.hour) * 60 + time.minute
    ((minutes - offset) * 60 + time.second) * 1000000 + time.microsecond

def Date.text (date : Date) : Text :=
  Text.padded 4 date.year ++ '-' :: Text.padded 2 date.month ++ '-' :: Text.padded 2 date.day

def Timestamp.text (time : Timestamp) : Text :=
  let fraction : Text := if time.microsecond = 0 then [] else '.' :: Text.padded 6 time.microsecond
  let zone : Text := match time.offset with
    | none => []
    | some minutes =>
      (if minutes < 0 then '-' else '+') :: Text.padded 2 (minutes.natAbs / 60)
        ++ ':' :: Text.padded 2 (minutes.natAbs % 60)
  time.date.text ++ ' ' :: Text.padded 2 time.hour ++ ':' :: Text.padded 2 time.minute
    ++ ':' :: Text.padded 2 time.second ++ fraction ++ zone

end TypedClient
