import ApiOutline.Number.Decimal

/-!
# Dates and times

Calendar dates and times of day as settings may hold them, the check that they exist, and how they
are shown: as a value on its own, or inside another value as the call that makes it.
-/

namespace ApiOutline.Data

open Number (digits ofInt)

/-- A date. -/
structure Date where
  year : Nat
  month : Nat
  day : Nat
deriving DecidableEq, Repr

/-- A date with a time of day. -/
structure Moment where
  date : Date
  hour : Nat
  minute : Nat
  second : Nat
  microsecond : Nat
  /-- The distance to universal time in seconds, if known. -/
  offset : Option Int
deriving DecidableEq, Repr

/-- Why a date or a time does not exist. -/
inductive CalendarFault where
  | year (value : Nat)
  | month
  | day
  | hour
  | minute
  | second
  /-- The distance to universal time, in seconds, is a day or more. -/
  | offset (seconds : Int)
deriving DecidableEq, Repr

/-- Whether a year has a leap day. -/
def isLeap (year : Nat) : Bool :=
  year % 4 = 0 && (year % 100 ≠ 0 || year % 400 = 0)

/-- The number of days of a month. -/
def daysIn (year month : Nat) : Nat :=
  if month = 2 then (if isLeap year then 29 else 28)
  else if month = 4 ∨ month = 6 ∨ month = 9 ∨ month = 11 then 30
  else 31

/-- Check that a date exists. -/
def Date.check (date : Date) : Except CalendarFault Date :=
  if date.year < 1 ∨ 9999 < date.year then .error (.year date.year)
  else if date.month < 1 ∨ 12 < date.month then .error .month
  else if date.day < 1 ∨ daysIn date.year date.month < date.day then .error .day
  else .ok date

/-- The number of seconds of a day. -/
def daySeconds : Int := 86400

/-- Check that a time exists: its distance to universal time, then its date, then the time of day. -/
def Moment.check (moment : Moment) : Except CalendarFault Moment := do
  if let some seconds := moment.offset then
    if daySeconds ≤ seconds ∨ seconds ≤ -daySeconds then throw (.offset seconds)
  let _ ← moment.date.check
  if 23 < moment.hour then throw .hour
  if 59 < moment.minute then throw .minute
  if 59 < moment.second then throw .second
  return moment

/-- Decimal digits with zeros in front up to a width. -/
def padded (width n : Nat) : List Char :=
  let ds := digits n
  List.replicate (width - ds.length) '0' ++ ds

/-- A date as year, month and day. -/
def Date.text (date : Date) : List Char :=
  padded 4 date.year ++ '-' :: padded 2 date.month ++ '-' :: padded 2 date.day

/-- A distance to universal time. -/
def offsetText (seconds : Int) : List Char :=
  let size := seconds.natAbs
  (if seconds < 0 then '-' else '+') :: padded 2 (size / 3600) ++ ':' :: padded 2 (size / 60 % 60) ++
    (if size % 60 = 0 then [] else ':' :: padded 2 (size % 60))

/-- A time as date, time of day and distance to universal time. -/
def Moment.text (m : Moment) : List Char :=
  m.date.text ++ ' ' :: padded 2 m.hour ++ ':' :: padded 2 m.minute ++ ':' :: padded 2 m.second ++
    (if m.microsecond = 0 then [] else '.' :: padded 6 m.microsecond) ++
    (match m.offset with
      | none => []
      | some seconds => offsetText seconds)

/-- Arguments in parentheses. -/
def arguments (items : List (List Char)) : List Char :=
  match items with
  | [] => "()".toList
  | item :: items => '(' :: item ++ items.flatMap (", ".toList ++ ·) ++ [')']

/-- A span of seconds, as days and seconds of a day. -/
def spanLiteral (seconds : Int) : List Char :=
  let days := Int.fdiv seconds daySeconds
  let rest := Int.fmod seconds daySeconds
  let parts :=
    (if days = 0 then [] else ["days=".toList ++ ofInt days]) ++
    (if rest = 0 then [] else ["seconds=".toList ++ ofInt rest])
  "datetime.timedelta".toList ++ arguments (if parts.isEmpty then [['0']] else parts)

/-- The zone of a distance to universal time. -/
def zoneLiteral (seconds : Int) : List Char :=
  if seconds = 0 then "datetime.timezone.utc".toList
  else "datetime.timezone".toList ++ arguments [spanLiteral seconds]

/-- A date inside another value. -/
def Date.literal (date : Date) : List Char :=
  "datetime.date".toList ++ arguments ([date.year, date.month, date.day].map digits)

/-- A time inside another value. Seconds and their fraction are left out when they are zero at the
end. -/
def Moment.literal (m : Moment) : List Char :=
  let fixed := [m.date.year, m.date.month, m.date.day, m.hour, m.minute]
  let fine :=
    if m.microsecond ≠ 0 then [m.second, m.microsecond]
    else if m.second ≠ 0 then [m.second] else []
  let zone :=
    match m.offset with
    | none => []
    | some seconds => ["tzinfo=".toList ++ zoneLiteral seconds]
  "datetime.datetime".toList ++ arguments ((fixed ++ fine).map digits ++ zone)

/-- The text of a fault. -/
def CalendarFault.message : CalendarFault → String
  | .year value => String.ofList ("year ".toList ++ digits value ++ " is out of range".toList)
  | .month => "month must be in 1..12"
  | .day => "day is out of range for month"
  | .hour => "hour must be in 0..23"
  | .minute => "minute must be in 0..59"
  | .second => "second must be in 0..59"
  | .offset seconds =>
    "offset must be a timedelta strictly between -timedelta(hours=24) and timedelta(hours=24), not " ++
      String.ofList (spanLiteral seconds) ++ "."

end ApiOutline.Data
