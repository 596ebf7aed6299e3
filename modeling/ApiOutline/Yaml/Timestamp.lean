import ApiOutline.Data.Calendar
import ApiOutline.Yaml.Fault

/-!
# Dates and times in YAML

A date is year, month and day; a time follows it after a letter `T` or blanks, with seconds, perhaps
a fraction of a second, and perhaps the distance to universal time.
-/

namespace ApiOutline.Yaml

open Data (Date Moment)
open Number (isDigit)

/-- The distance to universal time as it is written. -/
structure ZoneText where
  negative : Bool
  hour : List Char
  minute : List Char

/-- A time of day as it is written. -/
structure TimeText where
  hour : List Char
  minute : List Char
  second : List Char
  fraction : List Char
  zone : Option ZoneText

/-- A date as it is written, perhaps with a time. -/
structure DateText where
  year : List Char
  month : List Char
  day : List Char
  time : Option TimeText

/-- As many digits as there are, up to `most` and at least `least`, and the rest. -/
def digitRun (least most : Nat) (text : List Char) : Option (List Char × List Char) :=
  let digits := (text.take most).takeWhile isDigit
  if digits.length < least then none else some (digits, text.drop digits.length)

/-- The rest after a character that has to be there. -/
def expect (c : Char) : List Char → Option (List Char)
  | d :: rest => if c = d then some rest else none
  | [] => none

/-- The distance to universal time up to the end of a text, if there is one. -/
def zoneText? (text : List Char) : Option (Option ZoneText) :=
  match text.dropWhile fun c => c == ' ' || c == '\t' with
  | [] => if text.isEmpty then some none else none
  | ['Z'] => some (some ⟨false, [], []⟩)
  | sign :: rest =>
    if sign = '+' ∨ sign = '-' then do
      let (hour, rest) ← digitRun 1 2 rest
      match rest with
      | [] => some (some ⟨sign = '-', hour, []⟩)
      | rest =>
        let (minute, rest) ← digitRun 2 2 (← expect ':' rest)
        if rest.isEmpty then some (some ⟨sign = '-', hour, minute⟩) else none
    else none

/-- A time of day up to the end of a text. -/
def timeText? (text : List Char) : Option TimeText := do
  let (hour, rest) ← digitRun 1 2 text
  let (minute, rest) ← digitRun 2 2 (← expect ':' rest)
  let (second, rest) ← digitRun 2 2 (← expect ':' rest)
  let (fraction, rest) :=
    match rest with
    | '.' :: rest => (rest.takeWhile isDigit, rest.dropWhile isDigit)
    | rest => ([], rest)
  let zone ← zoneText? rest
  return ⟨hour, minute, second, fraction, zone⟩

/-- The rest of a text after what stands between a date and a time. -/
def afterDate? : List Char → Option (List Char)
  | [] => none
  | c :: rest =>
    if c = 'T' ∨ c = 't' then some rest
    else if c = ' ' ∨ c = '\t' then some (rest.dropWhile fun c => c == ' ' || c == '\t')
    else none

/-- A date, perhaps with a time, that takes up a whole text. -/
def dateText? (text : List Char) : Option DateText := do
  let (year, rest) ← digitRun 4 4 text
  let (month, rest) ← digitRun 1 2 (← expect '-' rest)
  let (day, rest) ← digitRun 1 2 (← expect '-' rest)
  if rest.isEmpty then return ⟨year, month, day, none⟩
  let time ← timeText? (← afterDate? rest)
  return ⟨year, month, day, some time⟩

/-- Whether the form of a text is that of a date or a time. A date alone has two digits for month and
day. -/
def looksTimestamp (text : List Char) : Bool :=
  match dateText? text with
  | none => false
  | some date => date.time.isSome || (date.month.length == 2 && date.day.length == 2)

/-- The date that is written. -/
def DateText.date (text : DateText) : Date :=
  ⟨Number.value text.year, Number.value text.month, Number.value text.day⟩

/-- Millionths of a second, of which digits after the sixth do not count. -/
def microseconds (fraction : List Char) : Nat :=
  Number.value (fraction.take 6 ++ List.replicate (6 - fraction.length) '0')

/-- The distance to universal time in seconds. -/
def ZoneText.seconds (zone : ZoneText) : Int :=
  let size : Int := Number.value zone.hour * 3600 + Number.value zone.minute * 60
  if zone.negative then -size else size

end ApiOutline.Yaml
