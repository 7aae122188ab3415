import Provision.Text.Digits

namespace Provision

/-- A day of the Gregorian calendar, also before its introduction. -/
structure Date where
  year : Nat
  month : Nat
  day : Nat
  deriving DecidableEq, Repr

namespace Calendar

/-- Every fourth year is a leap year, but of the full centuries only every fourth. -/
def isLeap (year : Nat) : Bool :=
  year % 4 == 0 && (year % 100 != 0 || year % 400 == 0)

def yearLength (year : Nat) : Nat := if isLeap year then 366 else 365

def monthLength (year month : Nat) : Nat :=
  if month = 2 then if isLeap year then 29 else 28
  else if month = 4 ∨ month = 6 ∨ month = 9 ∨ month = 11 then 30
  else 31

/-- The first year of the count of days. -/
def epoch : Nat := 1970

end Calendar

namespace Date

open Calendar

/-- A date that the calendar has. -/
def IsValid (d : Date) : Prop :=
  1 ≤ d.month ∧ d.month ≤ 12 ∧ 1 ≤ d.day ∧ d.day ≤ monthLength d.year d.month

/-- The days of all years from the epoch up to a year. -/
def daysBeforeYear (year : Nat) : Nat :=
  (List.range' epoch (year - epoch)).foldl (fun days y => days + yearLength y) 0

/-- The days of all months of a year up to a month. -/
def daysBeforeMonth (year month : Nat) : Nat :=
  (List.range' 1 (month - 1)).foldl (fun days m => days + monthLength year m) 0

/-- The days from the first of January of the epoch to a later date. -/
def dayNumber (d : Date) : Nat :=
  daysBeforeYear d.year + daysBeforeMonth d.year d.month + (d.day - 1)

/-- Lower and first of two digits of a mixed number whose highest digit may be one too large: a leap
day makes the last of the periods of `length` days in a longer one longer than the others. -/
def period (count length days : Nat) : Nat := min (days / length) (count - 1)

/-- The date of a day that is counted from the epoch on. Years are taken to begin in March, so that
a leap day ends a year, a cycle of four years and an era of four centuries. -/
def ofDays (days : Nat) : Date :=
  let sinceMarch := days + 719468
  let era := sinceMarch / 146097
  let ofEra := sinceMarch % 146097
  let century := period 4 36524 ofEra
  let ofCentury := ofEra - 36524 * century
  let cycle := ofCentury / 1461
  let ofCycle := ofCentury % 1461
  let year := period 4 365 ofCycle
  let ofYear := ofCycle - 365 * year
  let month := (5 * ofYear + 2) / 153
  let marchYear := 400 * era + 100 * century + 4 * cycle + year
  { year := if month < 10 then marchYear else marchYear + 1
    month := if month < 10 then month + 3 else month - 9
    day := ofYear - (153 * month + 2) / 5 + 1 }

end Date

/-- The instant so many seconds after the start of the epoch, in the form of ISO 8601. -/
def timestamp (seconds : Nat) : String :=
  let date := Date.ofDays (seconds / 86400)
  let ofDay := seconds % 86400
  String.ofList (Text.padded 4 date.year ++ '-' :: Text.padded 2 date.month ++
    '-' :: Text.padded 2 date.day ++ 'T' :: Text.padded 2 (ofDay / 3600) ++
    ':' :: Text.padded 2 (ofDay % 3600 / 60) ++ ':' :: Text.padded 2 (ofDay % 60) ++ ['Z'])

end Provision
