import Provision.Calendar
import Provision.Text.Utf8

namespace Provision

/-- A point in time by the calendar and the clock. -/
structure Moment where
  seconds : Int
  nanoseconds : Nat
  year : Int
  month : Nat
  day : Nat
  hour : Nat
  minute : Nat
  second : Nat
  deriving DecidableEq, Repr

namespace Moment

/-- The days of four centuries, after which the calendar begins anew. -/
def eraDays : Nat := 146097

/-- The moment so many seconds after the start of the epoch. -/
def ofSeconds (seconds : Int) (nanoseconds : Nat := 0) : Moment :=
  let days := seconds.fdiv 86400
  let ofDay := (seconds - days * 86400).toNat
  let eras := if days < 0 then (-days).toNat / eraDays + 1 else 0
  let date := Date.ofDays (days + eras * eraDays).toNat
  { seconds, nanoseconds
    year := (date.year : Int) - eras * 400
    month := date.month, day := date.day
    hour := ofDay / 3600, minute := ofDay % 3600 / 60, second := ofDay % 60 }

/-- The days from the start of the epoch to a day, of which the month may be beyond its year. -/
def dayNumber (year : Int) (month day : Int) : Int :=
  let months := year * 12 + (month - 1)
  let year := months.fdiv 12
  let month := (months - year * 12).toNat + 1
  let eras := if year < 1970 then ((1970 - year).toNat / 400 + 1) else 0
  let date : Date := ⟨(year + eras * 400).toNat, month, 1⟩
  (date.dayNumber : Int) - eras * eraDays + (day - 1)

/-- The seconds from the start of the epoch to a point in time. -/
def secondsOf (year month day hour minute second : Int) : Int :=
  dayNumber year month day * 86400 + hour * 3600 + minute * 60 + second

/-- The day of the week, from Sunday on. -/
def weekday (m : Moment) : Nat := ((m.seconds.fdiv 86400 + 4) % 7).toNat

/-- The day of the year, from zero on. -/
def yearDay (m : Moment) : Nat :=
  (dayNumber m.year m.month m.day - dayNumber m.year 1 1).toNat

def dayNames : List String :=
  ["Sunday", "Monday", "Tuesday", "Wednesday", "Thursday", "Friday", "Saturday"]

def monthNames : List String :=
  ["January", "February", "March", "April", "May", "June", "July", "August", "September",
   "October", "November", "December"]

/-- The weeks that a year has where weeks belong to the year of their Thursday. -/
def weeksOf (year : Int) : Nat :=
  let first := ((dayNumber year 1 1 + 4) % 7).toNat
  let last := ((dayNumber year 12 31 + 4) % 7).toNat
  if first = 4 || last = 4 then 53 else 52

/-- The year and the week of a day where weeks begin on Monday and belong to the year of their
Thursday. -/
def yearWeek (m : Moment) : Int × Nat :=
  let day := (m.weekday + 6) % 7
  let week : Int := ((m.yearDay : Int) - day + 10).fdiv 7
  if week < 1 then (m.year - 1, weeksOf (m.year - 1))
  else if weeksOf m.year < week then (m.year + 1, 1)
  else (m.year, week.toNat)

/-- How a field of a format is filled up. -/
structure Filling where
  fill : Option Char
  upper : Bool
  swapped : Bool
  width : Option Nat

/-- A number that is filled up to a width in the usual way, unless it is asked for another one. -/
def number (f : Filling) (usual : Char) (width : Nat) (n : Int) : Chars :=
  let digits := Nat.toDigits 10 n.natAbs
  let sign : Chars := if n < 0 then ['-'] else []
  let width := f.width.getD width
  match f.fill.getD usual with
  | '-' => sign ++ digits
  | '_' => List.leftpad width ' ' (sign ++ digits)
  | _ => sign ++ digits.leftpad (width - sign.length) '0'

/-- A text that is filled up to a width if that is asked for. -/
def word (f : Filling) (t : Chars) : Chars :=
  let t := if f.upper then t.map Char.toUpper else t
  match f.width with
  | none => t
  | some w => t.leftpad w (if f.fill = some '0' then '0' else ' ')

/-- The flags and the width of a field. -/
def filling : Filling → Chars → Filling × Chars
  | f, '-' :: rest => filling { f with fill := some '-' } rest
  | f, '_' :: rest => filling { f with fill := some '_' } rest
  | f, '0' :: rest => filling { f with fill := some '0' } rest
  | f, '+' :: rest => filling { f with fill := some '0' } rest
  | f, '^' :: rest => filling { f with upper := true } rest
  | f, '#' :: rest => filling { f with swapped := true } rest
  | f, cs =>
    let digits := cs.takeWhile Char.isDigit
    ({ f with width := Text.readNat? 10 digits }, cs.drop digits.length)

/-- The conversions that stand for others. -/
def composed? (c : Char) : Option String :=
  match c with
  | 'c' => some "%a %b %e %H:%M:%S %Y"
  | 'D' | 'x' => some "%m/%d/%y"
  | 'F' => some "%Y-%m-%d"
  | 'T' | 'X' => some "%H:%M:%S"
  | 'R' => some "%H:%M"
  | 'r' => some "%I:%M:%S %p"
  | _ => none

/-- What a conversion stands for, which is not made of others. -/
def field? (m : Moment) (f : Filling) (c : Char) : Option Chars :=
  let name (names : List String) (i : Nat) : Chars := (names.getD i "").toList
  let swap (t : Chars) : Chars := if f.swapped then t.map Char.toUpper else t
  let half := if m.hour % 12 = 0 then 12 else m.hour % 12
  let morning := m.hour < 12
  match c with
  | '%' => some (word f ['%'])
  | 'n' => some (word f ['\n'])
  | 't' => some (word f ['\t'])
  | 'Y' => some (number f '0' 4 m.year)
  | 'G' => some (number f '0' 4 m.yearWeek.1)
  | 'y' => some (number f '0' 2 (m.year % 100))
  | 'g' => some (number f '0' 2 (m.yearWeek.1 % 100))
  | 'C' => some (number f '0' 2 (m.year.fdiv 100))
  | 'm' => some (number f '0' 2 m.month)
  | 'd' => some (number f '0' 2 m.day)
  | 'e' => some (number f '_' 2 m.day)
  | 'H' => some (number f '0' 2 m.hour)
  | 'k' => some (number f '_' 2 m.hour)
  | 'I' => some (number f '0' 2 half)
  | 'l' => some (number f '_' 2 half)
  | 'M' => some (number f '0' 2 m.minute)
  | 'S' => some (number f '0' 2 m.second)
  | 's' => some (number f '-' 1 m.seconds)
  | 'N' =>
    let digits := Text.padded 9 m.nanoseconds
    some (match f.width with
      | some w => digits.take w
      | none => if f.fill = some '-' then (digits.reverse.dropWhile (· == '0')).reverse else digits)
  | 'j' => some (number f '0' 3 (m.yearDay + 1))
  | 'u' => some (number f '0' 1 (if m.weekday = 0 then 7 else m.weekday))
  | 'w' => some (number f '0' 1 m.weekday)
  | 'U' => some (number f '0' 2 ((m.yearDay + 7 - m.weekday) / 7))
  | 'W' => some (number f '0' 2 ((m.yearDay + 7 - (m.weekday + 6) % 7) / 7))
  | 'V' => some (number f '0' 2 m.yearWeek.2)
  | 'q' => some (number f '0' 1 ((m.month + 2) / 3))
  | 'a' => some (word f (swap ((name dayNames m.weekday).take 3)))
  | 'A' => some (word f (swap (name dayNames m.weekday)))
  | 'b' | 'h' => some (word f (swap ((name monthNames (m.month - 1)).take 3)))
  | 'B' => some (word f (swap (name monthNames (m.month - 1))))
  | 'p' =>
    some (word f (if f.swapped then (if morning then "am" else "pm").toList
      else (if morning then "AM" else "PM").toList))
  | 'P' => some (word f (if morning then "am" else "pm").toList)
  | 'Z' => some (word f (if f.swapped then "utc".toList else "UTC".toList))
  | 'z' => some "+0000".toList
  | _ => none

/-- Writes a point in time by a format. -/
def format (m : Moment) : Nat → Chars → Chars
  | 0, _ => []
  | _ + 1, [] => []
  | room + 1, '%' :: rest =>
    let (f, after) := filling ⟨none, false, false, none⟩ rest
    let after := match after with
      | 'E' :: c :: more | 'O' :: c :: more => c :: more
      | _ => after
    match after with
    | ':' :: 'z' :: rest => "+00:00".toList ++ format m room rest
    | ':' :: ':' :: 'z' :: rest => "+00:00:00".toList ++ format m room rest
    | c :: more =>
      match composed? c with
      | some text => word f (format m room text.toList) ++ format m room more
      | none =>
        match field? m f c with
        | some text => text ++ format m room more
        | none => '%' :: format m room rest
    | [] => '%' :: rest
  | room + 1, c :: rest => c :: format m room rest

/-- Writes a point in time by a format. -/
def write (m : Moment) (text : Chars) : Chars := m.format (2 * text.length + 40) text

end Moment

end Provision
