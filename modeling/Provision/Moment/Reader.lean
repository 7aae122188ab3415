import Provision.Moment.Basic

/-!
How points in time are read that are described in words and numbers.
-/

namespace Provision.Moment

/-- A part of a description: a number with its sign and the digits behind its point, a word, or
another character. -/
inductive Token
  | number (sign : Option Bool) (digits : Chars) (fraction : Option Chars)
  | word (w : String)
  | mark (c : Char)
  deriving DecidableEq

/-- Reads a number behind its sign. -/
def readNumber (sign : Option Bool) (cs : Chars) : Token × Chars :=
  let digits := cs.takeWhile Char.isDigit
  match cs.drop digits.length with
  | c :: d :: rest =>
    if (c = '.' || c = ',') && d.isDigit then
      let fraction := (d :: rest).takeWhile Char.isDigit
      (.number sign digits (some fraction), (d :: rest).drop fraction.length)
    else (.number sign digits none, c :: d :: rest)
  | rest => (.number sign digits none, rest)

/-- Takes a description apart. A text in brackets does not count, and neither does a sign that stands
before no number. -/
def tokens : Nat → Chars → List Token
  | 0, _ => []
  | _ + 1, [] => []
  | room + 1, c :: rest =>
    if c = ' ' || ('\t' ≤ c && c ≤ '\r') then tokens room rest
    else if c.isDigit then
      let (t, rest) := readNumber none (c :: rest)
      t :: tokens room rest
    else if c = '+' || c = '-' then
      let after := rest.dropWhile (· == ' ')
      if after.head?.any Char.isDigit then
        let (t, rest) := readNumber (some (c = '-')) after
        t :: tokens room rest
      else tokens room rest
    else if c = '(' then tokens room ((rest.dropWhile (· != ')')).drop 1)
    else if c.isAlpha then
      let w := (c :: rest).takeWhile fun c => c.isAlpha || c == '.'
      let plain := (w.filter (· != '.')).map Char.toLower
      .word (String.ofList plain) :: tokens room ((c :: rest).drop w.length)
    else .mark c :: tokens room rest

/-! ## Words -/

def isStartOf (w : String) (name : String) : Bool :=
  let name := String.ofList (name.toList.map Char.toLower)
  w = name || (w.length = 3 && w.toList.isPrefixOf name.toList)

def month? (w : String) : Option Nat :=
  let w := if w = "sept" then "sep" else w
  (monthNames.findIdx? (isStartOf w)).map (· + 1)

def weekday? (w : String) : Option Nat :=
  let w := match w with
    | "tues" => "tue"
    | "wednes" => "wed"
    | "thur" | "thurs" => "thu"
    | w => w
  dayNames.findIdx? (isStartOf w)

/-- How far a unit goes: by months, by days, or by seconds. -/
inductive Unit'
  | months (n : Int)
  | days (n : Int)
  | seconds (n : Int)

def unit? (w : String) : Option Unit' :=
  let w := if w.endsWith "s" && 1 < w.length then String.ofList w.toList.dropLast else w
  match w with
  | "year" => some (.months 12)
  | "month" => some (.months 1)
  | "fortnight" => some (.days 14)
  | "week" => some (.days 7)
  | "day" => some (.days 1)
  | "hour" => some (.seconds 3600)
  | "minute" | "min" => some (.seconds 60)
  | "second" | "sec" => some (.seconds 1)
  | _ => none

def ordinal? (w : String) : Option Int :=
  match w with
  | "last" => some (-1)
  | "this" => some 0
  | "next" | "first" => some 1
  | "third" => some 3
  | "fourth" => some 4
  | "fifth" => some 5
  | "sixth" => some 6
  | "seventh" => some 7
  | "eighth" => some 8
  | "ninth" => some 9
  | "tenth" => some 10
  | "eleventh" => some 11
  | "twelfth" => some 12
  | _ => none

def dayShift? (w : String) : Option Int :=
  match w with
  | "today" | "now" => some 0
  | "tomorrow" => some 1
  | "yesterday" => some (-1)
  | _ => none

/-- The minutes by which a zone is before the middle one. -/
def zone? (w : String) : Option Int :=
  let named : List (String × Int) :=
    [("utc", 0), ("gmt", 0), ("ut", 0), ("z", 0), ("wet", 0), ("west", 60), ("bst", 60),
     ("art", -180), ("brt", -180), ("nst", -210), ("ast", -240), ("adt", -180), ("est", -300),
     ("edt", -240), ("cst", -360), ("cdt", -300), ("mst", -420), ("mdt", -360), ("pst", -480),
     ("pdt", -420), ("akst", -540), ("akdt", -480), ("hst", -600), ("cet", 60), ("cest", 120),
     ("met", 60), ("mest", 120), ("eet", 120), ("eest", 180), ("sast", 120), ("eat", 180),
     ("msk", 180), ("msd", 240), ("ist", 330), ("sgt", 480), ("kst", 540), ("jst", 540),
     ("gst", 600), ("nzst", 720), ("nzdt", 780)]
  match named.lookup w, w.toList with
  | some n, _ => some n
  | none, [c] =>
    let after (first : Char) : Int := (c.toNat : Int) - first.toNat
    if 'a' ≤ c && c ≤ 'i' then some (60 * (after 'a' + 1))
    else if 'k' ≤ c && c ≤ 'm' then some (60 * (after 'k' + 10))
    else if 'n' ≤ c && c ≤ 'y' then some (-60 * (after 'n' + 1))
    else none
  | none, _ => none

/-! ## Descriptions -/

/-- A day with its year as it is written, if it is. -/
structure DayDraft where
  year : Option (Bool × Chars)
  month : Nat
  day : Nat

/-- A time of day with its nanoseconds. -/
structure TimeDraft where
  hour : Nat
  minute : Nat
  second : Nat
  nanosecond : Nat

/-- What a description has said so far. -/
structure Draft where
  epoch : Option (Int × Nat)
  day : Option DayDraft
  time : Option TimeDraft
  zone : Option Int
  weekday : Option (Int × Nat)
  months : Int
  days : Int
  seconds : Int
  nanoseconds : Int
  shifted : Bool

def Draft.empty : Draft := ⟨none, none, none, none, none, 0, 0, 0, 0, false⟩

def natOf (digits : Chars) : Nat := (Text.readNat? 10 digits).getD 0

/-- The nanoseconds that digits behind a point mean. -/
def nanosOf (fraction : Option Chars) : Nat :=
  match fraction with
  | none => 0
  | some f => natOf ((f.take 9).rightpad 9 '0')

/-- Moves a description by so many units. -/
def Draft.move (d : Draft) (n : Int) (fraction : Option Chars) (negative : Bool) (u : Unit') :
    Option Draft :=
  let d := { d with shifted := true }
  match u, fraction with
  | .months k, none => some { d with months := d.months + n * k }
  | .days k, none => some { d with days := d.days + n * k }
  | .seconds 1, f =>
    let nanos : Int := nanosOf f
    some { d with
      seconds := d.seconds + n
      nanoseconds := d.nanoseconds + if negative then -nanos else nanos }
  | .seconds k, none => some { d with seconds := d.seconds + n * k }
  | _, _ => none

/-- A description may name one thing of a kind. -/
def once {α : Type} (old : Option α) (new : α) : Option (Option α) :=
  match old with
  | none => some (some new)
  | some _ => none

/-- Puts an hour of half a day into a whole day. -/
def meridianHour? (hour : Nat) (w : String) : Option Nat :=
  if hour = 0 || 12 < hour then none
  else match w with
    | "am" => some (hour % 12)
    | "pm" => some (hour % 12 + 12)
    | _ => none

/-- The seconds that an offset of a zone means, of which the minutes may stand apart. -/
def offset (negative : Bool) (digits : Chars) (minutes : Option Chars) : Int :=
  let n := natOf digits
  let total : Nat := match minutes with
    | some m => n * 60 + natOf m
    | none => if digits.length ≤ 2 then n * 60 else n / 100 * 60 + n % 100
  60 * (if negative then -(total : Int) else total)

/-- Reads what can follow a time of day: the half of the day, or the offset of a zone. -/
def afterTime (d : Draft) (t : TimeDraft) (rest : List Token) : Option (Draft × List Token) := do
  match rest with
  | .word w :: more =>
    match meridianHour? t.hour w with
    | some hour => return ({ d with time := ← once d.time { t with hour } }, more)
    | none =>
      if w = "am" || w = "pm" then none else return ({ d with time := ← once d.time t }, rest)
  | .number (some negative) digits none :: .mark ':' :: .number none minutes none :: more =>
    return ({ d with
      time := ← once d.time t, zone := ← once d.zone (offset negative digits (some minutes)) }, more)
  | .number (some negative) digits none :: more =>
    return ({ d with
      time := ← once d.time t, zone := ← once d.zone (offset negative digits none) }, more)
  | rest => return ({ d with time := ← once d.time t }, rest)

/-- Reads a time of day that begins with an hour. -/
def readTime (d : Draft) (hour : Chars) (rest : List Token) : Option (Draft × List Token) :=
  match rest with
  | .mark ':' :: .number none minute none :: .mark ':' :: .number none second fraction :: rest =>
    afterTime d ⟨natOf hour, natOf minute, natOf second, nanosOf fraction⟩ rest
  | .mark ':' :: .number none minute none :: rest =>
    afterTime d ⟨natOf hour, natOf minute, 0, 0⟩ rest
  | rest => afterTime d ⟨natOf hour, 0, 0, 0⟩ rest

/-- What a number means that stands alone: a year, a day, or a time of day. -/
def loneNumber (d : Draft) (digits : Chars) : Option Draft := do
  let n := natOf digits
  match d.day with
  | some ⟨none, month, day⟩ =>
    if !d.shifted && (d.time.isSome || 2 < digits.length) then
      return { d with day := some ⟨some (false, digits), month, day⟩ }
  | _ => pure ()
  if 4 < digits.length then
    let year := digits.take (digits.length - 4)
    return { d with day := ← once d.day ⟨some (false, year), n / 100 % 100, n % 100⟩ }
  else if digits.length ≤ 2 then return { d with time := ← once d.time ⟨n, 0, 0, 0⟩ }
  else return { d with time := ← once d.time ⟨n / 100, n % 100, 0, 0⟩ }

/-- Reads whether units go back, which is said behind them. -/
def moved (d : Draft) (n : Int) (fraction : Option Chars) (u : Unit') (rest : List Token) :
    Option (Draft × List Token) := do
  match rest with
  | .word "ago" :: rest => return (← d.move (-n) fraction (0 ≤ n) u, rest)
  | rest => return (← d.move n fraction (n < 0) u, rest)

/-- Reads a thing that begins with a number. -/
def readFromNumber (d : Draft) (digits : Chars) (rest : List Token) :
    Option (Draft × List Token) := do
  let n := natOf digits
  match rest with
  | .mark ':' :: _ => readTime d digits rest
  | .mark '/' :: .number none b none :: .mark '/' :: .number none c none :: rest =>
    let day : DayDraft := if 4 ≤ digits.length then ⟨some (false, digits), natOf b, natOf c⟩
      else ⟨some (false, c), n, natOf b⟩
    return ({ d with day := ← once d.day day }, rest)
  | .mark '/' :: .number none b none :: rest =>
    return ({ d with day := ← once d.day ⟨none, n, natOf b⟩ }, rest)
  | .number (some true) b none :: .number (some true) c none :: rest =>
    let d := { d with day := ← once d.day ⟨some (false, digits), natOf b, natOf c⟩ }
    match rest with
    | .word "t" :: .number none hour none :: rest => readTime d hour rest
    | rest => return (d, rest)
  | .word w :: rest' =>
    if w = "am" || w = "pm" then readTime d digits rest
    else
      match month? w, unit? w, weekday? w with
      | some m, _, _ =>
        match rest' with
        | .number (some true) y none :: rest =>
          return ({ d with day := ← once d.day ⟨some (false, y), m, n⟩ }, rest)
        | .number none y none :: .mark ':' :: rest =>
          return ({ d with day := ← once d.day ⟨none, m, n⟩ }, .number none y none :: .mark ':' :: rest)
        | .number none y none :: rest =>
          return ({ d with day := ← once d.day ⟨some (false, y), m, n⟩ }, rest)
        | rest => return ({ d with day := ← once d.day ⟨none, m, n⟩ }, rest)
      | none, some u, _ => moved d n none u rest'
      | none, none, some k =>
        return ({ d with weekday := ← once d.weekday ((n : Int), k) }, rest')
      | none, none, none => return (← loneNumber d digits, rest)
  | rest => return (← loneNumber d digits, rest)

/-- Reads a thing that begins with a word. -/
def readFromWord (d : Draft) (w : String) (rest : List Token) : Option (Draft × List Token) := do
  match month? w, weekday? w, ordinal? w, unit? w, dayShift? w, zone? w with
  | some m, _, _, _, _, _ =>
    match rest with
    | .number none a none :: .mark ',' :: .number none y none :: rest =>
      return ({ d with day := ← once d.day ⟨some (false, y), m, natOf a⟩ }, rest)
    | .number (some true) a none :: .number (some true) y none :: rest =>
      return ({ d with day := ← once d.day ⟨some (false, y), m, natOf a⟩ }, rest)
    | .number none a none :: rest =>
      return ({ d with day := ← once d.day ⟨none, m, natOf a⟩ }, rest)
    | _ => none
  | none, some k, _, _, _, _ =>
    let d := { d with weekday := ← once d.weekday (0, k) }
    match rest with
    | .mark ',' :: rest => return (d, rest)
    | rest => return (d, rest)
  | none, none, some n, _, _, _ =>
    match rest with
    | .word v :: rest =>
      match unit? v, weekday? v with
      | some u, _ => moved d n none u rest
      | none, some k => return ({ d with weekday := ← once d.weekday (n, k) }, rest)
      | none, none => none
    | _ => none
  | none, none, none, some u, _, _ => moved d 1 none u rest
  | none, none, none, none, some n, _ =>
    return ({ d with days := d.days + n, shifted := true }, rest)
  | none, none, none, none, none, some m =>
    match rest with
    | .number (some negative) digits none :: rest =>
      return ({ d with zone := ← once d.zone (60 * m + offset negative digits none) }, rest)
    | rest => return ({ d with zone := ← once d.zone (60 * m) }, rest)
  | none, none, none, none, none, none => none

/-- Reads all that a description says. -/
def readDraft : Nat → Draft → List Token → Option Draft
  | 0, _, _ => none
  | _ + 1, d, [] => some d
  | room + 1, d, t :: rest => do
    match t, rest with
    | .number none digits none, rest =>
      let (d, rest) ← readFromNumber d digits rest
      readDraft room d rest
    | .number sign digits fraction, .word w :: rest =>
      let n : Int := if sign = some true then -(natOf digits : Int) else natOf digits
      let (d, rest) ← moved d n fraction (← unit? w) rest
      readDraft room d rest
    | .word w, rest =>
      let (d, rest) ← readFromWord d w rest
      readDraft room d rest
    | .mark '@', [.number sign digits fraction] =>
      let n : Int := natOf digits
      let nanos := nanosOf fraction
      if sign = some true then
        if nanos = 0 then return { d with epoch := some (-n, 0) }
        else return { d with epoch := some (-n - 1, 1000000000 - nanos) }
      else return { d with epoch := some (n, nanos) }
    | .mark ',', rest => readDraft room d rest
    | _, _ => none

/-- A year of which the century may be left out. -/
def wholeYear (digits : Chars) : Int :=
  let n : Int := natOf digits
  if digits.length = 2 then if n < 69 then n + 2000 else n + 1900 else n

/-- The point in time that is described, in seconds with nanoseconds. -/
def Draft.resolve (d : Draft) (now : Int) (nanoseconds : Nat) : Option (Int × Nat) := do
  match d.epoch with
  | some e => return e
  | none =>
    let m := Moment.ofSeconds now
    let (year, month, day) : Int × Nat × Nat := match d.day with
      | some x => ((x.year.map fun y => wholeYear y.2).getD m.year, x.month, x.day)
      | none => (m.year, m.month, m.day)
    let follows := d.shifted && d.day.isNone && d.weekday.isNone && d.time.isNone
    let time : TimeDraft := match d.time with
      | some t => t
      | none => if follows then ⟨m.hour, m.minute, m.second, nanoseconds⟩ else ⟨0, 0, 0, 0⟩
    if month = 0 || 12 < month || day = 0 then none
    if 23 < time.hour || 59 < time.minute || 59 < time.second then none
    let back := Moment.ofSeconds (secondsOf year month day 0 0 0)
    if back.month ≠ month || back.day ≠ day then none
    let wait : Int := match d.weekday, d.day with
      | some (ordinal, k), none =>
        ((k : Int) - back.weekday + 7) % 7 +
          7 * (ordinal - if 0 < ordinal && back.weekday ≠ k then 1 else 0)
      | _, _ => 0
    let base := secondsOf year ((month : Int) + d.months) ((day : Int) + d.days + wait) time.hour
      time.minute time.second
    let nanos : Int := (time.nanosecond : Int) + d.nanoseconds
    let carry := nanos.fdiv 1000000000
    return (base + d.seconds + carry - d.zone.getD 0, (nanos - carry * 1000000000).toNat)

/-- A description without the zone in which it is to be read. -/
def withoutZone (t : Chars) : Chars :=
  let t := t.dropWhile (· == ' ')
  match t with
  | 'T' :: 'Z' :: '=' :: '\x22' :: rest => (rest.dropWhile (· != '\x22')).drop 1
  | t => t

/-- Reads a description of a point in time, which may be one from now on. -/
def read? (now : Int) (nanoseconds : Nat) (t : Chars) : Option (Int × Nat) := do
  let t := withoutZone t
  let ts := tokens (t.length + 1) t
  (← readDraft (ts.length + 1) .empty ts).resolve now nanoseconds

end Provision.Moment
