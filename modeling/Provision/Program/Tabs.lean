import Provision.Program.Input

/-!
Programs that turn tabs into blanks, and blanks into tabs.
-/

namespace Provision.Program

open Bytes (toText ofText)
open Files (FileError)
open Shell (Run)

/-- The places at which tabs end: those that are listed, and behind them all multiples of a number, or
those that are multiples of it counted from the last listed one. -/
structure TabStops where
  listed : List Nat := []
  multiples : Nat := 0
  further : Nat := 0

namespace TabStops

/-- What has been read of a list of places: the number that is being read, and which sign stands
before it. -/
structure Reading where
  stops : TabStops := {}
  number : Option Nat := none
  sign : Option Char := none
  messages : List String := []

/-- Takes the number that has been read into the list. -/
def Reading.finish (r : Reading) : Reading :=
  match r.number with
  | none => r
  | some n =>
    let r := { r with number := none }
    match r.sign with
    | some '/' =>
      let r := if r.stops.multiples = 0 then r else { r with
        messages := "'/' specifier only allowed with the last value" :: r.messages }
      { r with stops := { r.stops with multiples := n } }
    | some _ =>
      let r := if r.stops.further = 0 then r else { r with
        messages := "'+' specifier only allowed with the last value" :: r.messages }
      { r with stops := { r.stops with further := n } }
    | none => { r with stops := { r.stops with listed := r.stops.listed ++ [n] } }

def isBlank (c : Char) : Bool := c == ' ' || c == '\t'

/-- Reads a list of places. If something is wrong, it ends with what is to be said. -/
def readList : Chars → Reading → Reading
  | [], r => if r.messages.isEmpty then r.finish else r
  | c :: cs, r =>
    if c = ',' || isBlank c then
      let next := r.finish
      if next.messages.length = r.messages.length then readList cs next else next
    else if c = '/' || c = '+' then
      let r := if r.number.isNone then r else { r with
        messages := ("'" ++ String.singleton c ++ "' specifier not at start of number: " ++
          cited (c :: cs)) :: r.messages }
      readList cs { r with sign := some c }
    else if c.isDigit then
      let n := 10 * r.number.getD 0 + (c.toNat - 48)
      readList cs { r with number := some n }
    else
      { r with messages :=
          ("tab size contains invalid character(s): " ++ cited (c :: cs)) :: r.messages }

/-- Reads the arguments of options, each of which is a list of places. -/
def read (s : TabStops) (t : Chars) : Except (List String) TabStops :=
  let r := readList t { stops := s }
  if r.messages.isEmpty then .ok r.stops else .error r.messages.reverse

/-- Why places cannot be used. -/
def fault? (s : TabStops) : Option String :=
  let rec ascending (before : Nat) : List Nat → Option String
    | [] => none
    | 0 :: _ => some "tab size cannot be 0"
    | n :: more => if n ≤ before then some "tab sizes must be ascending" else ascending n more
  match ascending 0 s.listed with
  | some m => some m
  | none =>
    if s.further ≠ 0 && s.multiples ≠ 0 then some "'/' specifier is mutually exclusive with '+'"
    else none

/-- The next place behind a column, with how many of the listed ones have been passed. Behind the last
place there is none. -/
def next? (s : TabStops) (column passed : Nat) : Option Nat × Nat :=
  let behind (n : Nat) : Option Nat := some (column + (n - column % n))
  match s.listed, s.multiples, s.further with
  | [], 0, 0 => (behind 8, passed)
  | [], 0, n | [], n, _ => (behind n, passed)
  | [n], 0, 0 => (behind n, passed)
  | ns, multiples, further =>
    let passed := passed + ((ns.drop passed).takeWhile (· ≤ column)).length
    match ns[passed]? with
    | some n => (some n, passed)
    | none =>
      if multiples ≠ 0 then (behind multiples, passed)
      else if further ≠ 0 then
        (some (column + (further - (column - ns.getLastD 0) % further)), passed)
      else (none, passed)

end TabStops

open TabStops (isBlank)

/-- Goes through all characters of all operands as if they were one text. -/
def throughChars {σ : Type} (name : String) (step : σ → Char → σ × Chars) :
    List Chars → σ → Nat → Run (σ × Nat)
  | [], s, status => return (s, status)
  | path :: rest, s, status => do
    let work (d : Nat) : Run (Except FileError σ) := chunks d maxLines s
    match ← withOperand path work with
    | .ok (.ok s) => throughChars name step rest s status
    | .ok (.error e) | .error e =>
      let _ ← complainOf name path e
      throughChars name step rest s 1
where
  chunks (d : Nat) : Nat → σ → Run (Except FileError σ)
    | 0, s => return .ok s
    | room + 1, s => do
      match ← Run.readSome d blockSize with
      | .error e => return .error e
      | .ok [] => return .ok s
      | .ok text =>
        let (s, shown) := text.foldl (fun (s, shown) c =>
          let (s, t) := step s c
          (s, t.reverse ++ shown)) (s, [])
        match ← Run.write 1 shown.reverse with
        | .ok () => chunks d room s
        | .error e => return .error e

/-! ## To blanks -/

/-- Where a line is: the column, how many places are passed, and whether tabs still count. -/
structure Expansion where
  column : Nat := 0
  passed : Nat := 0
  converts : Bool := true

/-- A character with tabs as blanks. -/
def Expansion.step (stops : TabStops) (all : Bool) (s : Expansion) (c : Char) : Expansion × Chars :=
  if c = '\n' then ({}, ['\n'])
  else if !s.converts then (s, [c])
  else
    let converts := all || isBlank c
    match c with
    | '\t' =>
      let (next, passed) := stops.next? s.column s.passed
      let next := next.getD (s.column + 1)
      (⟨next, passed, converts⟩, List.replicate (next - s.column) ' ')
    | '\x08' => (⟨s.column - 1, s.passed - 1, converts⟩, [c])
    | c => (⟨s.column + 1, s.passed, converts⟩, [c])

/-- Does the work of a program that has places of tabs by options. -/
def withStops (name : String) (options : List (String × Chars))
    (act : TabStops → Run Nat) : Run Nat := do
  let take (s : TabStops) (o : String × Chars) : Except (List String) TabStops :=
    if o.1 = "t" then s.read o.2
    else if o.1.all Char.isDigit then s.read (o.1.toList ++ o.2)
    else .ok s
  match options.foldlM take {} with
  | .error messages =>
    for m in messages do
      let _ ← complain name m
    return 1
  | .ok stops =>
    match stops.fault? with
    | some message => complain name message
    | none => act stops

def expand : Program := fun c args =>
  withArguments c.name (.ofString "it:0::1::2::3::4::5::6::7::8::9::" ["initial|i", "tabs=|t"])
    1 false args fun a =>
    withStops c.name a.options fun stops => do
      return (← throughChars c.name (Expansion.step stops (!a.has "i")) (orInput a.operands) {} 0).2

/-! ## To tabs -/

/-- Where a line is: the column, how many places are passed, whether blanks still count, whether the
character before was a blank, the blanks that are held back, and whether the first of them came just
before a place. -/
structure Tabbing where
  column : Nat := 0
  passed : Nat := 0
  converts : Bool := true
  afterBlank : Bool := true
  held : Chars := []
  isAlone : Bool := false

namespace Tabbing

/-- What is written of blanks that were held back, of which the first can have become a tab. -/
def shown (s : Tabbing) : Chars :=
  if 1 < s.held.length && s.isAlone then '\t' :: s.held.drop 1 else s.held

/-- A character behind what was held back. -/
def emit (s : Tabbing) (all blank : Bool) (c : Char) : Tabbing × Chars :=
  let text := s.shown ++ [c]
  if c = '\n' then ({}, text)
  else
    ({ s with held := [], isAlone := s.isAlone && s.held.isEmpty, afterBlank := blank
              converts := s.converts && (all || blank) }, text)

/-- A character with blanks as tabs. -/
def step (stops : TabStops) (all : Bool) (s : Tabbing) (c : Char) : Tabbing × Chars :=
  if !s.converts then if c = '\n' then ({}, [c]) else (s, [c])
  else if isBlank c then
    let (next?, passed) := stops.next? s.column s.passed
    let s := { s with passed }
    match next? with
    | none => { s with converts := false }.emit all true c
    | some next =>
      let kept (s : Tabbing) : Tabbing := { s with held := s.held.take (if s.isAlone then 1 else 0) }
      if c = '\t' then
        let held := match s.held with
          | _ :: more => '\t' :: more
          | [] => []
        (kept { s with column := next, held }).emit all true c
      else
        let s := { s with column := s.column + 1 }
        if s.afterBlank && s.column = next then
          let held := '\t' :: s.held.drop 1
          (kept { s with held }).emit all true '\t'
        else
          ({ s with isAlone := s.isAlone || s.column = next, held := s.held ++ [c], afterBlank := true },
            [])
  else if c = '\x08' then
    { s with column := s.column - 1, passed := s.passed - 1 }.emit all false c
  else { s with column := s.column + 1 }.emit all false c

end Tabbing

/-- The numbers that options give digit by digit between commas. -/
def listedStops (options : List (String × Chars)) : List Nat :=
  let (ns, last) := options.foldl (fun (s : List Nat × Option Nat) o =>
    if o.1 = "," then (s.1 ++ s.2.toList, none)
    else if o.1.all Char.isDigit then
      (s.1, some (10 * s.2.getD 0 + (o.1.toList.foldl (fun n ch => 10 * n + (ch.toNat - 48)) 0)))
    else s) ([], none)
  ns ++ last.toList

def unexpand : Program := fun c args =>
  withArguments c.name (.ofString ",0123456789at:" ["tabs=|t", "all|a", "first-only"])
    1 false args fun a =>
    withStops c.name (a.options.filter (·.1 = "t")) fun stops => do
      let stops := { stops with listed := stops.listed ++ listedStops a.options }
      match stops.fault? with
      | some message => complain c.name message
      | none =>
        let all := (a.has "a" || a.has "t") && !a.has "first-only"
        let (s, status) ← throughChars c.name (Tabbing.step stops all) (orInput a.operands) {} 0
        let _ ← Run.write 1 s.shown
        return status

end Provision.Program
