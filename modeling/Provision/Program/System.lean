import Provision.Decimal.Quantity
import Provision.Moment.Reader
import Provision.Program.Input

/-!
Programs that tell of the system on which they run and of the time, or let the time pass.
-/

namespace Provision.Program

open Bytes (toText ofText)
open Decimal (Quantity)
open Files (FileError)
open Shell (Run)

/-- What there is to tell of a system: by the letter that asks for it. -/
def systemFacts : List (String × String) :=
  [("s", "Linux"), ("n", "localhost"), ("r", "6.1.0"), ("v", "#1 SMP PREEMPT_DYNAMIC Debian"),
   ("m", "x86_64"), ("p", "unknown"), ("i", "unknown"), ("o", "GNU/Linux")]

def uname : Program := fun c args =>
  withArguments c.name (.ofString "asnrvmpio"
    ["all|a", "kernel-name|s", "sysname|s", "nodename|n", "kernel-release|r", "release|r",
     "kernel-version|v", "machine|m", "processor|p", "hardware-platform|i",
     "operating-system|o"]) 1 false args fun a => do
    match a.operands with
    | extra :: _ => refuseOperand c.name extra
    | [] =>
      let asked := systemFacts.filter fun f =>
        a.has f.1 || (a.has "a" && f.2 ≠ "unknown")
      let told := if asked.isEmpty then ["Linux"] else asked.map (·.2)
      out c.name (ofText (" ".intercalate told ++ "\n"))

/-- Tells one thing. -/
def tell (text : String) : Program := fun c args =>
  withArguments c.name ⟨[], []⟩ 1 false args fun a => do
    match a.operands with
    | extra :: _ => refuseOperand c.name extra
    | [] => out c.name (ofText text)

def arch : Program := tell "x86_64\n"

def hostid : Program := tell "007f0100\n"

def hostname : Program := fun c args => do
  match args.find? (·.head? ≠ some '-') with
  | some _ =>
    let _ ← complain c.name "you must be root to change the host name"
    return 1
  | none => out c.name "localhost\n".toList

def nproc : Program := fun c args =>
  withArguments c.name (.ofString "" ["all", "ignore="]) 1 false args fun a => do
    match a.operands with
    | extra :: _ => refuseOperand c.name extra
    | [] =>
      let present := 4
      match (a.value? "ignore").map (Text.readNat? 10) with
      | some none =>
        complain c.name ("invalid number: " ++ cited ((a.value? "ignore").getD []))
      | some (some n) => out c.name (Nat.toDigits 10 (max 1 (present - n)) ++ ['\n'])
      | none => out c.name (Nat.toDigits 10 present ++ ['\n'])

def tty : Program := fun c args =>
  withArguments c.name (.ofString "s" ["quiet|s", "silent|s"]) 2 false args fun a => do
    match a.operands with
    | extra :: _ =>
      let _ ← refuseOperand c.name extra
      return 2
    | [] =>
      unless a.has "s" do
        let _ ← out c.name "not a tty\n".toList
      return 1

/-- Does nothing, since all that is written is in its place. -/
def sync : Program := fun c args =>
  withArguments c.name (.ofString "df" ["data|d", "file-system|f"]) 1 false args fun a => do
    let t ← Run.tree
    let mut status := 0
    for path in a.operands do
      match t.find (toText path) with
      | .ok _ => pure ()
      | .error e => status ← complain c.name ("error opening " ++ quoted path ++ ": " ++ e.reason)
    return status

/-- So many nanoseconds make a second. -/
def secondSpan : Nat := 1000000000

/-! ## Telling -/

/-- The format in which an option asks for a point in time. -/
def standardFormat? (option : String) (detail : Chars) : Except String String :=
  match option with
  | "rfc-3339" =>
    choose "--rfc-3339"
      [(["date"], "%Y-%m-%d"), (["seconds"], "%Y-%m-%d %H:%M:%S%:z"),
       (["ns"], "%Y-%m-%d %H:%M:%S.%N%:z")] detail
  | "iso-8601" =>
    if detail.isEmpty then .ok "%Y-%m-%d"
    else choose "--iso-8601"
      [(["hours"], "%Y-%m-%dT%H%:z"), (["minutes"], "%Y-%m-%dT%H:%M%:z"), (["date"], "%Y-%m-%d"),
       (["seconds"], "%Y-%m-%dT%H:%M:%S%:z"), (["ns"], "%Y-%m-%dT%H:%M:%S,%N%:z")] detail
  | _ => .ok "%a, %d %b %Y %H:%M:%S %z"

/-- The format that is used if none is given. -/
def usualMomentFormat : String := "%a %b %e %H:%M:%S %Z %Y"

def date : Program := fun c args =>
  withArguments c.name (.ofString "d:f:I::r:Rs:u"
    ["date=|d", "debug", "file=|f", "iso-8601?|I", "reference=|r", "resolution", "rfc-email|R",
     "rfc-822|R", "rfc-2822|R", "rfc-3339=", "set=|s", "universal|u", "uct|u", "utc|u"])
    1 false args fun a => do
    let formats := a.options.filter fun o => ["I", "R", "rfc-3339"].contains o.1
    let chosen : Option (Except String String) := formats.getLast?.map fun o =>
      standardFormat? (if o.1 = "I" then "iso-8601" else o.1) o.2
    match chosen with
    | some (.error message) => return ← misuse c.name message
    | _ => pure ()
    if 1 < formats.length then return ← complain c.name "multiple output formats specified"
    let sources := a.options.filter fun o => ["d", "f", "r"].contains o.1
    if 1 < (sources.map (·.1)).eraseDups.length then
      return ← misuse c.name
        "the options to specify dates for printing are mutually exclusive"
    let (given, setting) : Option Chars × Option Chars := match a.operands with
      | ('+' :: format) :: _ => (some format, none)
      | t :: _ => (none, some t)
      | [] => (none, none)
    match a.operands with
    | _ :: extra :: _ => return ← refuseOperand c.name extra
    | _ => pure ()
    if given.isSome && chosen.isSome then
      return ← complain c.name "multiple output formats specified"
    let format : Chars := match given, chosen with
      | some f, _ => f
      | none, some (.ok f) => ofText f
      | none, _ => ofText usualMomentFormat
    let now ← Run.now
    let nowSeconds : Int := now / secondSpan
    let nowNanos := now % secondSpan
    let show' (m : Int × Nat) : Run Nat :=
      out c.name ((Moment.ofSeconds m.1 m.2).write format ++ ['\n'])
    let invalid (t : Chars) : Run Nat := complain c.name ("invalid date " ++ cited t)
    match setting, a.value? "s" with
    | some t, _ =>
      if t.all Char.isDigit && 8 ≤ t.length && t.length % 2 = 0 then
        let _ ← complain c.name "cannot set date: Operation not permitted"
        let _ ← show' (nowSeconds, nowNanos)
        return 1
      else invalid t
    | none, some t =>
      match Moment.read? nowSeconds nowNanos t with
      | none => invalid t
      | some m =>
        let _ ← complain c.name "cannot set date: Operation not permitted"
        let _ ← show' m
        return 1
    | none, none =>
      match sources.getLast? with
      | some ("d", t) =>
        match Moment.read? nowSeconds nowNanos t with
        | some m => show' m
        | none => invalid t
      | some ("f", path) =>
        match ← readOperand path with
        | .error e => complainOf c.name path e
        | .ok text =>
          let mut status := 0
          for line in linesOf '\n' text do
            match Moment.read? nowSeconds nowNanos line with
            | some m => let _ ← show' m
            | none => status ← invalid line
          return status
      | some (_, path) =>
        match (← Run.tree).find (toText path) with
        | .ok n =>
          let seconds := n.modified.fdiv secondSpan
          show' (seconds, (n.modified - seconds * secondSpan).toNat)
        | .error e => complainOf c.name path e
      | none => show' (nowSeconds, nowNanos)

/-! ## Waiting -/

/-- The nanoseconds that a text means, of which a letter behind it can name the unit. -/
def readDuration? (t : Chars) : Option Nat :=
  let (number, unit) : Chars × Nat := match t.getLast? with
    | some 's' => (t.dropLast, 1)
    | some 'm' => (t.dropLast, 60)
    | some 'h' => (t.dropLast, 3600)
    | some 'd' => (t.dropLast, 86400)
    | _ => (t, 1)
  match Quantity.read? number with
  | some (.finite false r) => some ((r.num * unit * secondSpan + r.den - 1) / r.den)
  | some (.finite true r) => if r.num = 0 then some 0 else none
  | some (.infinite false) => some (1000000000 * secondSpan)
  | _ => none

def sleep : Program := fun c args =>
  withArguments c.name ⟨[], []⟩ 1 false args fun a => do
    if a.operands.isEmpty then return ← missOperand c.name []
    let durations := a.operands.map readDuration?
    for (t, d) in a.operands.zip durations do
      if d.isNone then
        let _ ← complain c.name ("invalid time interval " ++ cited t)
    if durations.contains none then return ← pointToHelp c.name 1
    Run.pause ((durations.filterMap fun d => d).foldl (· + ·) 0)
    return 0

/-- Waits for a process, but not beyond a point in time. -/
def awaitUntil (pid deadline : Nat) : Run (Option Host.Fate) := do
  Run.share fun s y => ((), y.alterProcess s.process fun p => { p with wake := some deadline })
  let fate ← Run.step fun _ y =>
    match y.process? pid with
    | none => some (some (.exited 127), y)
    | some p =>
      if !p.isRunning then
        some (some p.fate, { y with processes := y.processes.filter (·.1 ≠ pid) })
      else if deadline ≤ y.clock then some (none, y)
      else none
  Run.share fun s y => ((), y.alterProcess s.process fun p => { p with wake := none })
  return fate

/-- Ends as another process has ended. -/
def endAs (fate : Host.Fate) : Run Nat :=
  match fate with
  | .killed n => do
    Run.perish n
    return 128 + n
  | fate => return fate.status

def timeout : Program := fun c args =>
  withArguments c.name (.ofString "fk:ps:v"
    ["foreground|f", "kill-after=|k", "preserve-status|p", "signal=|s", "verbose|v"])
    125 true args fun a => do
    let wrong (t : Chars) : Run Nat :=
      misuse c.name ("invalid time interval " ++ cited t) 125
    let grace? : Option Nat := (a.value? "k").bind readDuration?
    if let some t := a.value? "k" then
      if grace?.isNone then return ← wrong t
    let signal? := ((a.value? "s").map Host.signalNumber?).getD (some 15)
    match signal?, a.operands with
    | none, _ =>
      misuse c.name (cited ((a.value? "s").getD []) ++ ": invalid signal") 125
    | some _, [] | some _, [_] => pointToHelp c.name 125
    | some signal, duration :: words =>
      match readDuration? duration with
      | none => wrong duration
      | some span =>
        let command := words.headD []
        let child ← Run.startWith [] do
          let status ← match ← c.become words with
            | .ok status => pure status
            | .error o =>
              let _ ← complain c.name ("failed to run command " ++ cited command ++ ": " ++
                o.reason)
              pure o.status
          Run.setStatus status
          Run.stop
        let start ← Run.now
        let tellSignal (n : Nat) : Run Unit := do
          if a.has "v" then
            Run.complain (c.name ++ ": sending signal " ++ Host.signalName n ++
              " to command " ++ cited command)
        let first ← if span = 0 then some <$> Run.await child
          else awaitUntil child (start + span)
        match first with
        | some fate => endAs fate
        | none =>
          tellSignal signal
          let _ ← Run.sendSignal child signal
          let second ← match grace? with
            | some grace => awaitUntil child ((← Run.now) + grace)
            | none => some <$> Run.await child
          match second with
          | some fate =>
            if signal = 9 then endAs (.killed 9)
            else if a.has "p" then return fate.status else return 124
          | none =>
            tellSignal 9
            let _ ← Run.sendSignal child 9
            let _ ← Run.await child
            endAs (.killed 9)

end Provision.Program
