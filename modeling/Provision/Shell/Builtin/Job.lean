import Provision.Shell.Builtin.Output
import Provision.Shell.Lines

/-!
Builtins for other processes.
-/

namespace Provision.Shell

open Bytes (toText ofText)
open Host (Fate)

/-- What is told of a process that a signal has ended. -/
def signalWords (n : Nat) : String :=
  match n with
  | 1 => "Hangup"
  | 2 => "Interrupt"
  | 3 => "Quit"
  | 4 => "Illegal instruction"
  | 5 => "Trace/breakpoint trap"
  | 6 => "Aborted"
  | 7 => "Bus error"
  | 8 => "Floating point exception"
  | 9 => "Killed"
  | 10 => "User defined signal 1"
  | 11 => "Segmentation fault"
  | 12 => "User defined signal 2"
  | 13 => "Broken pipe"
  | 14 => "Alarm clock"
  | 15 => "Terminated"
  | 19 => "Stopped (signal)"
  | _ => "Unknown signal " ++ toString n

namespace Run

/-- Tells of a process that a signal has ended. -/
def reportFate (foreground : Bool) (pid : Nat) (text : Chars) (fate : Fate) : Run Unit := do
  match fate with
  | .killed n =>
    let s ← get
    if n = 2 || n = 13 then return
    if s.dialect = .dash then
      if foreground then complain (signalWords n)
    else if n = 15 then
      if foreground then complain "Terminated"
    else
      let number := (digits pid).leftpad 5 ' '
      let words := (ofText (signalWords n)).rightpad 23 ' '
      report (toText (number ++ ' ' :: words ++ ' ' :: text))
  | _ => return

/-- What a wait has brought: the end of a process, or a signal for which there is a trap. -/
inductive Waited
  | fate (process : Nat) (f : Fate)
  | signal (n : Nat)

/-- Waits for the end of one of some processes, or for a signal. -/
def awaitAny (pids : List Nat) : Run Waited :=
  step fun s y =>
    match (y.process? s.process).bind (·.pending.head?) with
    | some n => some (.signal n, y)
    | none =>
      pids.findSome? fun pid =>
        match y.process? pid with
        | none => some (.fate pid (.exited 127), y)
        | some p =>
          if p.isRunning then none
          else some (.fate pid p.fate, { y with processes := y.processes.filter (·.1 ≠ pid) })

/-- Keeps what has become of a process. -/
def keepFate (pid : Nat) (f : Fate) : Run Unit :=
  modify fun s => { s with
    ended := (pid, f.status) :: s.ended.filter (·.1 ≠ pid)
    jobs := s.jobs.filter (·.process ≠ pid) }

/-- The jobs that are still running. -/
def runningJobs : Run (List Job) := do
  let jobs := (← get).jobs
  observe fun _ y => jobs.filter fun j => y.isRunning j.process

/-- The job that an argument behind a percent sign means. -/
def job? (t : Chars) : Run (Option Job) := do
  let jobs ← runningJobs
  match t with
  | [] | ['%'] | ['+'] => return jobs.getLast?
  | ['-'] => return jobs.dropLast.getLast?
  | '?' :: part =>
    return jobs.find? fun j => (List.range (j.text.length + 1)).any fun i =>
      part.isPrefixOf (j.text.drop i)
  | _ =>
    match Text.readNat? 10 t with
    | some n => return (← get).jobs.find? (·.number = n)
    | none => return jobs.find? fun j => t.isPrefixOf j.text

end Run

namespace Builtin

open Run (report digits)

/-- Says that there is no such job. -/
def missesJob (command : String) (t : Chars) (status : Nat) : Run Nat := do
  match (← get).dialect with
  | .bash =>
    report (command ++ ": " ++ toText t ++ ": no such job")
    return status
  | .dash =>
    report (command ++ ": No such job: " ++ toText t)
    return 2

def jobs (args : List Chars) : Run Nat :=
  withOptions "jobs" "lnprsx" args fun o => do
    let all ← Run.runningJobs
    let mut status := 0
    let mut wanted := if o.operands.isEmpty then all else []
    for t in o.operands do
      match ← Run.job? (match t with
        | '%' :: rest => rest
        | t => t) with
      | some j => wanted := wanted ++ [j]
      | none => status ← missesJob "jobs" t 1
    let isPlain := (← get).dialect = .dash
    let newest := all.getLast?.map (·.number)
    let second := all.dropLast.getLast?.map (·.number)
    for j in wanted do
      if o.has 'p' then
        let _ ← say "jobs" (digits j.process ++ ['\n'])
      else
        let mark := if some j.number = newest then '+'
          else if some j.number = second then '-' else ' '
        let process := if o.has 'l' then ' ' :: digits j.process ++ [' '] else "  ".toList
        if isPlain then
          let process := if o.has 'l' then digits j.process ++ [' '] else []
          let start := '[' :: digits j.number ++ [']', ' ', mark, ' '] ++ process
          let _ ← say "jobs" ((start ++ "Running".toList).rightpad 33 ' ' ++ ['\n'])
        else
          let _ ← say "jobs" ('[' :: digits j.number ++ ']' :: mark :: process ++
            "Running".toList.rightpad 24 ' ' ++ j.text ++ " &\n".toList)
    return status

/-- Waits for a process of the shell. The answer is its status. -/
def waitFor (pid : Nat) : Run (Except Nat Nat) := do
  let s ← get
  match s.ended.lookup pid with
  | some status => return .ok status
  | none =>
    let isChild ← Run.observe fun s y => (y.process? pid).any (·.parent = s.process)
    if !isChild then
      unless s.dialect = .dash do report ("wait: pid " ++ toString pid ++ " is not a child of this shell")
      return .ok 127
    match ← Run.awaitAny [pid] with
    | .signal n => return .error (128 + n)
    | .fate _ f =>
      let text := ((s.jobs.find? (·.process = pid)).map (·.text)).getD []
      Run.reportFate false pid text f
      Run.keepFate pid f
      return .ok f.status

/-- Waits for all processes of the shell. -/
def waitForAll : List Nat → Run Nat
  | [] => return 0
  | pid :: rest => do
    match ← waitFor pid with
    | .error n => return n
    | .ok _ => waitForAll rest

def wait (args : List Chars) : Run Nat :=
  withOptions "wait" "fnp:" args fun o => do
    let s ← get
    let note (pid : Nat) : Run Unit := do
      match o.value? 'p' with
      | some name =>
        let _ ← storeAt "wait" name (digits pid)
      | none => pure ()
    let pidOf (t : Chars) : Run (Except Nat Nat) := do
      match t with
      | '%' :: rest =>
        match ← Run.job? rest with
        | some j => return .ok j.process
        | none => return .error (← missesJob "wait" t 127)
      | _ =>
        match Text.readNat? 10 t with
        | some pid => return .ok pid
        | none =>
          if (← get).dialect = .dash then return .error (← refuseNumber "wait" t)
          return .error (← complain "wait" ("`" ++ toText t ++ "': not a pid or valid job spec"))
    if o.has 'n' then
      let given ← o.operands.mapM pidOf
      let pids := if o.operands.isEmpty then s.jobs.map (·.process)
        else given.filterMap (·.toOption)
      match pids.find? fun p => !s.jobs.any (·.process = p) with
      | some p =>
        report ("wait: " ++ toString p ++ ": no such job")
        return 127
      | none => pure ()
      if pids.isEmpty then return 127
      match ← Run.awaitAny pids with
      | .signal n => return 128 + n
      | .fate pid f =>
        Run.keepFate pid f
        note pid
        return f.status
    if o.operands.isEmpty then
      let status ← waitForAll (s.jobs.map (·.process))
      return status
    let mut status := 0
    for t in o.operands do
      match ← pidOf t with
      | .error n => status := n
      | .ok pid =>
        match ← waitFor pid with
        | .error n => return n
        | .ok n =>
          note pid
          status := n
    return status

/-! ## Signals -/

/-- Tells the names of signals, or their numbers. -/
def listSignals (args : List Chars) : Run Nat := do
  let mut status := 0
  for t in args do
    match Text.readNat? 10 t with
    | some n =>
      let m := if 128 < n then n - 128 else n
      match Host.signals.find? (·.2 = m) with
      | some (name, _) => let _ ← say "kill" (ofText name ++ ['\n'])
      | none => status ← complain "kill" (toText t ++ ": invalid signal specification")
    | none =>
      match Host.signalNumber? t with
      | some n => let _ ← say "kill" (digits n ++ ['\n'])
      | none => status ← complain "kill" (toText t ++ ": invalid signal specification")
  return status

/-- Sends a signal to processes. -/
def sendAll (signal : Nat) (targets : List Chars) : Run Nat := do
  let mut status := 0
  for t in targets do
    match t with
    | '%' :: rest =>
      match ← Run.job? rest with
      | some j => let _ ← Run.sendSignal j.process signal
      | none => status ← missesJob "kill" t 1
    | _ =>
      match number? t with
      | none =>
        if (← get).dialect = .dash then return ← refuseNumber "kill" t
        else status ← complain "kill" (toText t ++ ": arguments must be process or job IDs")
      | some n =>
        let own := (← get).process
        let pid := if n = 0 then own else n.natAbs
        let dialect := (← get).dialect
        unless ← Run.sendSignal pid signal do
          if dialect = .dash then status ← complain "kill" "No such process"
          else status ← complain "kill" ("(" ++ toText t ++ ") - No such process")
  return status

/-- Tells the signals by their names, one a line. -/
def listPlainly (args : List Chars) : Run Nat := do
  match args with
  | [] => say "kill" (Host.signals.flatMap fun (name, n) =>
      if n = 0 then ['0', '\n'] else ofText name ++ ['\n'])
  | t :: _ =>
    match Text.readNat? 10 t with
    | none => refuseNumber "kill" t
    | some n =>
      let m := if 128 < n then n - 128 else n
      match Host.signals.find? fun e => e.2 = m && m ≠ 0 with
      | some (name, _) => say "kill" (ofText name ++ ['\n'])
      | none =>
        report ("kill: invalid signal number or exit status: " ++ toText t)
        return 2

/-- Sends a signal in the way of the smaller shell. -/
def killPlainly (args : List Chars) : Run Nat := do
  match args with
  | [] => usage "kill"
  | ('-' :: name) :: rest =>
    match Host.signalNumber? name with
    | some n => if rest.isEmpty then usage "kill" else sendAll n rest
    | none =>
      withOptions "kill" "ls:" args fun o => do
        if o.has 'l' then return ← listPlainly o.operands
        match o.value? 's' with
        | none => if o.operands.isEmpty then usage "kill" else sendAll 15 o.operands
        | some name =>
          match Host.signalNumber? name with
          | some n => if o.operands.isEmpty then usage "kill" else sendAll n o.operands
          | none =>
            report ("kill: invalid signal number or name: " ++ toText name)
            return 2
  | targets => sendAll 15 targets

def kill (args : List Chars) : Run Nat := do
  if (← get).dialect = .dash then return ← killPlainly args
  let send (name : Chars) (rest : List Chars) : Run Nat := do
    let rest := if rest.head? = some "--".toList then rest.drop 1 else rest
    match Host.signalNumber? name with
    | none => complain "kill" (toText name ++ ": invalid signal specification")
    | some n => if rest.isEmpty then usage "kill" else sendAll n rest
  match args with
  | [] => usage "kill"
  | ['-', 'l'] :: rest | ['-', 'L'] :: rest =>
    if rest.isEmpty then
      say "kill" ((Host.signals.drop 1).mapIdx fun i (name, n) =>
        (digits n).leftpad 2 ' ' ++ ofText (") SIG" ++ name) ++
          if i % 5 = 4 || n = 31 then ['\n'] else ['\t']).flatten
    else listSignals rest
  | ['-', 's'] :: name :: rest | ['-', 'n'] :: name :: rest => send name rest
  | ['-', 's'] :: [] | ['-', 'n'] :: [] =>
    report ("kill: " ++ toText (args.headD []) ++ ": option requires an argument")
    return 1
  | ['-', '-'] :: rest => if rest.isEmpty then usage "kill" else sendAll 15 rest
  | ('-' :: name) :: rest => send name rest
  | targets => sendAll 15 targets

def disown (args : List Chars) : Run Nat :=
  withOptions "disown" "har" args fun o => do
    let all ← Run.runningJobs
    if o.operands.isEmpty then
      let gone := if o.has 'a' || o.has 'r' then all else all.getLast?.toList
      unless o.has 'h' do
        modify fun s => { s with
          jobs := s.jobs.filter fun j => !gone.any (·.number = j.number) }
      return 0
    let mut status := 0
    for t in o.operands do
      let found ← match t with
        | '%' :: rest => Run.job? rest
        | t => pure (all.find? fun j => digits j.process = t)
      match found with
      | some j => modify fun s => { s with jobs := s.jobs.filter (·.number ≠ j.number) }
      | none => status ← complain "disown" (toText t ++ ": no such job")
    return status

def noControl (command : String) (args : List Chars) : Run Nat := do
  match (← get).dialect, args with
  | .bash, _ => complain command "no job control"
  | .dash, t :: _ => missesJob command t 2
  | .dash, [] =>
    report (command ++ ": No current job")
    return 2

def times (args : List Chars) : Run Nat :=
  withOptions "times" "" args fun _ =>
    say "times" "0m0.000s 0m0.000s\n0m0.000s 0m0.000s\n".toList

def ulimit (args : List Chars) : Run Nat := do
  let isPlain := (← get).dialect = .dash
  let spec := if isPlain then "HSatfdscmlpnvwr" else "SHabcdefiklmnpqrstuvxPRT"
  withOptions "ulimit" spec args fun o => do
    let isLimit (t : Chars) : Bool := t = "unlimited".toList || (Text.readNat? 10 t).isSome ||
      (!isPlain && ["hard", "soft"].contains (toText t))
    match o.operands with
    | [] =>
      say "ulimit" (if o.has 'n' then "1048576\n".toList else if o.has 'c' then ['0', '\n']
        else if o.has 's' then "8192\n".toList else "unlimited\n".toList)
    | t :: rest =>
      if isPlain && !rest.isEmpty then
        report "ulimit: too many arguments"
        return 2
      if isLimit t then return 0
      if isPlain then
        report "ulimit: bad number"
        return 2
      complain "ulimit" (toText t ++ ": invalid number")

end Builtin

end Provision.Shell
