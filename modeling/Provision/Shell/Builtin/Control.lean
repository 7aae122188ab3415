import Provision.Shell.Builtin.Basic
import Provision.Shell.Lines

/-!
Builtins that change what is done next: the ends of shells, functions and loops, texts that are run,
and traps.
-/

namespace Provision.Shell.Builtin

open Bytes (toText ofText)
open Run (report digits)

/-! ## Ends -/

/-- The status that an argument asks for, or the present one. -/
def statusOf (command : String) (args : List Chars) : Run (Except Nat Nat) := do
  match (if args.head? = some "--".toList then args.drop 1 else args) with
  | [] => return .ok (← get).status
  | a :: rest =>
    match number? a with
    | some n =>
      if (← get).dialect = .dash && n < 0 then return .error (← refuseNumber command a)
      if rest.isEmpty then return .ok (n % 256).toNat
      else
        report (command ++ ": too many arguments")
        Run.setStatus 1
        throw .abandon
    | none =>
      if (← get).dialect = .dash then return .error (← refuseNumber command a)
      report (command ++ ": " ++ toText a ++ ": numeric argument required")
      return .error 2

def exit (runner : Runner) (args : List Chars) : Run Nat := do
  match ← statusOf "exit" args with
  | .ok n | .error n => Run.quit runner n

def leaveCall (args : List Chars) : Run Nat := do
  let s ← get
  match ← statusOf "return" args with
  | .ok n | .error n =>
    if s.frames.any fun f => f.isFunction || f.name = "source" then
      Run.setStatus n
      throw .finish
    else if s.dialect = .dash then
      Run.setStatus n
      throw .finish
    else
      report "return: can only `return' from a function or sourced script"
      return 2

/-- Leaves loops, or goes on with the next round of one. -/
def outOfLoops (runner : Runner) (command : String) (halt : Nat → Halt) (args : List Chars) :
    Run Nat := do
  let s ← get
  if s.dialect = .dash then
    let count := args.head?.bind number?
    if !args.isEmpty && !(count.any (0 < ·)) then
      Run.leave (← refuseNumber command (args.headD []))
  if s.loops = 0 then
    if s.dialect = .bash then
      report (command ++ ": only meaningful in a `for', `while', or `until' loop")
    return 0
  match args with
  | [] =>
    Run.setStatus 0
    throw (halt 1)
  | a :: _ =>
    match number? a with
    | some n =>
      if n ≤ 0 then
        report (command ++ ": " ++ toText a ++ ": loop count out of range")
        Run.setStatus 1
        throw (.stop s.loops)
      else
        Run.setStatus 0
        throw (halt (min n.toNat s.loops))
    | none =>
      report (command ++ ": " ++ toText a ++ ": numeric argument required")
      Run.quit runner 128

/-! ## Texts that are run -/

def eval (runner : Runner) (args : List Chars) : Run Nat :=
  withOptions "eval" "" args fun o => do
    if o.operands.isEmpty then return 0
    Run.setStatus 0
    let level := (← get).level
    modify fun s => { s with level := s.level + 1, isLast := false, speaker := "eval: " }
    Run.finally' (Run.inner runner "eval" (List.intercalate [' '] o.operands))
      (modify fun s => { s with level })
    return (← get).status

/-- The file that is meant by a name without slashes, which is looked for like a command. In the smaller
shell it may be missing. -/
def sourcePath? (path : Chars) : Run (Option Chars) := do
  if path.contains '/' then return some path
  let t ← Run.tree
  let places := (← Run.textOf "PATH").splitOn ':'
  let found := places.findSome? fun d =>
    let p := (if d.isEmpty then ['.'] else d) ++ '/' :: path
    match t.find (toText p) with
    | .ok n => if n.isFile then some p else none
    | .error _ => none
  return found.or (if (← get).dialect = .dash then none else some path)

def source (runner : Runner) (command : String) (args : List Chars) : Run Nat :=
  withOptions command "" args fun o => do
    match o.operands with
    | [] =>
      report (command ++ ": filename argument required")
      usage command
    | path :: rest =>
      let some found ← sourcePath? path | do
        report (command ++ ": " ++ toText path ++ ": not found")
        Run.leave 2
      if (← Run.tree).isDirectory (toText found) then
        report (command ++ ": " ++ toText path ++ ": is a directory")
        return 1
      match ← Run.readFile found with
      | .error e =>
        if (← get).dialect = .dash then
          report (command ++ ": cannot open " ++ toText path ++ ": No such file")
          Run.leave 2
        report (toText path ++ ": " ++ e.reason)
        return 1
      | .ok text =>
        let s ← get
        set { s with
          arguments := if rest.isEmpty then s.arguments else rest
          frames := ⟨"source", s.line, toText found, false, none⟩ :: s.frames
          isLast := false, status := 0, speaker := toText found ++ ": " }
        let body : Run Unit := tryCatch (Run.script runner (toText found) 1 false text) fun
          | .finish => pure ()
          | h => throw h
        Run.finally' body (modify fun t =>
          { t with
            arguments := if rest.isEmpty then t.arguments else s.arguments
            frames := s.frames, line := s.line })
        return (← get).status

/-! ## Traps -/

/-- The name under which a trap is kept. -/
def trapName? (t : Chars) : Option String :=
  let upper := toText (t.map Char.toUpper)
  let name := if upper.startsWith "SIG" then (upper.drop 3).toString else upper
  match Text.readNat? 10 t with
  | some n => (Host.signals.find? (·.2 = n)).map (·.1)
  | none =>
    if ["DEBUG", "ERR", "RETURN"].contains name then some name
    else (Host.signals.find? (·.1 = name)).map (·.1)

/-- The traps that are set, in the order of their signals. -/
def trapOrder : List String := Host.signals.map (·.1) ++ ["DEBUG", "ERR", "RETURN"]

/-- A trap as a command that sets it. -/
def shownTrap (d : Dialect) (name : String) (action : Chars) : Chars :=
  let shown := if ["EXIT", "DEBUG", "ERR", "RETURN"].contains name || d = .dash then name
    else "SIG" ++ name
  let quoted := if d = .dash then Quoted.plain action else Quoted.single action
  "trap -- ".toList ++ quoted ++ ' ' :: ofText shown ++ ['\n']

def showTraps (names : List String) : Run Nat := do
  let s ← get
  say "trap" (names.flatMap fun n =>
    match s.traps.get? n with
    | some action => shownTrap s.dialect n action
    | none => [])

/-- The signals in columns of five. -/
def signalTable : Chars :=
  let rows := Host.signals.drop 1
  (rows.mapIdx fun i (name, n) =>
    let column := (digits n).leftpad 2 ' ' ++ ofText (") SIG" ++ name)
    column ++ if i % 5 = 4 || i + 1 = rows.length then ['\n'] else ['\t']).flatten

/-- Changes the traps. The first change in a shell inside another one forgets what it has from
there. -/
def alterTraps (f : OrderedMap String Chars → OrderedMap String Chars) : Run Unit := do
  modify fun s =>
    let own := if s.dormant then s.traps.keep fun n => (s.traps.get? n).any (·.isEmpty) else s.traps
    { s with traps := f own, dormant := false }
  Run.adoptTraps

def trap (args : List Chars) : Run Nat :=
  withOptions "trap" "lp" args fun o => do
    if o.has 'l' then return ← say "trap" signalTable
    let refuse (t : Chars) : Run Nat := do
      if (← get).dialect = .dash then
        Run.complain ("trap: " ++ toText t ++ ": bad trap")
        return 1
      else complain "trap" (toText t ++ ": invalid signal specification")
    if o.has 'p' then
      if o.operands.isEmpty then return ← showTraps trapOrder
      match o.operands.find? fun t => (trapName? t).isNone with
      | some t => return ← refuse t
      | none => return ← showTraps (o.operands.filterMap trapName?)
    match o.operands with
    | [] => showTraps trapOrder
    | action :: signals =>
      let isReset := action = ['-'] || (signals.isEmpty && (trapName? action).isSome) ||
        (Text.readNat? 10 action).isSome
      let signals := if isReset && action ≠ ['-'] then action :: signals else signals
      if signals.isEmpty then return ← usage "trap"
      let mut status := 0
      for t in signals do
        match trapName? t with
        | none => status ← refuse t
        | some name =>
          if isReset then alterTraps (·.erase name) else alterTraps (·.insert name action)
      return status

/-! ## Calls -/

def caller (args : List Chars) : Run Nat := do
  let s ← get
  let n := ((args.head?.bind number?).getD 0).toNat
  let frames := s.allFrames
  match frames[n]? with
  | none => return 1
  | some f =>
    match frames[n + 1]?, args with
    | above, [] =>
      let source := match above with
        | some g => g.source
        | none => "NULL"
      say "caller" (digits f.line ++ ' ' :: ofText source ++ ['\n'])
    | some g, _ =>
      say "caller" (digits f.line ++ ' ' :: ofText (g.name ++ " " ++ g.source) ++ ['\n'])
    | none, _ => return 1

end Provision.Shell.Builtin
