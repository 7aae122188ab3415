import Provision.Program.Basic
import Provision.Shell.Builtin.Control
import Provision.Shell.Builtin.Directory
import Provision.Shell.Builtin.Input
import Provision.Shell.Builtin.Job
import Provision.Shell.Builtin.Setting
import Provision.Shell.Lookup
import Provision.Shell.Redirection
import Provision.Shell.Session

/-!
Calls of functions, builtins and programs.
-/

namespace Provision.Shell.Run

/-- Does something in a place where a failure is an answer. -/
def guarded (act : Run Unit) : Run Unit := do
  let old := (← get).guarded
  modify fun s => { s with guarded := true }
  finally' act (modify fun s => { s with guarded := old })

/-- Does something again and again, as long as it says so. -/
def iterate (act : Run Bool) : Nat → Run Unit
  | 0 => return
  | room + 1 => do if ← act then iterate act room

/-- So often a loop may go round. -/
def maxRounds : Nat := 1000000000000

/-- Does one round of a loop. The answer is whether the loop goes on. -/
def oneRound (act : Run Unit) : Run Bool :=
  tryCatch (do act; return true) fun
    | .stop n => if n ≤ 1 then return false else throw (.stop (n - 1))
    | .again n => if n ≤ 1 then return true else throw (.again (n - 1))
    | h => throw h

/-- Does something as a loop. -/
def looping (act : Run Unit) : Run Unit := do
  modify fun s => { s with loops := s.loops + 1 }
  finally' act (modify fun s => { s with loops := s.loops - 1 })

/-- Does something for each of some values, up to a round that says that it is the last one. -/
def forEach {α : Type} (act : α → Run Bool) : List α → Run Unit
  | [] => return
  | a :: as => do if ← act a then forEach act as

end Provision.Shell.Run

namespace Provision.Shell

open Bytes (toText ofText)
open Program (Obstacle)

/-- What carries out commands, and lets the own process take the form of the program at a path, which
gets words. A text without a sign of what reads it is a script for a shell. -/
structure Engine extends Runner where
  become : Dialect → Chars → List Chars → Run (Except Obstacle Nat)

/-- A command that is called: its words, the variables that it gets for its time, its redirections,
and how it is shown. -/
structure Call where
  name : Chars
  args : List Chars
  scope : Scope
  redirections : List Redirection
  shown : Chars

namespace Run

variable (e : Engine)

/-! ## Variables for a time -/

/-- The variables that assignments before a command give to it. Each of them sees those before
it. -/
def temporary : List Assignment → Run Unit
  | [] => return
  | .mk name index indexText append value :: as => do
    let old := (find? name (← get).scopes).getD ⟨.unset, {}⟩
    match index, value with
    | some _, _ =>
      report ("`" ++ name ++ toText indexText ++ "': not a valid identifier")
    | none, .elements .. => pure ()
    | none, .word w =>
      let text ← expandValue e.toRunner w.parts
      traceGiven e.toRunner (ofText name) [] append
        (if text.isEmpty then [] else Quoted.traced text)
      if old.marks.constant then refuseConstant none name
      else
        let t := if append then (old.value.text?.getD []) ++ text else text
        modify fun s => { s with scopes := match s.scopes with
          | scope :: rest => scope.insert name ⟨.text t, { exported := true }⟩ :: rest
          | [] => [] }
    temporary as

/-- Does something with a further scope of variables. The answer has what is left in the scope. -/
def inScope {α : Type} (scope : Scope) (act : Run α) : Run (α × Scope) := do
  let s ← get
  set { s with scopes := scope :: s.scopes }
  let left : Run Scope := do
    let t ← get
    let extra := t.scopes.drop (t.scopes.length - s.scopes.length - 1)
    set { t with scopes := extra.drop 1 }
    return extra.headD ∅
  let r ← attempt act
  let scope ← left
  return (← resume r, scope)

/-- Does something with further variables, if there are some. -/
def withScope (scope : Scope) (act : Run Unit) : Run Unit := do
  if scope.size = 0 then act
  else let _ ← inScope scope act

/-! ## Functions -/

/-- Lets a trap that is set no more be set again. -/
def reinstate (old new : OrderedMap String Chars) : OrderedMap String Chars :=
  ["ERR", "DEBUG", "RETURN"].foldl (fun (m : OrderedMap String Chars) n =>
    match old.get? n with
    | some action => if m.contains n then m else m.insert n action
    | none => m) new

/-- Runs what a trap asks for at the end of a function. -/
def returnTrap : Run Unit := do
  let s ← get
  match s.traps.get? "RETURN" with
  | some action =>
    unless s.inTrap || s.dormant && !s.settings.contains .functionTrace do
      runTrap e.toRunner "trap" action
  | none => return

/-- Calls a function with arguments and variables of its own. -/
def callFunction (f : Function) (name : Chars) (args : List Chars) (scope : Scope) : Run Unit := do
  let s ← get
  let most := ((← textOf? "FUNCNEST").bind (Text.readNat? 10)).getD 0
  if 0 < most && most ≤ (s.frames.filter (·.isFunction)).length then
    report (toText name ++ ": maximum function nesting level exceeded (" ++ toString most ++ ")")
    setStatus 1
    throw .abandon
  let hidden := (if s.settings.contains .functionTrace then [] else ["DEBUG", "RETURN"]) ++
    if s.settings.contains .errorTrace then [] else ["ERR"]
  set { s with
    arguments := args, loops := 0, isLast := false, scopes := scope :: s.scopes
    frames := ⟨toText name, s.line, f.source, true, none⟩ :: s.frames
    traps := s.traps.keep (!hidden.contains ·)
    functionLine := if s.dialect = Dialect.dash then f.line else 0 }
  let body : Run Unit := tryCatch (e.commands [f.body]) fun
    | .finish => pure ()
    | h => throw h
  finally' (do body; returnTrap e) (modify fun t =>
    let own := (t.frames.drop (t.frames.length - s.frames.length - 1)).head?.bind (·.settings)
    { t with
      settings := own.getD t.settings
      arguments := s.arguments, loops := s.loops, frames := s.frames, line := s.line
      functionLine := s.functionLine
      scopes := t.scopes.drop (t.scopes.length - s.scopes.length)
      traps := reinstate s.traps t.traps })

/-! ## Programs -/

/-- The path of the program that a name means. Where it has been found before, it is not looked for
again, unless it is to be looked for in other directories. Without such it is here. -/
def programPath? (elsewhere : Bool) (name : Chars) : Run (Option Chars) := do
  if name.contains '/' then return some name
  if let some path ← if elsewhere then pure none else hashed? name then return some path
  if (← get).dialect = .bash && (← searchPath?).isNone then return some name
  match ← programs name with
  | path :: _ =>
    unless elsewhere do hashProgram name path 1
    return some path
  | [] => return none

/-- Says why a program cannot be run, in the name of a command in the smaller shell. The answer is the
status for that. -/
def reportObstacle (command : String) (path : Chars) (o : Obstacle) : Run Nat := do
  let s ← get
  let shown := toText path
  if s.dialect = .dash then
    match o with
    | .missing | .failed .notADirectory | .interpreter _ false =>
      report (command ++ shown ++ ": not found")
      return 127
    | o =>
      report (command ++ shown ++ ": " ++ o.reason)
      return 126
  match o with
  | .missing =>
    report (shown ++ ": No such file or directory")
    return 127
  | .denied =>
    let reason := if (← tree).isDirectory shown then "Is a directory" else "Permission denied"
    report (shown ++ ": " ++ reason)
    return 126
  | .failed e =>
    report (shown ++ ": " ++ e.reason)
    return 126
  | .interpreter _ false =>
    report (shown ++ ": cannot execute: required file not found")
    return 127
  | .interpreter i true =>
    complain (s.source ++ ": " ++ shown ++ ": " ++ toText i ++
      ": bad interpreter: Permission denied")
    return 126
  | .binary =>
    report (shown ++ ": cannot execute binary file: Exec format error")
    return 126

/-- Lets the own process take the form of a program. The answer is its status. -/
def becomeNamed (path? : Option Chars) (name : Chars) (args : List Chars) : Run Nat := do
  let s ← get
  match path? with
  | some path =>
    if s.dialect = .bash then put "_" ⟨.text path, { exported := true }⟩
    let given ← handedOver
    let kept := (← get).scopes
    modify fun s => { s with scopes := [given] }
    match ← e.become s.dialect path (name :: args) with
    | .ok status => return status
    | .error o =>
      modify fun s => { s with scopes := kept }
      reportObstacle "" path o
  | none =>
    match s.functions.get? "command_not_found_handle" with
    | some f =>
      callFunction e f "command_not_found_handle".toList (name :: args) ∅
      return (← get).status
    | none =>
      report (if s.dialect = .dash then toText name ++ ": not found"
        else toText (Quoted.named name) ++ ": command not found")
      return 127

/-- What a shell is in a process of its own. -/
def separate (raised : Bool) : Run Unit := do
  modify fun s => { s with
    depth := if raised then s.depth + 1 else s.depth
    forked := true, loops := 0, jobs := [], ended := [], feeds := [], hashed := s.hashed
    dormant := s.dormant || s.traps.size ≠ 0 }

/-- A shell whose place another program takes does not count as one around that. -/
def lowerLevel : Run Unit := do
  match find? "SHLVL" (← get).scopes with
  | some ⟨.text t, marks⟩ =>
    let n := (Text.readNat? 10 t).getD 0
    put "SHLVL" ⟨.text (digits (n - 1)), marks⟩
  | _ => return

/-- Runs a program. If it is all that is left to do, it takes the place of the shell. -/
def callProgram (c : Call) : Run Unit := do
  let path? ← programPath? (c.scope.contains "PATH") c.name
  let body : Run Unit := do
    let done ← redirectAll e.toRunner c.redirections
    let s ← get
    setStatus (← if done then becomeNamed e path? c.name c.args
      else pure (if s.dialect = .dash then 2 else 1))
    stop
  let s ← get
  if s.isLast && (s.traps.size = 0 || s.dormant) && s.feeds.isEmpty then
    unless s.isStage do lowerLevel
    body
  else
    let child ← startWith [] do
      separate false
      body
    let fate ← await child
    reportFate true child c.shown fate
    setStatus fate.status

/-! ## Builtins -/

/-- A builtin that tests, with its last argument if it needs one. -/
def bracket (args : List Chars) : Run Nat := do
  let isPlain := (← get).dialect = .dash
  let closes (t : Chars) : Bool := if isPlain then t.head? = some ']' else t = [']']
  if args.getLast?.any closes then testStatus "[" args.dropLast
  else
    report (if (← get).dialect = .dash then "[: missing ]" else "[: missing `]'")
    return 2

/-- The builtins that do not call other commands by their names. -/
def routine? (name : String) : Option Routine :=
  let r := e.toRunner
  match name with
  | ":" | "true" => some fun _ => return 0
  | "false" => some fun _ => return 1
  | "." | "source" => some fun args => do
    let status ← Builtin.source r name args
    unless args.isEmpty do returnTrap e
    return status
  | "[" => some bracket
  | "test" => some (testStatus "test")
  | "alias" => some Builtin.nameTexts
  | "bg" | "fg" => some (Builtin.noControl name)
  | "break" => some (Builtin.outOfLoops r name .stop)
  | "caller" => some Builtin.caller
  | "cd" => some Builtin.cd
  | "compgen" => some Builtin.compgen
  | "continue" => some (Builtin.outOfLoops r name .again)
  | "declare" | "typeset" | "local" | "export" | "readonly" => some (declare r name [])
  | "dirs" => some Builtin.dirs
  | "disown" => some Builtin.disown
  | "echo" => some Builtin.echo
  | "enable" => some Builtin.enable
  | "eval" => some (Builtin.eval r)
  | "exit" => some (Builtin.exit r)
  | "getopts" => some Builtin.getopts
  | "hash" => some Builtin.hash
  | "help" => some Builtin.help
  | "history" => some Builtin.history
  | "jobs" => some Builtin.jobs
  | "kill" => some Builtin.kill
  | "let" => some Builtin.reckon
  | "logout" => some fun _ => Builtin.complain name "not login shell: use `exit'"
  | "mapfile" | "readarray" => some (Builtin.mapfile name (inner r name))
  | "popd" => some Builtin.popd
  | "printf" => some Builtin.printf
  | "pushd" => some Builtin.pushd
  | "pwd" => some Builtin.pwd
  | "read" => some Builtin.read
  | "return" => some Builtin.leaveCall
  | "set" => some Builtin.configure
  | "shift" => some Builtin.shift
  | "shopt" => some Builtin.shopt
  | "suspend" => some fun _ => Builtin.complain name "cannot suspend: no job control"
  | "times" => some Builtin.times
  | "trap" => some Builtin.trap
  | "type" => some Builtin.type'
  | "ulimit" => some Builtin.ulimit
  | "umask" => some Builtin.umask
  | "unalias" => some Builtin.unalias
  | "unset" => some Builtin.unset
  | "wait" => some Builtin.wait
  | _ => none

/-- A path from the root. -/
def absolute (path : Chars) : Run Chars := do
  if path.head? = some '/' then return path
  let short := if ['.', '/'].isPrefixOf path then path.drop 2 else path
  return (← textOf "PWD") ++ '/' :: short

/-- Lets a program take the place of the shell. If that is impossible, the shell ends too. -/
def exec (c : Call) : Run Unit := do
  let s ← get
  unless ← redirectAll e.toRunner c.redirections do
    if s.dialect = .dash then leave 2
    setStatus 1
    return
  setStatus (← Builtin.withOptions "exec" (if s.dialect = .dash then "" else "cla:") c.args fun o => do
    match o.operands with
    | [] => return 0
    | name :: args =>
      let fail (status : Nat) : Run Nat := do
        if s.extras.contains "execfail" then return status
        quit e.toRunner status
      match ← programPath? (c.scope.contains "PATH") name with
      | none =>
        report ("exec: " ++ toText name ++ ": not found")
        fail 127
      | some path =>
        let path ← if s.dialect = .dash then pure path else absolute path
        let title := (o.value? 'a').getD name
        let title := if o.has 'l' then '-' :: title else title
        if s.dialect = .bash then lowerLevel
        if o.has 'c' then modify fun s => { s with scopes := [] }
        modify fun s => { s with traps := s.traps.keep fun n => (s.traps.get? n).any (·.isEmpty) }
        let given ← handedOver
        modify fun s => { s with scopes := [given] }
        match ← e.become s.dialect path (title :: args) with
        | .ok status =>
          setStatus status
          stop
        | .error o =>
          modify fun t => { t with traps := s.traps, scopes := s.scopes }
          let status ← reportObstacle "exec: " path o
          if o = .denied then
            let reason := if (← tree).isDirectory (toText path) then "Is a directory"
              else "Permission denied"
            report ("exec: " ++ toText path ++ ": cannot execute: " ++ reason)
          fail status)

/-- Calls a command. Functions count if they are asked for. -/
def invoke : Nat → Bool → Call → Run Unit
  | 0, _, _ => setStatus 1
  | room + 1, functions, c => do
    let s ← get
    let key := toText c.name
    match if functions then s.functions.get? key else none with
    | some f => redirected e.toRunner c.redirections (callFunction e f c.name c.args c.scope)
    | none =>
      if !(← isBuiltin key) then
        if c.name.head? = some '%' && s.dialect = .bash then
          setStatus (← Builtin.noControl "fg" [])
        else withScope c.scope (callProgram e c)
      else
        let again (functions : Bool) (name : Chars) (args : List Chars) : Run Unit :=
          invoke room functions { c with name, args, scope := ∅, redirections := [] }
        match key with
        | "exec" => withScope c.scope (exec e c)
        | "command" =>
          match c.args with
          | name :: args =>
            if name.head? ≠ some '-' then invoke room false { c with name, args }
            else redirected e.toRunner c.redirections (withScope c.scope do
              setStatus (← Builtin.withOptions "command" "pVv" c.args fun o => do
                let inStandard {α : Type} (act : Run α) : Run α := do
                  if !o.has 'p' then return ← act
                  let path : Scope := (∅ : Scope).insert "PATH" ⟨.text standardPath, {}⟩
                  return (← inScope path act).1
                if o.has 'v' || o.has 'V' then
                  inStandard (Builtin.describeAll (o.has 'V') o.operands)
                else
                  match o.operands with
                  | [] => return 0
                  | name :: args =>
                    if o.has 'p' && !(← isBuiltin (toText name)) && !name.contains '/' then
                      let found ← inStandard (programs name)
                      if let some path := found.head? then hashProgram name path 0
                    again false name args
                    return (← get).status))
          | [] => setStatus 0
        | "builtin" =>
          redirected e.toRunner c.redirections (withScope c.scope do
            match if c.args.head? = some "--".toList then c.args.drop 1 else c.args with
            | [] => setStatus 0
            | name :: args =>
              if allBuiltins.contains (toText name) then again false name args
              else setStatus (← Builtin.complain "builtin" (toText name ++ ": not a shell builtin")))
        | _ =>
          redirected e.toRunner c.redirections (withScope c.scope do
            match routine? e key with
            | some r =>
              let speaker := (← get).speaker
              modify fun s => { s with speaker := "" }
              finally' (do setStatus (← r c.args)) (modify fun s => { s with speaker })
            | none => setStatus 0)

/-- Commands that call others may stand so deep in one another. -/
def maxInvocations : Nat := 100

end Run

end Provision.Shell
