import Provision.Program.Table
import Provision.Shell.Execution
import Provision.Shell.Invocation

/-!
Processes that take the form of programs, among which are the shells themselves.
-/

namespace Provision.Shell

open Bytes (toText ofText)
open Program (Obstacle)

/-- The paths at which programs are looked for if nothing else is said. -/
def usualPath : Chars := "/usr/local/sbin:/usr/local/bin:/usr/sbin:/usr/bin:/sbin:/bin".toList

/-! ## What a shell has at its start -/

/-- The session of a process in which no shell runs yet, with the variables that it sees. -/
def Session.outer (process directory : Nat) (environment : List (String × Chars)) : Session where
  process
  shellProcess := process
  parentProcess := 0
  directory
  mask := 0o022
  dialect := .bash
  scopes := [OrderedMap.ofList (environment.map fun (n, t) => (n, ⟨.text t, { exported := true }⟩))]
  functions := ∅
  name := "bash".toList
  arguments := []
  settings := []
  extras := []
  traps := ∅
  status := 0
  stageStatuses := [0]
  lastArgument := []
  lastJob := none
  jobs := []
  line := 1
  loops := 0
  frames := []
  guarded := false
  level := 1
  depth := 0
  forked := false
  directories := []
  aliases := ∅
  hashed := ∅
  disabled := []
  optionOffset := 0
  seed := 20230
  present := []
  isLast := false
  isStage := false
  inTrap := false
  dormant := false
  origin := .text
  started := 0
  feeds := []
  captured := false
  ended := []
  speaker := ""
  functionLine := 0

namespace Run

/-- Puts a variable into a scope unless there is one of its name. -/
def orElse (name : String) (t : Chars) (scope : Scope) : Scope :=
  if scope.contains name then scope else scope.insert name ⟨.text t, {}⟩

/-- The variables that a shell has beside those that it gets. -/
def startingScope (d : Dialect) (here : Chars) (isHere : Chars → Bool) (parent : Nat)
    (given : List (String × Chars)) : Scope :=
  let constant (t : Chars) : Variable := ⟨.text t, { constant := true, integer := true }⟩
  let exported (t : Chars) : Variable := ⟨.text t, { exported := true }⟩
  let scope : Scope := OrderedMap.ofList (given.map fun (n, t) => (n, exported t))
  let pwd := match given.lookup "PWD" with
    | some t => if isHere t then t else here
    | none => here
  let scope := scope.insert "IFS" ⟨.text " \t\n".toList, {}⟩ |>.insert "OPTIND" ⟨.text ['1'], {}⟩
  let scope := orElse "PATH" usualPath (orElse "PS4" "+ ".toList scope)
  match d with
  | .dash =>
    let scope := scope.insert "PPID" ⟨.text (digits parent), {}⟩
    let scope := orElse "PS1" "# ".toList (orElse "PS2" "> ".toList scope)
    if scope.contains "PWD" then scope.insert "PWD" (exported pwd)
    else scope.insert "PWD" ⟨.text pwd, {}⟩
  | .bash =>
    let level := ((given.lookup "SHLVL").bind (Text.readNat? 10)).getD 0 + 1
    let scope := scope.insert "PWD" (exported pwd) |>.insert "SHLVL" (exported (digits level))
    let scope := if scope.contains "OLDPWD" then scope
      else scope.insert "OLDPWD" ⟨.unset, { exported := true }⟩
    let version := ["5", "2", "15", "1", "release", "x86_64-pc-linux-gnu"].mapIdx fun i t =>
      (i, t.toList)
    let scope := scope.insert "PPID" (constant (digits parent)) |>.insert "UID" (constant ['0'])
      |>.insert "EUID" (constant ['0'])
      |>.insert "OPTIND" ⟨.text ['1'], { integer := true }⟩
      |>.insert "BASH_VERSION" ⟨.text "5.2.15(1)-release".toList, {}⟩
      |>.insert "BASH_VERSINFO" ⟨.array version, { constant := true }⟩
    [("BASH", "/usr/bin/bash"), ("HOSTNAME", "localhost"), ("HOSTTYPE", "x86_64"),
      ("MACHTYPE", "x86_64-pc-linux-gnu"), ("OSTYPE", "linux-gnu"), ("OPTERR", "1"),
      ("SHELL", "/bin/bash"), ("TERM", "dumb")].foldl (fun s (n, t) => orElse n t.toList s) scope

/-- Begins a shell in a process, with settings. -/
def begin' (d : Dialect) (i : Invocation) : Run Unit := do
  let given ← environment
  let t ← tree
  let s ← get
  let parent ← observe fun s y => ((y.process? s.process).map (·.parent)).getD 0
  let here := ofText (t.pathTo s.directory)
  let isHere (p : Chars) : Bool :=
    p.head? = some '/' && (t.locate (toText p)).toOption = some s.directory
  let fresh := Session.outer s.process s.directory []
  let time ← now
  let functions := match d with
    | .bash => (s.functions.keep fun n => (s.functions.get? n).any (·.exported)).map fun f =>
      { f with source := "environment" }
    | .dash => ∅
  set { fresh with
    mask := s.mask
    parentProcess := parent
    dialect := d
    scopes := [startingScope d here isHere parent given]
    functions
    settings := i.settings
    extras := i.extras
    started := time }

variable (e : Engine)

/-! ## Scripts from the input -/

/-- Whether a text can be run, has to go on, or cannot be read. -/
inductive Readiness
  | ready
  | open'
  | wrong

/-- Whether a text ends with a backslash before its line feed. -/
def goesOn (t : Chars) : Bool :=
  ((t.reverse.drop 1).takeWhile (· == '\\')).length % 2 = 1

def readiness (source : Source) : Readiness :=
  match source.next with
  | .ok (_, rest) => if rest.unended.isEmpty && !goesOn source.rest then .ready else .open'
  | .error e =>
    match e.problem with
    | .unfinished _ | .unclosed _ | .unclosedArray => .open'
    | _ => .wrong

/-- Runs what comes in by lines, each command as soon as it is complete. -/
def inputLines (label : String) : Nat → Chars → Nat → Run Unit
  | 0, _, _ => return
  | room + 1, held, line => do
    let d := (← get).dialect
    let runHeld (held : Chars) : Run Unit :=
      lines e.toRunner label line held false (held.length + 1) (.ofChars d line held)
    match ← takeThrough 0 '\n' with
    | .error _ => return
    | .ok (text, found) =>
      if text.isEmpty && !found then
        unless held.isEmpty do runHeld held
      else
        let held := held ++ text ++ ['\n']
        match readiness (← readable (Source.ofChars d line held)) with
        | .open' => inputLines label room held line
        | .ready =>
          runHeld held
          inputLines label room [] (line + held.count '\n')
        | .wrong => runHeld held

/-- Input has so many lines at most. -/
def maxLines : Nat := 1000000000

/-! ## Shells -/

/-- Whether a text has a zero byte in its first line, as programs do. -/
def isBinary (t : Chars) : Bool :=
  (t.takeWhile (· != '\n')).contains '\x00' || "\x7fELF".toList.isPrefixOf t

/-- Runs the script in a file. -/
def runScript (path : Chars) (args : List Chars) : Run Unit := do
  let s ← get
  let shell := toText s.name
  let opened ← match ← readFile path with
    | .error .notFound =>
      if path.contains '/' || s.dialect = .dash then pure (path, .error .notFound)
      else do
        match (← (← candidates path).filterM fun p => do return (← tree).exists? (toText p)) with
        | p :: _ => pure (p, ← readFile p)
        | [] => pure (path, .error .notFound)
    | r => pure (path, r)
  match opened with
  | (path, .error reason) =>
    match s.dialect, reason with
    | .dash, .isADirectory => return
    | .dash, _ =>
      complain (shell ++ ": 0: cannot open " ++ toText path ++ ": No such file")
      setStatus 2
    | .bash, .isADirectory =>
      complain (toText path ++ ": " ++ toText path ++ ": Is a directory")
      setStatus 126
    | .bash, reason =>
      complain (shell ++ ": " ++ toText path ++ ": " ++ reason.reason)
      setStatus (if reason = .notFound then 127 else 126)
  | (path, .ok text) =>
    if s.dialect = .bash && isBinary text then
      complain (toText path ++ ": " ++ toText path ++ ": cannot execute binary file")
      setStatus 126
    else
      let text := text.filter (· != '\x00')
      set { s with name := path, arguments := args, origin := .file }
      script e.toRunner (toText path) 1 false text

/-- Lets the process be a shell, which is called by words. The answer is its status. -/
def runShell (d : Dialect) (words : List Chars) : Run Nat := do
  let name := words.headD []
  let shown := toText name
  let show' (lines : List String) : Run Unit := do
    if !lines.isEmpty then
      let _ ← emit 1 (ofText (String.join (lines.map (· ++ "\n"))))
  match Invocation.read d shown (words.drop 1) with
  | .error notice =>
    show' notice.shown
    let text := String.join (notice.lines.map (· ++ "\n"))
    let _ ← emit (if notice.isComplaint then 2 else 1) (ofText text)
    return notice.status
  | .ok i =>
    show' i.shown
    begin' d i
    modify fun s => { s with name, lastArgument := name }
    adoptTraps
    let r := e.toRunner
    let _ ← attempt (match i.takesText, i.takesInput, i.rest with
      | true, _, text :: rest => do
        modify fun s => { s with name := rest.headD name, arguments := rest.drop 1 }
        if d = .bash then
          put "BASH_EXECUTION_STRING" ⟨.text text, {}⟩
        script r (toText (rest.headD name) ++ ": -c") 1 true text
      | false, false, path :: rest => runScript e path rest
      | _, _, rest => do
        modify fun s => { s with arguments := rest, origin := .input }
        match d with
        | .bash => inputLines e shown maxLines [] 1
        | .dash => script r shown 1 false ((← takeAll 0).filter (· != '\x00')))
    let _ ← attempt (exitTrap r)
    return (← get).status

/-! ## Programs -/

/-- The program that a name means for other programs. -/
def findProgram (name : Chars) : Run (Except Obstacle Chars) := do
  if name.contains '/' then return .ok name
  if name.isEmpty then return .error .missing
  let t ← tree
  let path := (← textOf? "PATH").getD "/bin:/usr/bin".toList
  let all := (path.splitOn ':').map fun d => if d.isEmpty then '.' :: '/' :: name
    else d ++ '/' :: name
  match all.find? (isRunnable t) with
  | some p => return .ok p
  | none => return .error (if all.any fun p => t.exists? (toText p) then .denied else .missing)

/-- What reads a script, and an argument for it, where its first line says that. -/
def interpreter? (text : Chars) : Option (Chars × Option Chars) :=
  match text with
  | '#' :: '!' :: rest =>
    let line := (rest.takeWhile (· != '\n')).dropWhile isBlankChar
    let line := (line.reverse.dropWhile isBlankChar).reverse
    let path := line.takeWhile (!isBlankChar ·)
    let behind := (line.drop path.length).dropWhile isBlankChar
    if path.isEmpty then none else some (path, if behind.isEmpty then none else some behind)
  | _ => none

/-- Scripts can be read by others so often. -/
def maxInterpreters : Nat := 5

/-- Lets the process take the form of the program at a path, which is called by words. -/
def becomeFile : Nat → Dialect → Chars → List Chars → Run (Except Obstacle Nat)
  | 0, _, _, _ => return .error (.failed .tooManyLinks)
  | room + 1, d, path, words => do
    match (← tree).find (toText path) with
    | .error .notFound => return .error .missing
    | .error reason => return .error (.failed reason)
    | .ok n =>
      if n.isDirectory || !n.isExecutable then return .error .denied
      share fun s y => ((), y.alterProcess s.process fun p => { p with caught := [] })
      match n.content with
      | .program "bash" => return .ok (← runShell e .bash words)
      | .program "dash" => return .ok (← runShell e .dash words)
      | .program name =>
        let become (words : List Chars) : Run (Except Obstacle Nat) := do
          match ← findProgram (words.headD []) with
          | .error o => return .error o
          | .ok path => e.become .dash path words
        match Program.table.lookup name with
        | some p => return .ok (← p ⟨toText (words.headD []), become⟩ (words.drop 1))
        | none => return .ok 127
      | _ =>
        let text := Bytes.ofBytes n.bytes
        match interpreter? text with
        | some (i, argument) =>
          match ← becomeFile room .dash i (i :: argument.toList ++ path :: words.drop 1) with
          | .error .denied => return .error (.interpreter i true)
          | .error .missing => return .error (.interpreter i false)
          | r => return r
        | none =>
          if isBinary text then return .error .binary
          let shell := match d with
            | .bash => "bash"
            | .dash => "sh"
          return .ok (← runShell e d (shell.toList :: path :: words.drop 1))

/-- Ends the process as one that goes too deep. -/
def fault {α : Type} : Run α := do
  perish 11
  stop

/-- What carries out commands that may stand so deep in one another. -/
def engine : Nat → Engine
  | 0 => { commands := fun _ => fault, subshell := fun _ => fault, become := fun _ _ _ => fault }
  | room + 1 =>
    let e := engine room
    { commands := fun cs => do sequence (execute e) (← get).isLast cs
      subshell := ownShell e true
      become := becomeFile e maxInterpreters }

/-- So deep commands may stand in one another. -/
def maxDepth : Nat := 50000

end Run

end Provision.Shell
