import Provision.Shell.Expansion

/-!
Scripts, which run line by line, and what traps ask for.
-/

namespace Provision.Shell

open Bytes (toText ofText)

/-- How the smaller shell names a token. -/
def plainToken (t : String) : String :=
  if t = "newline" then t
  else if "<>".toList.contains (t.toList.headD ' ') then "redirection"
  else if plainOperators.contains t || plainKeywords.contains t then "\"" ++ t ++ "\""
  else "word"

/-- What the smaller shell says of a script that cannot be read. -/
def SyntaxProblem.plainMessage (p : SyntaxProblem) : String :=
  let expecting (e : Option String) : String := match e with
    | some e => " (expecting " ++ plainToken e ++ ")"
    | none => ""
  match p with
  | .unexpected token e => plainToken (toText token) ++ " unexpected" ++ expecting e
  | .unfinished e => "end of file unexpected" ++ expecting e
  | .unclosed '\x7d' => "Missing '\x7d'"
  | .unclosed ')' => "end of file unexpected (expecting \")\")"
  | .unclosed c =>
    if c = backquote then "EOF in backquote substitution" else "Unterminated quoted string"
  | .badName _ => "Bad for loop variable"
  | .badSubstitution => "Bad substitution"
  | .unclosedArray => "word unexpected"
  | .condition reasons => reasons.headD ""

/-- Whether a script ends where it should go on. -/
def SyntaxProblem.isAtEnd : SyntaxProblem → Bool
  | .unfinished _ | .unclosed _ => true
  | _ => false

/-- What a reader says of a script that it cannot read, with the line in question. -/
def SyntaxError.lines (e : SyntaxError) (first : Nat) (source : Chars) : List String :=
  let quoted := "`" ++ toText ((source.splitOn '\n').getD (e.line - first) []) ++ "'"
  match e.problem with
  | .unexpected token _ => ["syntax error near unexpected token `" ++ toText token ++ "'", quoted]
  | .unfinished _ => ["syntax error: unexpected end of file"]
  | .unclosed mark =>
    ["unexpected EOF while looking for matching `" ++ String.singleton mark ++ "'"]
  | .unclosedArray => ["unexpected EOF while looking for matching `)'"]
  | .condition reasons => reasons
  | .badName name => ["`" ++ toText name ++ "': not a valid identifier"]
  | .badSubstitution => ["bad substitution"]

namespace Run

/-- Says what is wrong with a script. -/
def reportSyntax (label : String) (first : Nat) (source : Chars) (e : SyntaxError) :
    Run Unit := do
  let s ← get
  if s.dialect = .dash then
    let line := if e.problem.isAtEnd then first + source.count '\n' else e.line
    reportAt line ("Syntax error: " ++ e.problem.plainMessage)
    leave 2
  let start := label ++ ": line " ++ toString e.line ++ ": "
  for l in e.lines first source do complain (start ++ l)
  setStatus (if e.problem = .unclosedArray then 1 else 2)

/-- Says that a here-document ends with the script. -/
def reportUnended (notes : List (Nat × Nat × Chars)) : Run Unit := do
  if (← get).dialect = .dash then return
  for (last, first, delimiter) in notes do
    complain ((← get).source ++ ": line " ++ toString last ++ ": warning: here-document at line " ++
      toString first ++ " delimited by end-of-file (wanted `" ++ toText delimiter ++ "')")

/-- Whether nothing is left of a script but blanks. -/
def isSpent (s : Source) : Bool := s.rest.all fun c => " \t\n".toList.contains c

variable (runner : Runner)

/-- A source as the shell reads it at present. -/
def readable (source : Source) : Run Source := do
  let s ← get
  let expands := s.extras.contains "expand_aliases" || s.settings.contains .posix
  return { source with
    extended := s.extras.contains "extglob"
    aliases := if expands then s.aliases else ∅ }

/-- Runs the lines of a script one by one, each as soon as it is read. If it is all that a shell has
to do, its last command may take the place of the shell. -/
def lines (label : String) (first : Nat) (whole : Chars) (isAll : Bool) : Nat → Source → Run Unit
  | 0, _ => return
  | room + 1, source => do
    let s ← get
    let source ← readable source
    match source.next with
    | .error e =>
      if s.settings.contains .verbose then
        let _ ← emit 2 source.rest
      reportSyntax label first whole e
    | .ok (commands, rest) =>
      if s.settings.contains .verbose then
        let _ ← emit 2 (source.rest.take (rest.position - source.position).toNat)
      match commands.getLast? with
      | none => if isSpent rest then return
      | some last =>
        reportUnended rest.unended
        unless s.settings.contains .noExec do
          let body : Run Unit := do
            runner.commands commands.dropLast
            modify fun s => { s with isLast := isAll && isSpent rest }
            runner.commands [last]
            modify fun s => { s with isLast := false }
          tryCatch body fun
            | .abandon => do if (← get).forked then throw .abandon
            | h => throw h
      lines label first whole isAll room { rest with unended := [] }

/-- Runs a text as a script that begins on a line. -/
def script (label : String) (first : Nat) (isAll : Bool) (text : Chars) : Run Unit := do
  let d := (← get).dialect
  lines runner label first text isAll (text.length + 1) (.ofChars d first text)

/-- Runs a text that is given to the shell in one of its lines. -/
def inner (label : String) (text : Chars) : Run Unit := do
  let s ← get
  script runner (s.source ++ ": " ++ label) s.line false text

/-! ## Traps -/

/-- Whether signals end a shell, if nothing is said about them. -/
def isFatal (signal : Nat) : Bool :=
  signal ≠ 0 && !Host.harmless.contains signal && !Host.certain.contains signal

/-- Tells the process which signals it catches and of which it takes no notice. A trap for the end of
the shell makes it catch those that would end it. -/
def adoptTraps : Run Unit := do
  let s ← get
  let traps := if s.dormant then s.traps.keep fun n => (s.traps.get? n).any (·.isEmpty) else s.traps
  let numbers (f : Chars → Bool) : List Nat := Host.signals.filterMap fun (name, n) =>
    if n ≠ 0 && (traps.get? name).any f then some n else none
  let ignored := numbers (·.isEmpty)
  let fatal := if traps.contains "EXIT" then
      (Host.signals.map (·.2)).filter fun n => isFatal n && n ≠ 13 && !ignored.contains n
    else []
  share fun s y => ((), y.alterProcess s.process fun p =>
    { p with caught := numbers (!·.isEmpty) ++ fatal, ignored })

/-- Runs what a trap asks for, after which the status is the same as before. -/
def runTrap (label : String) (action : Chars) : Run Unit := do
  let s ← get
  modify fun s => { s with inTrap := true, isLast := false }
  finally' (inner runner label action) (modify fun t => { t with inTrap := s.inTrap })
  modify fun t => { t with status := s.status, stageStatuses := s.stageStatuses, line := s.line }

/-- Runs what a trap asks for at the end of a shell. -/
def exitTrap : Run Unit := do
  let s ← get
  match s.traps.get? "EXIT" with
  | none => return
  | some action =>
    if s.dormant then return
    modify fun s => { s with traps := s.traps.erase "EXIT", isLast := false }
    inner runner "exit trap" action
    modify fun t => { t with status := s.status }

/-- Ends the shell as it is asked for by `exit`. -/
def quit {α : Type} (status : Nat) : Run α := do
  setStatus status
  let _ ← attempt (exitTrap runner)
  stop

/-- Does what traps ask for because of signals that have arrived. -/
def pendingTraps : Run Unit := do
  if (← get).traps.size = 0 then return
  for n in ← takeSignals do
    let s ← get
    match (if s.dormant then none else s.traps.get? (Host.signalName n)) with
    | some action => unless action.isEmpty do runTrap runner "trap" action
    | none =>
      if isFatal n then
        let _ ← attempt (exitTrap runner)
        perish n
        stop

/-- Leaves the shell after a failure, if that is asked for. -/
def settle : Run Unit := do
  let s ← get
  if s.status ≠ 0 && !s.guarded then
    match s.traps.get? "ERR" with
    | some action =>
      unless s.dormant && !s.settings.contains .errorTrace do runTrap runner "trap" action
    | none => pure ()
    if s.settings.contains .exitOnError then throw .leave

/-- Does what the trap before each command asks for. -/
def debugTrap (present : Chars) : Run Unit := do
  let s ← get
  unless s.inTrap do modify fun s => { s with present }
  match s.traps.get? "DEBUG" with
  | none => return
  | some action =>
    unless s.inTrap || s.dormant && !s.settings.contains .functionTrace do
      runTrap runner "debug trap" action

end Run

end Provision.Shell
