import Provision.Shell.Builtin.Basic
import Provision.Shell.Inventory

/-!
What a name stands for where a command is called.
-/

namespace Provision.Shell

open Bytes (toText ofText)

/-- What a name can stand for. -/
inductive Meaning
  | aliased (text : Chars)
  | keyword
  | function (f : Function)
  | builtin
  | hashed (path : Chars)
  | program (path : Chars)

def keywords : List String :=
  ["if", "then", "else", "elif", "fi", "case", "esac", "for", "select", "while", "until", "do",
   "done", "in", "function", "time", "\x7b", "\x7d", "!", "[[", "]]", "coproc"]

/-- The builtins, except for those that the smaller shell does not have. -/
def plainBuiltins : List String :=
  [".", ":", "[", "alias", "bg", "break", "cd", "command", "continue", "echo", "eval", "exec",
   "exit", "export", "false", "fg", "getopts", "hash", "jobs", "kill", "local", "printf", "pwd",
   "read", "readonly", "return", "set", "shift", "test", "times", "trap", "true", "type", "ulimit",
   "umask", "unalias", "unset", "wait"]

/-- The builtins in the order in which they are listed. -/
def allBuiltins : List String :=
  [".", ":", "[", "alias", "bg", "bind", "break", "builtin", "caller", "cd", "command", "compgen",
   "complete", "compopt", "continue", "declare", "dirs", "disown", "echo", "enable", "eval",
   "exec", "exit", "export", "false", "fc", "fg", "getopts", "hash", "help", "history", "jobs",
   "kill", "let", "local", "logout", "mapfile", "popd", "printf", "pushd", "pwd", "read",
   "readarray", "readonly", "return", "set", "shift", "shopt", "source", "suspend", "test",
   "times", "trap", "true", "type", "typeset", "ulimit", "umask", "unalias", "unset", "wait"]

namespace Run

/-- Whether a name stands for a builtin. -/
def isBuiltin (name : String) : Run Bool := do
  let s ← get
  return match s.dialect with
    | .bash => allBuiltins.contains name && !s.disabled.contains name
    | .dash => plainBuiltins.contains name

/-- The paths of a name in the directories of a list. -/
def inDirectories (path name : Chars) : List Chars :=
  (path.splitOn ':').map fun d =>
    if d.isEmpty then "./".toList ++ name
    else if d.getLast? = some '/' then d ++ name
    else d ++ '/' :: name

/-- The directories in which a program is looked for, if there are some. -/
def searchPath? : Run (Option Chars) := do
  return (← textOf? "PATH").filter (!·.isEmpty)

/-- The paths at which a program of a name is looked for. -/
def candidates (name : Chars) : Run (List Chars) := do
  match ← textOf? "PATH" with
  | none => return if (← get).dialect = .dash then ["./".toList ++ name] else []
  | some path =>
    if path.isEmpty && (← get).dialect = .bash then return []
    return inDirectories path name

/-- Whether the file at a path can be run. -/
def isRunnable (t : Files.Tree) (path : Chars) : Bool :=
  match t.find (toText path) with
  | .ok n => n.isFile && n.isExecutable
  | .error _ => false

/-- The paths to programs of a name. -/
def programs (name : Chars) : Run (List Chars) := do
  let t ← tree
  if name.contains '/' then return if isRunnable t name then [name] else []
  else return (← candidates name).filter (isRunnable t)

/-- Keeps the path to a program, with the number of times that it has been asked for. -/
def hashProgram (name path : Chars) (times : Nat) : Run Unit :=
  modify fun s => { s with hashed := s.hashed.insert (toText name) (times, path) }

/-- The path to a program that has been found before. -/
def hashed? (name : Chars) : Run (Option Chars) := do
  match (← get).hashed.get? (toText name) with
  | some (times, path) =>
    hashProgram name path (times + 1)
    return some path
  | none => return none

/-- The directories in which the usual programs are. -/
def standardPath : Chars := "/bin:/usr/bin".toList

/-- The program of a name in the working directory, where a shell looks if it has no directories to look
through. -/
def programHere (name : Chars) : Run (List Chars) := do
  if (← get).dialect = .dash || (← searchPath?).isSome || name.contains '/' then return []
  let path := (← textOf "PWD") ++ '/' :: name
  return if isRunnable (← tree) path then [path] else []

/-- What a name stands for, the first meaning first. -/
def meanings (functions : Bool) (name : Chars) : Run (List Meaning) := do
  let s ← get
  let key := toText name
  let words := if s.dialect = .bash then keywords else plainKeywords
  let aliased := if s.extras.contains "expand_aliases" then
      (s.aliases.get? key).toList.map Meaning.aliased else []
  let keyword := if words.contains key then [Meaning.keyword] else []
  let function := if functions then (s.functions.get? key).toList.map Meaning.function else []
  let builtin := if ← isBuiltin key then [Meaning.builtin] else []
  let isFound := !(aliased.isEmpty && keyword.isEmpty && function.isEmpty && builtin.isEmpty)
  let hashed ← if isFound || name.contains '/' then pure []
    else do pure ((← hashed? name).toList.map Meaning.hashed)
  return aliased ++ keyword ++ function ++ builtin ++ hashed ++ (← programs name).map Meaning.program

end Run

namespace Builtin

open Run (report digits)

/-- A name with its meaning in words. -/
def described (name : Chars) (m : Meaning) : Chars :=
  let tells (t : String) : Chars := name ++ ofText (" is " ++ t ++ "\n")
  match m with
  | .aliased t => tells ("aliased to `" ++ toText t ++ "'")
  | .keyword => tells "a shell keyword"
  | .function f => tells "a function" ++ f.body.definition (toText name)
  | .builtin => tells "a shell builtin"
  | .hashed path => tells ("hashed (" ++ toText path ++ ")")
  | .program path => tells (toText path)

/-- The kind of a meaning in one word. -/
def kind : Meaning → String
  | .aliased _ => "alias"
  | .keyword => "keyword"
  | .function _ => "function"
  | .builtin => "builtin"
  | .hashed _ | .program _ => "file"

/-- The path of a program. -/
def pathOf? : Meaning → Option Chars
  | .hashed path | .program path => some path
  | _ => none

/-- What can be called by a name, in a form that can be read again. -/
def brief (name : Chars) : Meaning → Chars
  | .aliased t => "alias ".toList ++ name ++ '=' :: Quoted.single t ++ ['\n']
  | .hashed path | .program path => path ++ ['\n']
  | _ => name ++ ['\n']

def type' (args : List Chars) : Run Nat := do
  let s ← get
  if s.dialect = .dash then
    let mut status := 0
    for name in args do
      match ← Run.meanings true name with
      | .function _ :: _ => let _ ← say "type" (name ++ " is a shell function\n".toList)
      | m :: _ => let _ ← say "type" (described name m)
      | [] =>
        let _ ← say "type" (name ++ ": not found\n".toList)
        status := 127
    return status
  withOptions "type" "afptP" args fun o => do
    let mut status := 0
    for name in o.operands do
      let found ← Run.meanings (!o.has 'f') name
      let here ← if o.has 'a' then pure [] else Run.programHere name
      let found := found ++ here.map Meaning.program
      let files := found.filterMap pathOf?
      let programs ← Run.programs name
      if o.has 'P' then
        let paths := if o.has 'a' then programs else files.take 1
        if paths.isEmpty then status := 1
        let _ ← say "type" (paths.flatMap (· ++ ['\n']))
      else
        let shown := if o.has 'a' then found.filter fun
            | .hashed _ => false
            | _ => true
          else found.take 1
        if shown.isEmpty then
          status := 1
          unless o.has 't' || o.has 'p' do report ("type: " ++ toText name ++ ": not found")
        for m in shown do
          let text : Chars :=
            if o.has 't' then ofText (kind m ++ "\n")
            else if o.has 'p' then ((pathOf? m).map (· ++ ['\n'])).getD []
            else described name m
          let _ ← say "type" text
    return status

/-- Tells what names stand for, in the way of `command`. -/
def describeAll (long : Bool) (names : List Chars) : Run Nat := do
  let dialect := (← get).dialect
  let names := if dialect = .dash then names.take 1 else names
  let mut found := 0
  for name in names do
    match (← Run.meanings true name) ++ (← Run.programHere name).map Meaning.program with
    | [] =>
      if long then
        if dialect = .dash then let _ ← say "command" (name ++ ": not found\n".toList)
        else report ("command: " ++ toText name ++ ": not found")
    | m :: _ =>
      found := found + 1
      let _ ← say "command" (if long then described name m else brief name m)
  return if found = 0 && !names.isEmpty then (if dialect = .dash then 127 else 1) else 0

def hash (args : List Chars) : Run Nat :=
  withOptions "hash" "lrp:dt" args fun o => do
    let s ← get
    if o.has 'r' then modify fun s => { s with hashed := ∅ }
    if o.operands.isEmpty then
      if o.has 'r' then return 0
      if s.hashed.size = 0 then
        return ← say "hash" (if s.dialect = .dash then [] else "hash: hash table empty\n".toList)
      if s.dialect = .dash then
        return ← say "hash" (s.hashed.entries.flatMap fun (_, _, path) => path ++ ['\n'])
      let lines := s.hashed.entries.flatMap fun (_, n, path) =>
        (digits n).leftpad 4 ' ' ++ '\t' :: path ++ ['\n']
      return ← say "hash" ("hits\tcommand\n".toList ++ lines)
    let mut status := 0
    for name in o.operands do
      let key := toText name
      match o.value? 'p' with
      | some path => modify fun s => { s with hashed := s.hashed.insert key (0, path) }
      | none =>
        if o.has 'd' then
          if (← get).hashed.contains key then
            modify fun s => { s with hashed := s.hashed.erase key }
          else status ← complain "hash" (key ++ ": not found")
        else if o.has 't' then
          match s.hashed.get? key with
          | some (_, path) =>
            let start := if 1 < o.operands.length then name ++ ['\t'] else []
            let _ ← say "hash" (start ++ path ++ ['\n'])
          | none => status ← complain "hash" (key ++ ": not found")
        else if (← Run.isBuiltin key) || s.functions.contains key || name.contains '/' then pure ()
        else
          match ← Run.programs name with
          | path :: _ => Run.hashProgram name path 0
          | [] => status ← complain "hash" (key ++ ": not found")
    return status

def enable (args : List Chars) : Run Nat :=
  withOptions "enable" "adnpsf:" args fun o => do
    let s ← get
    if o.operands.isEmpty then
      let shown := allBuiltins.filter fun n =>
        o.has 'a' || s.disabled.contains n = o.has 'n'
      return ← say "enable" (shown.flatMap fun n =>
        ofText ((if s.disabled.contains n then "enable -n " else "enable ") ++ n ++ "\n"))
    let mut status := 0
    for t in o.operands do
      let name := toText t
      if !allBuiltins.contains name then
        status ← complain "enable" (name ++ ": not a shell builtin")
      else
        modify fun s => { s with
          disabled := s.disabled.filter (· ≠ name) ++ if o.has 'n' then [name] else [] }
    return status

/-- Tells how builtins are used. -/
def help (args : List Chars) : Run Nat :=
  withOptions "help" "dms" args fun o => do
    let mut status := 0
    for t in o.operands do
      match usages.find? fun u => ofText u.1 = t with
      | some (name, use) =>
        if o.has 's' then
          let _ ← say "help" (ofText (name ++ ": " ++ use ++ "\n"))
      | none =>
        if !allBuiltins.contains (toText t) then
          let name := toText t
          status ← complain "help" ("no help topics match `" ++ name ++
            "'.  Try `help help' or `man -k " ++ name ++ "' or `info " ++ name ++ "'.")
    return status

/-- Lists the commands that have been read from a terminal, which are none. -/
def history (args : List Chars) : Run Nat :=
  withOptions "history" "acd:npsrw" args fun o => do
    match o.operands with
    | t :: rest =>
      if o.given.isEmpty then
        if (number? t).isNone then return ← complain "history" (toText t ++ ": numeric argument required")
        if !rest.isEmpty then
          report "history: too many arguments"
          Run.setStatus 1
          throw .abandon
      return 0
    | [] => return 0

/-- The words that could complete one. -/
def compgen (args : List Chars) : Run Nat :=
  withOptions "compgen" "abcdefgjksuvo:A:G:W:F:C:X:P:S:" args fun o => do
    let s ← get
    let start := o.operands.headD []
    let names (on : Bool) (ns : List String) : List Chars := if on then ns.map ofText else []
    let asked (c : Char) (action : String) : Bool :=
      o.has c || o.value? 'A' = some action.toList
    let here ← if asked 'f' "file" || asked 'd' "directory" then do
        let t ← Run.tree
        let all := (t.names s.directory).map ofText
        pure (if asked 'f' "file" then all else all.filter fun n => t.isDirectory (toText n))
      else pure []
    let seen ← Run.variableNames
    let words := ((o.value? 'W').getD []).splitOnP fun c => " \t\n".toList.contains c
    let all := names (asked 'b' "builtin" || o.has 'c') allBuiltins ++
      names (asked 'k' "keyword" || o.has 'c') keywords ++
      names (o.value? 'A' = some "function".toList || o.has 'c') s.functions.keys.mergeSort ++
      names (asked 'a' "alias" || o.has 'c') s.aliases.keys.mergeSort ++
      names (asked 'v' "variable") seen ++ here ++ words.filter (!·.isEmpty)
    let found := all.filter (start.isPrefixOf ·)
    let shown := found.flatMap fun w =>
      (o.value? 'P').getD [] ++ w ++ (o.value? 'S').getD [] ++ ['\n']
    if found.isEmpty then return 1 else say "compgen" shown

end Builtin

end Provision.Shell
