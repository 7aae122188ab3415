import Provision.Files.Mode
import Provision.Shell.Builtin.Basic

namespace Provision.Shell.Builtin

open Bytes (toText ofText)
open Run (textOf textOf? setText report tree digits)

/-! ## The working directory -/

/-- A path from the root, without dots and what they take back. -/
def normalized (path : Chars) : Chars :=
  let names := (path.splitOn '/').foldl (fun (kept : List Chars) name =>
    if name.isEmpty || name = ['.'] then kept
    else if name = ['.', '.'] then kept.drop 1
    else name :: kept) []
  let start : Chars :=
    if ['/', '/'].isPrefixOf path && !(['/', '/', '/'].isPrefixOf path) then ['/', '/'] else ['/']
  start ++ List.intercalate ['/'] names.reverse

/-- A path as it is seen from the working directory. -/
def fromHere (path : Chars) : Run Chars := do
  if path.head? = some '/' then return normalized path
  else return normalized ((← textOf "PWD") ++ '/' :: path)

/-- Goes to a directory. -/
def enter (command : String) (physical : Bool) (goal : Chars) : Run Nat := do
  let t ← tree
  let path ← fromHere goal
  let found := match t.locate (toText path) with
    | .ok id => Except.ok id
    | .error e => if physical then t.locate (toText goal) else .error e
  let refuse (reason : String) : Run Nat := do
    match (← get).dialect with
    | .bash => complain command (toText (Quoted.named goal) ++ ": " ++ reason)
    | .dash =>
      report (command ++ ": can't cd to " ++ toText goal)
      return 2
  match found with
  | .error e => refuse e.reason
  | .ok id =>
    if !(t.node? id).any Files.Node.isDirectory then return ← refuse "Not a directory"
    let old ← textOf "PWD"
    modify fun s => { s with directory := id }
    setText "OLDPWD" old
    setText "PWD" (if physical then ofText (t.pathTo id) else path)
    return 0

/-- The path to a directory in one of those that are looked through for it, if it is there. -/
def inSearchPath? (goal : Chars) : Run (Option Chars) := do
  let plain := goal.head? = some '/' || [['.'], ['.', '.']].contains goal ||
    ['.', '/'].isPrefixOf goal || ['.', '.', '/'].isPrefixOf goal
  if plain then return none
  let t ← tree
  let places := (← textOf "CDPATH").splitOn ':'
  return (places.filter (!·.isEmpty)).findSome? fun d =>
    let path := d ++ '/' :: goal
    if t.isDirectory (toText path) then some path else none

def cd (args : List Chars) : Run Nat :=
  withOptions "cd" "LPe@" args fun o => do
    let s ← get
    let isPlain := s.dialect = .dash
    let physical := o.has 'P' || (s.settings.contains .physical && !o.has 'L')
    let shown (status : Nat) : Run Nat := do
      if status = 0 then say "cd" ((← textOf "PWD") ++ ['\n']) else return status
    let missing (name : String) : Run Nat :=
      if isPlain then return 0 else complain "cd" (name ++ " not set")
    match o.operands with
    | [['-']] =>
      match ← textOf? "OLDPWD" with
      | none => shown (← missing "OLDPWD")
      | some goal => shown (← enter "cd" physical goal)
    | goal :: rest =>
      if !rest.isEmpty && !isPlain then return ← complain "cd" "too many arguments"
      if goal.isEmpty then return 0
      match ← inSearchPath? goal with
      | some path => shown (← enter "cd" physical path)
      | none => enter "cd" physical goal
    | [] =>
      match ← textOf? "HOME" with
      | none => missing "HOME"
      | some goal => if goal.isEmpty then return 0 else enter "cd" physical goal

def pwd (args : List Chars) : Run Nat :=
  withOptions "pwd" "LP" args fun o => do
    let s ← get
    let physical := o.has 'P' || (s.settings.contains .physical && !o.has 'L')
    let real := ofText ((← tree).pathTo s.directory)
    let path ← textOf "PWD"
    let isTrue := ((← tree).locate (toText path)).toOption = some s.directory
    say "pwd" ((if physical || !isTrue then real else path) ++ ['\n'])

/-! ## The stack of directories -/

/-- A path in which the home directory is a tilde. -/
def abbreviated (path : Chars) : Run Chars := do
  let home ← textOf "HOME"
  if home.isEmpty || home = ['/'] then return path
  else if path = home then return ['~']
  else if (home ++ ['/']).isPrefixOf path then return '~' :: path.drop home.length
  else return path

/-- The directories on the stack from the present one on. -/
def stack : Run (List Chars) := do
  return (← textOf "PWD") :: (← get).directories.map ofText

def showStack (o : Options) : Run Nat := do
  let paths ← (← stack).mapM fun p => if o.has 'l' then pure p else abbreviated p
  if o.has 'v' then
    say "dirs" (paths.mapIdx (fun i p => (digits i).leftpad 2 ' ' ++ "  ".toList ++ p ++ ['\n'])).flatten
  else if o.has 'p' then say "dirs" (paths.flatMap (· ++ ['\n']))
  else say "dirs" (List.intercalate [' '] paths ++ ['\n'])

/-- The place on the stack that an argument means, from the top or from the bottom. -/
def stackPlace? (size : Nat) (t : Chars) : Option (Option Nat) :=
  match t with
  | '+' :: n => (Text.readNat? 10 n).map fun n => if n < size then some n else none
  | '-' :: n =>
    (Text.readNat? 10 n).map fun n => if n < size then some (size - 1 - n) else none
  | _ => none

/-- Says that there is no such place on the stack. -/
def noPlace (command : String) (size : Nat) (t : Chars) : Run Nat :=
  if size = 1 then complain command "directory stack empty"
  else complain command (toText t ++ ": directory stack index out of range")

def dirs (args : List Chars) : Run Nat := do
  let size := (← stack).length
  let isPlace (a : Chars) : Bool := (stackPlace? size a).isSome
  withOptions "dirs" "clpv" (args.filter (!isPlace ·)) fun o => do
    if let some t := o.operands.head? then
      report ("dirs: " ++ toText t ++ ": invalid option")
      return ← usage "dirs"
    if o.has 'c' then
      modify fun s => { s with directories := [] }
      return 0
    match args.find? isPlace with
    | none => showStack o
    | some a =>
      match stackPlace? size a with
      | some (some n) =>
        let path := (← stack).getD n []
        let shown ← if o.has 'l' then pure path else abbreviated path
        say "dirs" (shown ++ ['\n'])
      | _ => noPlace "dirs" size a

/-- Goes to the directory at the top of a stack, which takes the place of the present one. -/
def goTo (command : String) (paths : List Chars) : Run Nat := do
  match paths with
  | [] => return 0
  | top :: rest =>
    let status ← if top = (← textOf "PWD") then pure 0 else enter command false top
    if status ≠ 0 then return status
    modify fun s => { s with directories := rest.map toText }
    showStack ⟨[], []⟩

def pushd (args : List Chars) : Run Nat := do
  let paths ← stack
  let stay := args.contains ['-', 'n']
  match args.filter fun a => a ≠ ['-', 'n'] && a ≠ ['-', '-'] with
  | [] =>
    match paths with
    | a :: b :: rest => goTo "pushd" (b :: a :: rest)
    | _ => complain "pushd" "no other directory"
  | a :: _ =>
    match stackPlace? paths.length a with
    | some (some n) => goTo "pushd" (paths.drop n ++ paths.take n)
    | some none => noPlace "pushd" paths.length a
    | none =>
      match a with
      | '-' :: _ :: _ =>
        Run.report ("pushd: " ++ toText a ++ ": invalid number")
        usage "pushd"
      | _ =>
        if stay then
          modify fun s => { s with directories := toText a :: s.directories }
          showStack ⟨[], []⟩
        else
          let status ← enter "pushd" false a
          if status ≠ 0 then return status
          modify fun s => { s with directories := paths.map toText }
          showStack ⟨[], []⟩

def popd (args : List Chars) : Run Nat := do
  let paths ← stack
  let stay := args.contains ['-', 'n']
  match args.filter (· ≠ ['-', 'n']) with
  | [] =>
    match paths with
    | _ :: b :: rest =>
      if stay then
        modify fun s => { s with directories := rest.map toText }
        showStack ⟨[], []⟩
      else goTo "popd" (b :: rest)
    | _ => complain "popd" "directory stack empty"
  | a :: _ =>
    match stackPlace? paths.length a with
    | some (some n) =>
      if paths.length = 1 then complain "popd" "directory stack empty"
      else if n = 0 then goTo "popd" (paths.drop 1)
      else
        modify fun s => { s with directories := (paths.eraseIdx n).drop 1 |>.map toText }
        showStack ⟨[], []⟩
    | some none => noPlace "popd" paths.length a
    | none =>
      Run.report ("popd: " ++ toText a ++ (match a with
        | '-' :: _ | '+' :: _ => ": invalid number"
        | _ => ": invalid argument"))
      usage "popd"

/-! ## Permissions of what is made -/

/-- A class of users with the permissions that it has. -/
def symbolic (mode : Nat) : Chars :=
  let part (name : Char) (shift : Nat) : Chars :=
    let bits := mode / shift % 8
    name :: '=' :: (if bits / 4 % 2 = 1 then ['r'] else []) ++
      (if bits / 2 % 2 = 1 then ['w'] else []) ++ (if bits % 2 = 1 then ['x'] else [])
  List.intercalate [','] [part 'u' 64, part 'g' 8, part 'o' 1]

/-- The permissions that a clause such as `g+w` makes of others. The answer may be a sign that is
wrong, with what it should be. -/
def changedBy (clause : Chars) (mode : Nat) : Except (Char × String) Nat :=
  let who := clause.takeWhile "ugoa".toList.contains
  let rest := clause.drop who.length
  let shifts : List Nat := (if who.isEmpty || who.contains 'a' then [64, 8, 1] else
    (if who.contains 'u' then [64] else []) ++ (if who.contains 'g' then [8] else []) ++
      if who.contains 'o' then [1] else [])
  match rest with
  | [] => .error ('\x00', "operator")
  | sign :: letters =>
    if !(['+', '-', '='].contains sign) then .error (sign, "operator")
    else if let some bad := letters.find? fun letter => !(['r', 'w', 'x'].contains letter) then
      .error (bad, "character")
    else
      let bits : Nat := (if letters.contains 'r' then 4 else 0) + (if letters.contains 'w' then 2
        else 0) + if letters.contains 'x' then 1 else 0
      .ok (shifts.foldl (fun m shift =>
        let old := m / shift % 8
        let new := if sign = '+' then old ||| bits else if sign = '-' then old - (old &&& bits)
          else bits
        m - old * shift + new * shift) mode)

def umask (args : List Chars) : Run Nat := do
  let isPlain := (← get).dialect = .dash
  withOptions "umask" (if isPlain then "S" else "pS") args fun o => do
    let mask := (← get).mask
    match o.operands with
    | [] =>
      let text := if o.has 'S' then symbolic (0o777 - mask)
        else (Nat.toDigits 8 mask).leftpad 4 '0'
      let start : Chars := if !o.has 'p' then []
        else if o.has 'S' then "umask -S ".toList else "umask ".toList
      say "umask" (start ++ text ++ ['\n'])
    | a :: _ =>
      if (a.head?.map Char.isDigit).getD false then
        match Text.readNat? 8 a with
        | some n =>
          if 0o777 < n then complain "umask" (toText a ++ ": octal number out of range")
          else
            modify fun s => { s with mask := n }
            return 0
        | none =>
          if isPlain then refuseNumber "umask" a
          else complain "umask" (toText a ++ ": octal number out of range")
      else if isPlain then
        match if a.contains 't' then none else Files.ModeChange.ofChars? a with
        | some changes =>
          let mode := Files.ModeChange.applyAll false 0 changes (0o777 - mask)
          modify fun s => { s with mask := 0o777 - mode % 0o1000 }
          return 0
        | none =>
          report ("umask: Illegal mode: " ++ toText a)
          return 2
      else
        match (a.splitOn ',').foldlM (fun m c => changedBy c m) (0o777 - mask) with
        | .ok mode =>
          modify fun s => { s with mask := 0o777 - mode }
          if o.has 'S' then say "umask" (symbolic mode ++ ['\n']) else return 0
        | .error (sign, what) =>
          complain "umask" ("`" ++ toText [sign] ++ "': invalid symbolic mode " ++ what)

end Provision.Shell.Builtin
