import Provision.Program.Input

/-!
Who there is on a system, and who runs a program.
-/

namespace Provision.Program

open Bytes (toText ofText)
open Files (FileError Tree)
open Shell (Run)

/-- The entries of a file whose lines have fields between colons. -/
def entriesAt (t : Tree) (path : String) : List (List Chars) :=
  match t.read path with
  | .ok bytes => (linesOf '\n' (Bytes.ofBytes bytes)).map (·.splitOn ':')
  | .error _ => []

/-- The users of a system. -/
def accounts (t : Tree) : List (List Chars) := entriesAt t "/etc/passwd"

/-- The groups of a system. -/
def userGroups (t : Tree) : List (List Chars) := entriesAt t "/etc/group"

/-- The number of a name among entries. -/
def numberOf? (entries : List (List Chars)) (name : Chars) : Option Nat :=
  (entries.find? fun e => e.head? = some name).bind fun e => (e[2]?).bind (Text.readNat? 10)

/-- The name of a number among entries. -/
def nameOf? (entries : List (List Chars)) (n : Nat) : Option Chars :=
  (entries.find? fun e => e[2]? = some (Nat.toDigits 10 n)).bind (·.head?)

/-- The name of a number, or the number itself. -/
def nameOrNumber (entries : List (List Chars)) (n : Nat) : Chars :=
  (nameOf? entries n).getD (Nat.toDigits 10 n)

/-- The group to which a user belongs first. -/
def firstGroup (t : Tree) (user : Nat) : Nat :=
  let entry := (accounts t).find? fun e => e[2]? = some (Nat.toDigits 10 user)
  ((entry.bind (·[3]?)).bind (Text.readNat? 10)).getD 0

/-- All groups to which a user belongs. -/
def groupsOf (t : Tree) (user : Nat) : List Nat :=
  let first := firstGroup t user
  let name := (nameOf? (accounts t) user).getD []
  let others := (userGroups t).filter fun e => ((e[3]?).getD []).splitOn ',' |>.contains name
  first :: ((others.filterMap fun e => (e[2]?).bind (Text.readNat? 10)).filter (· ≠ first))

/-- A user by name or by number. -/
def findUser? (t : Tree) (name : Chars) : Option Nat :=
  match numberOf? (accounts t) name with
  | some n => some n
  | none => (Text.readNat? 10 name).filter fun n => (nameOf? (accounts t) n).isSome

def identify : Program := fun c args =>
  withArguments c.name (.ofString "agGnruzZ"
    ["context|Z", "group|g", "groups|G", "name|n", "real|r", "user|u", "zero|z"]) 1 false args
    fun a => do
    let t ← Run.tree
    let kinds := ["u", "g", "G"].filter a.has
    match kinds with
    | _ :: _ :: _ => return ← complain c.name "cannot print \"only\" of more than one choice"
    | [] =>
      if a.has "n" || a.has "r" then
        return ← complain c.name "cannot print only names or real IDs in default format"
      if a.has "z" then
        return ← complain c.name "option --zero not permitted in default format"
    | _ => pure ()
    let mut status := 0
    let whom : List (Option Chars) := if a.operands.isEmpty then [none] else a.operands.map some
    for who in whom do
      match who.elim (some 0) (findUser? t) with
      | none => status ← complain c.name (cited (who.getD []) ++ ": no such user")
      | some u =>
        let g := firstGroup t u
        let gs := groupsOf t u
        let digits (n : Nat) : Chars := Nat.toDigits 10 n
        let shown (entries : List (List Chars)) (n : Nat) : Chars :=
          if a.has "n" then nameOrNumber entries n else digits n
        let both (entries : List (List Chars)) (n : Nat) : Chars :=
          digits n ++ match nameOf? entries n with
            | some name => '(' :: name ++ [')']
            | none => []
        let mark := if a.has "z" then '\x00' else '\n'
        let text : Chars := match kinds with
          | ["u"] => shown (accounts t) u
          | ["g"] => shown (userGroups t) g
          | ["G"] =>
            List.intercalate [if a.has "z" then '\x00' else ' '] (gs.map (shown (userGroups t)))
          | _ =>
            "uid=".toList ++ both (accounts t) u ++ " gid=".toList ++ both (userGroups t) g ++
              " groups=".toList ++ List.intercalate [','] (gs.map (both (userGroups t)))
        let _ ← out c.name (text ++ [mark])
    return status

def whoami : Program := fun c args =>
  withArguments c.name ⟨[], []⟩ 1 false args fun a => do
    match a.operands with
    | extra :: _ => refuseOperand c.name extra
    | [] => out c.name (nameOrNumber (accounts (← Run.tree)) 0 ++ ['\n'])

def groups : Program := fun c args =>
  withArguments c.name ⟨[], []⟩ 1 false args fun a => do
    let t ← Run.tree
    let names (u : Nat) : Chars :=
      List.intercalate [' '] ((groupsOf t u).map (nameOrNumber (userGroups t)))
    if a.operands.isEmpty then return ← out c.name (names 0 ++ ['\n'])
    let mut status := 0
    for who in a.operands do
      match findUser? t who with
      | some u => let _ ← out c.name (who ++ " : ".toList ++ names u ++ ['\n'])
      | none => status ← complain c.name (cited who ++ ": no such user")
    return status

def logname : Program := fun c args =>
  withArguments c.name ⟨[], []⟩ 1 false args fun a => do
    match a.operands with
    | extra :: _ => refuseOperand c.name extra
    | [] => complain c.name "no login name"

def getent : Program := fun c args => do
  let t ← Run.tree
  match args with
  | [] =>
    Run.complain (c.name ++ ": wrong number of arguments")
    return 1
  | database :: keys =>
    let path := "/etc/" ++ toText database
    if !(["passwd", "group", "hosts"].contains (toText database)) then
      Run.complain ("Unknown database: " ++ toText database)
      return 1
    let text := Bytes.ofBytes ((t.read path).toOption.getD [])
    let ls := linesOf '\n' text
    if keys.isEmpty then out c.name (unlines '\n' ls)
    else
      let mut status := 0
      for key in keys do
        let fits (l : Chars) : Bool :=
          let fields := l.splitOn ':'
          fields.head? = some key || fields[2]? = some key
        match ls.find? fits with
        | some l => let _ ← out c.name (l ++ ['\n'])
        | none => status := 2
      return status

end Provision.Program
