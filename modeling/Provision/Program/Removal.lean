import Provision.Program.Creation
import Provision.Program.Input

/-!
Programs that take files and directories away.
-/

namespace Provision.Program

open Bytes (toText ofText)
open Files (FileError Tree)
open Shell (Run)

/-- Asks a question. The answer tells whether somebody agrees. -/
def ask (name question : String) : Run Bool := do
  let _ ← Run.emit 2 (ofText (name ++ ": " ++ question ++ "? "))
  match ← Run.takeThrough 0 '\n' with
  | .ok (c :: _, _) => return c = 'y' || c = 'Y'
  | _ => return false

/-- What a node is called. -/
def kindOf (n : Files.Node) : String :=
  match n.content with
  | .directory .. => "directory"
  | .link _ => "symbolic link"
  | .queue => "fifo"
  | .device _ => "character special file"
  | _ => if n.size = 0 then "regular empty file" else "regular file"

/-! ## Directories without content -/

/-- The paths above a path that it names. -/
def above (path : Chars) : Nat → List Chars
  | 0 => []
  | room + 1 =>
    let up := withoutLastPart path
    if up = ['.'] || up = ['/'] || up = path then [] else up :: above up room

def rmdir : Program := fun c args =>
  withArguments c.name (.ofString "pv" ["ignore-fail-on-non-empty", "parents|p", "verbose|v"])
    1 false args fun a => do
    if a.operands.isEmpty then return ← missOperand c.name []
    let remove (label : String) (path : Chars) : Run (Nat × Bool) := do
      if a.has "v" then
        let _ ← out c.name (ofText (c.name ++ ": removing directory, " ++ quoted path ++ "\n"))
      match ← Run.changeTree (·.removeDirectory (toText path)) with
      | .ok () => return (0, true)
      | .error e =>
        if e = .notEmpty && a.has "ignore-fail-on-non-empty" then return (0, false)
        let t ← Run.tree
        let isLink := path.getLast? = some '/' &&
          (t.findEntry (toText (trimSlashes path))).toOption.any Files.Node.isLink
        let reason := if isLink then "Symbolic link not followed" else e.reason
        return (← complain c.name ("failed to remove " ++ label ++ quoted path ++ ": " ++ reason),
          false)
    forAll a.operands fun path => do
      let (status, gone) ← remove "" path
      if !gone || !a.has "p" then return status
      let rec climb : List Chars → Run Nat
        | [] => return 0
        | up :: rest => do
          let (status, gone) ← remove "directory " up
          if gone then climb rest else return status
      climb (above path path.length)

def unlink : Program := fun c args =>
  withArguments c.name ⟨[], []⟩ 1 false args fun a => do
    match a.operands with
    | [] => missOperand c.name []
    | [path] =>
      match ← Run.changeTree (·.remove (toText path)) with
      | .ok () => return 0
      | .error e => complain c.name ("cannot unlink " ++ quoted path ++ ": " ++ e.reason)
    | _ :: extra :: _ => refuseOperand c.name extra

/-! ## Everything -/

/-- Takes away a node and all below it. The answer tells whether it is gone. -/
def removeAll (c : Caller) (a : Arguments) (asks : Bool) : Nat → Chars → Run (Nat × Bool)
  | 0, _ => return (1, false)
  | room + 1, path => do
    let t ← Run.tree
    let quietly (e : FileError) : Bool := a.has "f" && (e = .notFound || e = .notADirectory)
    let refuse (e : FileError) : Run (Nat × Bool) := do
      if quietly e then return (0, false)
      return (← complain c.name ("cannot remove " ++ quoted path ++ ": " ++ e.reason), false)
    let told (label : String) : Run Unit := do
      if a.has "v" then
        let _ ← out c.name (ofText (label ++ " " ++ quoted path ++ "\n"))
    match t.nameplace (toText path) with
    | .error e => refuse e
    | .ok p =>
      match p.node.bind fun id => (t.node? id).map (id, ·) with
      | none => refuse .notFound
      | some (id, n) =>
        if !n.isDirectory then
          if path.getLast? = some '/' then return ← refuse .notADirectory
          if asks then
            unless ← ask c.name ("remove " ++ kindOf n ++ " " ++ quoted path) do return (0, false)
          match ← Run.changeTree (·.remove (toText path)) with
          | .ok () =>
            told "removed"
            return (0, true)
          | .error e => refuse e
        else
          let names := (t.entries id).map (·.1)
          let deep := a.has "r"
          if !deep && !(a.has "d") then return ← refuse .isADirectory
          if !deep && !names.isEmpty then return ← refuse .notEmpty
          if asks && !names.isEmpty then
            unless ← ask c.name ("descend into directory " ++ quoted path) do return (0, false)
          let mut status := 0
          let mut all := true
          for name in names do
            let (n, gone) ← removeAll c a asks room (pathIn path name)
            if n ≠ 0 then status := n
            all := all && gone
          if !all then return (status, false)
          if asks then
            unless ← ask c.name ("remove directory " ++ quoted path) do return (status, false)
          match ← Run.changeTree (·.removeDirectory (toText path)) with
          | .ok () =>
            told "removed directory"
            return (status, true)
          | .error e => refuse e

/-- When questions are asked before things are removed. -/
inductive Asking
  | never
  | once
  | always
  deriving DecidableEq

def askings : List (List String × Asking) :=
  [(["never", "no", "none"], .never), (["once"], .once), (["always", "yes"], .always)]

/-- What options say of questions, and whether paths can be missing. -/
def askingOf (a : Arguments) : Except String (Asking × Bool) :=
  a.options.foldlM (fun (s : Asking × Bool) (key, value) => do
    match key with
    | "f" => return (.never, true)
    | "i" => return (.always, false)
    | "I" => return (.once, false)
    | "interactive" =>
      let asking ← if value.isEmpty then pure Asking.always
        else choose "--interactive" askings value
      return (asking, s.2 && asking = .never)
    | _ => return s) (.never, false)

def rm : Program := fun c args => do
  let spec := Spec.ofString "dfirIRv"
    ["force|f", "interactive?", "one-file-system", "no-preserve-root", "preserve-root?", "recursive|r",
     "dir|d", "verbose|v"]
  let args := args.map fun t => match t with
    | '-' :: x :: rest => if x = '-' then t else '-' :: (x :: rest).map fun l => if l = 'R' then 'r' else l
    | t => t
  match readArguments { spec with long := spec.long ++ [("help", .none, "help"), ("version", .none, "version")] }
      false args.length args with
  | .error e =>
    Run.complain (c.name ++ ": " ++ e.message)
    let t ← Run.tree
    let mistaken := args.find? fun t => t.head? = some '-' && 1 < t.length
    if let some m := args.find? fun x =>
        x.head? = some '-' && 1 < x.length && (t.findEntry (toText x)).toOption.isSome then
      if mistaken.isSome then
        Run.complain ("Try '" ++ c.name ++ " ./" ++ toText m ++ "' to remove the file " ++ quoted m ++ ".")
    pointToHelp c.name 1
  | .ok a =>
    if a.has "version" || a.has "help" then
      return ← withArguments c.name spec 1 false args fun _ => return 0
    match askingOf a with
    | .error message => misuse c.name message
    | .ok (asking, forces) =>
    if a.operands.isEmpty then
      if forces then return 0 else return ← missOperand c.name []
    if asking = .once && (3 < a.operands.length || a.has "r") then
      let count := a.operands.length
      let question := "remove " ++ toString count ++ " argument" ++ (if count = 1 then "" else "s") ++
        if a.has "r" then " recursively" else ""
      unless ← ask c.name question do return 0
    let a := if forces then a else { a with options := a.options.filter (·.1 ≠ "f") }
    forAll a.operands fun path => do
      let last := lastPart path
      if a.has "r" && (last = ['.'] || last = ['.', '.']) then
        complain c.name ("refusing to remove '.' or '..' directory: skipping " ++ quoted path)
      else if a.has "r" && !path.isEmpty && path.all (· == '/') && !a.has "no-preserve-root" then
        let _ ← complain c.name ("it is dangerous to operate recursively on " ++
          (if path.length = 1 then "'/'" else quoted path ++ " (same as '/')"))
        complain c.name "use --no-preserve-root to override this failsafe"
      else return (← removeAll c a (asking = .always) maxDepth path).1

end Provision.Program
