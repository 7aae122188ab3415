import Provision.Program.Input
import Provision.Shell.Lookup

/-!
Programs that take paths apart, or tell where they lead.
-/

namespace Provision.Program

open Bytes (toText ofText)
open Files (FileError Tree Path)
open Shell (Run)

/-! ## Parts of paths -/

/-- A text without the slashes at its end, of which one stays if there is nothing else. -/
def trimSlashes (t : Chars) : Chars :=
  let short := (t.reverse.dropWhile (· == '/')).reverse
  if short.isEmpty then t.take 1 else short

/-- The last part of a path. -/
def lastPart (t : Chars) : Chars :=
  let t := trimSlashes t
  if t = ['/'] then t else (t.reverse.takeWhile (· != '/')).reverse

/-- A path without its last part. -/
def withoutLastPart (t : Chars) : Chars :=
  let t := trimSlashes t
  let head := (t.reverse.dropWhile (· != '/')).reverse
  if head.isEmpty then ['.'] else trimSlashes head

/-- Takes away an ending that is not all of a text. -/
def withoutEnding (ending t : Chars) : Chars :=
  if ending.isSuffixOf t && ending.length < t.length then t.take (t.length - ending.length) else t

def basename : Program := fun c args =>
  withArguments c.name (.ofString "as:z" ["multiple|a", "suffix=|s", "zero|z"]) 1 true args
    fun a => do
    let many := a.has "a" || a.has "s"
    let mark := if a.has "z" then ['\x00'] else ['\n']
    let ending := (a.value? "s").getD []
    match many, a.operands with
    | _, [] => missOperand c.name []
    | true, ts => out c.name (ts.flatMap fun t => withoutEnding ending (lastPart t) ++ mark)
    | false, [t] => out c.name (lastPart t ++ mark)
    | false, [t, ending] => out c.name (withoutEnding ending (lastPart t) ++ mark)
    | false, _ :: _ :: extra :: _ => refuseOperand c.name extra

def dirname : Program := fun c args =>
  withArguments c.name (.ofString "z" ["zero|z"]) 1 true args fun a => do
    if a.operands.isEmpty then return ← missOperand c.name []
    let mark := if a.has "z" then ['\x00'] else ['\n']
    out c.name (a.operands.flatMap fun t => withoutLastPart t ++ mark)

/-! ## Where paths lead -/

/-- How much of a path may be missing. -/
inductive Missing
  | nothing
  | last
  | anything
  deriving DecidableEq

/-- The names from the root to where a path leads. -/
def wayTo (t : Tree) (missing : Missing) (absolute : Bool) : (reversed : List String) →
    Except FileError (List String)
  | [] => .ok (t.wayTo Tree.maxPathWidth (if absolute then Tree.root else t.working))
  | name :: above =>
    match t.trace true ⟨absolute, (name :: above).reverse⟩ with
    | .ok p =>
      match p.node with
      | some id =>
        if (t.node? id).any Files.Node.isDirectory then .ok (t.wayTo Tree.maxPathWidth id)
        else .ok (t.wayTo Tree.maxPathWidth p.directory ++ [p.name])
      | none =>
        if missing = .nothing then .error .notFound
        else .ok (t.wayTo Tree.maxPathWidth p.directory ++ [p.name])
    | .error e =>
      if missing ≠ .anything then .error e
      else do
        let way ← wayTo t missing absolute above
        return if name = "." then way else if name = ".." then way.dropLast else way ++ [name]

/-- The names from the root that a path stands for if no link is followed. -/
def plainWay (here : List String) (p : Path) : List String :=
  p.names.foldl (fun way name =>
    if name = "." then way else if name = ".." then way.dropLast else way ++ [name])
    (if p.absolute then [] else here)

/-- The names from the root to where a written path leads. -/
def resolve (t : Tree) (missing : Missing) (path : Chars) : Except FileError (List String) := do
  let written := toText path
  let p ← Tree.check written
  let isOpen := written.endsWith "/" && match t.trace true p with
    | .ok q => (q.node.bind t.node?).any (!·.isDirectory)
    | .error _ => false
  if isOpen && missing ≠ .anything then throw .notADirectory
  wayTo t missing p.absolute p.names.reverse

def absolutePath (way : List String) : Chars := ofText ("/" ++ "/".intercalate way)

/-- A path from one place to another one, both given by the names from the root. -/
def relativePath (start goal : List String) : Chars :=
  let rec shared : List String → List String → Nat
    | a :: as, b :: bs => if a = b then shared as bs + 1 else 0
    | _, _ => 0
  let n := shared start goal
  let names := List.replicate (start.length - n) ".." ++ goal.drop n
  if names.isEmpty then ['.'] else ofText ("/".intercalate names)

def realpath : Program := fun c args =>
  withArguments c.name (.ofString "eLmPqsz"
    ["canonicalize-existing|e", "canonicalize-missing|m", "relative-to=", "relative-base=",
     "quiet|q", "strip|s", "no-symlinks|s", "zero|z", "logical|L", "physical|P"]) 1 false args
    fun a => do
    if a.operands.isEmpty then return ← missOperand c.name []
    let t ← Run.tree
    let missing : Missing := match a.lastOf? ["e", "m"] with
      | some "e" => .nothing
      | some _ => .anything
      | none => .last
    let here := t.wayTo Tree.maxPathWidth t.working
    let way (path : Chars) : Except FileError (List String) :=
      if a.has "s" then
        if path.isEmpty then .error .notFound else .ok (plainWay here (.ofString (toText path)))
      else resolve t missing path
    let mark := if a.has "z" then ['\x00'] else ['\n']
    let refuse (path : Chars) (e : FileError) : Run Nat :=
      if a.has "q" then return 1 else complainOf c.name path e
    let base? := (a.value? "relative-base").map fun p => (p, way p)
    let start? := ((a.value? "relative-to").map fun p => (p, way p)).or base?
    match start?, base? with
    | some (p, .error e), _ | _, some (p, .error e) => refuse p e
    | start?, base? =>
      let start? := start?.bind (·.2.toOption)
      let base? := base?.bind (·.2.toOption)
      let mut status := 0
      for path in a.operands do
        match way path with
        | .error e => status ← refuse path e
        | .ok w =>
          let inside := base?.all (·.isPrefixOf w)
          let shown := match start? with
            | some s => if inside then relativePath s w else absolutePath w
            | none => absolutePath w
          let _ ← out c.name (shown ++ mark)
      return status

def readlink : Program := fun c args =>
  withArguments c.name (.ofString "femnqsvz"
    ["canonicalize|f", "canonicalize-existing|e", "canonicalize-missing|m", "no-newline|n",
     "quiet|q", "silent|s", "verbose|v", "zero|z"]) 1 false args fun a => do
    if a.operands.isEmpty then return ← missOperand c.name []
    let several := 1 < a.operands.length
    if a.has "n" && several then
      Run.complain (c.name ++ ": ignoring --no-newline with multiple arguments")
    let mark := if a.has "n" && !several then [] else if a.has "z" then ['\x00'] else ['\n']
    let t ← Run.tree
    let mut status := 0
    for path in a.operands do
      let found : Except FileError Chars := match a.lastOf? ["f", "e", "m"] with
        | some key => do
          let missing : Missing :=
            if key = "f" then .last else if key = "e" then .nothing else .anything
          return absolutePath (← resolve t missing path)
        | none => do
          match (← t.findEntry (toText path)).content with
          | .link goal => return ofText goal
          | _ => throw .invalid
      match found with
      | .ok shown => let _ ← out c.name (shown ++ mark)
      | .error e =>
        status := 1
        if a.lastOf? ["q", "s", "v"] = some "v" then let _ ← complainOf c.name path e
    return status

def pwd : Program := fun c args =>
  withArguments c.name (.ofString "LP" ["logical|L", "physical|P"]) 1 false args fun a => do
    unless a.operands.isEmpty do
      Run.complain (c.name ++ ": ignoring non-option arguments")
    let t ← Run.tree
    let given := (← Run.textOf? "PWD").filter fun p =>
      p.head? = some '/' && (t.locate (toText p)).toOption = some t.working
    let here := ofText (t.pathTo t.working)
    out c.name ((if a.lastOf? ["L", "P"] = some "L" then given.getD here else here) ++ ['\n'])

def which : Program := fun _ args => do
  let spec := Spec.ofString "as" []
  match readArguments spec true args.length args with
  | .error e =>
    let option := match e with
      | .unknown x => "Illegal option -" ++ String.singleton x
      | _ => "Illegal option --"
    Run.complain option
    Run.print "Usage: /usr/bin/which [-as] args\n".toList
    return 2
  | .ok a =>
    if a.operands.isEmpty then return 1
    let t ← Run.tree
    let path := ((← Run.textOf? "PATH").getD []).splitOn ':'
    let mut status := 0
    for name in a.operands do
      let all := if name.contains '/' then [name]
        else if name.isEmpty then []
        else path.map fun d => (if d.isEmpty then ['.'] else d) ++ '/' :: name
      let found := all.filter (Shell.Run.isRunnable t)
      match found with
      | [] => status := 1
      | p :: _ =>
        unless a.has "s" do
          Run.print ((if a.has "a" then found else [p]).flatMap (· ++ ['\n']))
    return status

end Provision.Program
