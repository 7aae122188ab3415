import Provision.Shell.Session
import Provision.Shell.Source

namespace Provision.Shell

open Bytes (toText ofText)

namespace Run

/-- A number as it is written. -/
def digits (n : Nat) : Chars := Nat.toDigits 10 n

/-- A whole number as it is written. -/
def integerText (n : Int) : Chars := if n < 0 then '-' :: digits n.natAbs else digits n.natAbs

/-- The variable of a name, in the innermost scope that has it. -/
def find? (name : String) (scopes : List Scope) : Option Variable :=
  scopes.findSome? (·.get? name)

/-- The indices of calls from the innermost on. -/
def framed (s : Session) (f : Frame → Chars) : Value :=
  .array (s.allFrames.mapIdx fun i x => (i, f x))

/-- The values that the shell itself keeps. -/
def kept? (name : String) : Run (Option Value) := do
  let s ← get
  if s.dialect = .dash then
    if name = "LINENO" then return some (.text (digits s.line)) else return none
  match name with
  | "LINENO" => return some (.text (digits s.line))
  | "RANDOM" =>
    let seed := (s.seed * 1103515245 + 12345) % 0x80000000
    set { s with seed }
    return some (.text (digits (seed / 65536 % 32768)))
  | "SRANDOM" =>
    let seed := (s.seed * 1103515245 + 12345) % 0x80000000
    set { s with seed }
    return some (.text (digits (seed * 2 + 1)))
  | "BASHPID" => return some (.text (digits s.process))
  | "BASH_SUBSHELL" => return some (.text (digits s.depth))
  | "SECONDS" => return some (.text (digits (((← now) - s.started) / 1000000000)))
  | "EPOCHSECONDS" => return some (.text (digits ((← now) / 1000000000)))
  | "EPOCHREALTIME" =>
    let t ← now
    return some (.text (digits (t / 1000000000) ++ '.' ::
      (digits (t / 1000 % 1000000)).leftpad 6 '0'))
  | "PIPESTATUS" => return some (.array (s.stageStatuses.mapIdx fun i n => (i, digits n)))
  | "FUNCNAME" =>
    if s.frames.any (·.isFunction) then return some (framed s fun f => ofText f.name)
    else return some .unset
  | "BASH_LINENO" => return some (framed s fun f => digits f.line)
  | "BASH_SOURCE" =>
    return some (framed s fun f => ofText f.source)
  | "_" => return some (.text s.lastArgument)
  | "BASH_COMMAND" => return some (.text s.present)
  | "GROUPS" => return some (.array [(0, ['0'])])
  | "DIRSTACK" =>
    let here := ((find? "PWD" s.scopes).bind (·.value.text?)).getD []
    return some (.array ((here :: s.directories.map ofText).mapIdx fun i t => (i, t)))
  | "SHELLOPTS" =>
    let on := Setting.table.filter fun e => s.settings.contains e.1
    return some (.text (List.intercalate [':'] (on.map fun e => ofText e.2.1)))
  | "BASHOPTS" =>
    let on := extraSettings.filter fun e => s.extras.contains e.1
    return some (.text (List.intercalate [':'] (on.map fun e => ofText e.1)))
  | _ => return none

/-- The names of the values that the shell itself keeps. -/
def keptNames : List String :=
  ["LINENO", "RANDOM", "SRANDOM", "BASHPID", "BASH_SUBSHELL", "SECONDS", "EPOCHSECONDS",
   "EPOCHREALTIME", "PIPESTATUS", "FUNCNAME", "BASH_LINENO", "BASH_SOURCE", "BASH_COMMAND",
   "_", "GROUPS", "DIRSTACK", "SHELLOPTS", "BASHOPTS"]

/-- The name and the index that are written as one text. -/
def splitName (t : Chars) : String × Option Chars :=
  let name := t.takeWhile (· != '[')
  match t.drop name.length with
  | '[' :: rest => (toText name, some (if rest.getLast? = some ']' then rest.dropLast else rest))
  | _ => (toText t, none)

/-- The name to which a reference from another one leads, with an index if it has one. One that leads
back has no name. -/
def targetFrom (start name : String) : Nat → Run (String × Option Chars)
  | 0 => return (name, none)
  | room + 1 => do
    match find? name (← get).scopes with
    | some ⟨.text t, marks⟩ =>
      if !marks.reference then return (name, none)
      else
        match splitName t with
        | (goal, none) =>
          if goal = name then return (name, none)
          else if goal = start then
            report ("warning: " ++ start ++ ": circular name reference")
            return ("", none)
          else targetFrom start goal room
        | (goal, index) => return (goal, index)
    | _ => return (name, none)

/-- The name to which a reference leads, with an index if it has one. -/
def target (name : String) : Nat → Run (String × Option Chars) := targetFrom name name

/-- References lead on so often at most. -/
def maxReferences : Nat := 8

/-- The variable of a name, behind references. -/
def lookup? (name : String) : Run (Option Variable) := do
  let (name, _) ← target name maxReferences
  return find? name (← get).scopes

/-- The value of a name, behind references, be it kept by the shell. -/
def valueOf (name : String) : Run Value := do
  let (name, _) ← target name maxReferences
  match ← kept? name with
  | some v => return v
  | none => return ((find? name (← get).scopes).map (·.value)).getD .unset

/-- The text of a variable. That of an array is the one at zero. -/
def textOf? (name : String) : Run (Option Chars) := do
  let (name, index) ← target name maxReferences
  let v ← match ← kept? name with
    | some v => pure v
    | none => pure (((find? name (← get).scopes).map (·.value)).getD .unset)
  match index with
  | none => return v.text?
  | some i =>
    return match v with
      | .table ps => (ps.find? (·.1 = i)).map (·.2)
      | v => (Text.readNat? 10 i).bind fun n => (v.elements.find? (·.1 = n)).map (·.2)

def textOf (name : String) : Run Chars := return (← textOf? name).getD []

/-- Puts a variable into the innermost scope that has one of its name, or else into the
outermost one. -/
def putInto (name : String) (v : Variable) : List Scope → List Scope
  | [] => [(∅ : Scope).insert name v]
  | [scope] => [scope.insert name v]
  | scope :: rest =>
    if scope.contains name then scope.insert name v :: rest else scope :: putInto name v rest

def put (name : String) (v : Variable) : Run Unit :=
  modify fun s => { s with scopes := putInto name v s.scopes }

/-- Changes the marks of a variable, which is made without a value if it is missing. -/
def mark (name : String) (f : Marks → Marks) : Run Unit := do
  let old := (find? name (← get).scopes).getD ⟨.unset, {}⟩
  put name { old with marks := f old.marks }

/-- Gives a value to a variable as it is, unless the variable is constant. -/
def store (name : String) (value : Value) : Run Bool := do
  let (name, _) ← target name maxReferences
  if name.isEmpty then return false
  let s ← get
  let old := (find? name s.scopes).getD ⟨.unset, {}⟩
  if old.marks.reference && !(value.text?.any fun t => isName (splitName t).1.toList) then
    report ("`" ++ toText ((value.text?).getD []) ++ "': not a valid identifier")
    return false
  if old.marks.constant then
    match s.dialect with
    | .bash => report (name ++ ": readonly variable")
    | .dash => report (name ++ ": is read only")
    return false
  let exported := old.marks.exported || s.settings.contains .allExport
  put name ⟨value, { old.marks with exported, bare := false }⟩
  if name = "RANDOM" then
    modify fun s => { s with seed := ((value.text?.bind (Text.readNat? 10)).getD 0) }
  if name = "SECONDS" then
    let n := (value.text?.bind (Text.readNat? 10)).getD 0
    let t ← now
    modify fun s => { s with started := t - n * 1000000000 }
  if name = "OPTIND" then modify fun s => { s with optionOffset := 0 }
  if name = "PATH" then modify fun s => { s with hashed := ∅ }
  return true

/-- Gives a text to a variable as it is. -/
def storeText (name : String) (text : Chars) : Run Bool := do
  let old := ((← lookup? name).map (·.value)).getD .unset
  store name (old.withText text)

def setText (name : String) (text : Chars) : Run Unit := do let _ ← storeText name text

/-- Takes a variable away. In a function a variable of its own stays without a value. -/
def removeFrom (name : String) : (inFunction : Bool) → List Scope → List Scope
  | _, [] => []
  | inFunction, scope :: rest =>
    if scope.contains name then
      (if inFunction && !rest.isEmpty then scope.insert name ⟨.unset, {}⟩ else scope.erase name) ::
        rest
    else scope :: removeFrom name false rest

def remove (name : String) : Run Unit := do
  modify fun s => { s with scopes := removeFrom name true s.scopes }
  if name = "PATH" then modify fun s => { s with hashed := ∅ }
  if name = "OPTIND" then modify fun s => { s with optionOffset := 0 }

/-- All names of variables that are seen. -/
def variableNames : Run (List String) := do
  let all := (← get).scopes.flatMap (·.keys)
  return all.eraseDups.mergeSort

/-- The variables that commands see, with their texts. -/
def environment : Run (List (String × Chars)) := do
  let s ← get
  let names := (s.scopes.reverse.flatMap (·.keys)).eraseDups
  return names.filterMap fun name =>
    match find? name s.scopes with
    | some ⟨.text t, marks⟩ => if marks.exported then some (name, t) else none
    | _ => none

/-- The number by which a shell keeps names apart. -/
def nameHash (d : Dialect) (name : String) : Nat :=
  let bytes := Text.encode name
  match d with
  | .bash => bytes.foldl (fun h b => (h * 16777619 % 0x100000000) ^^^ b.toNat) 2166136261
  | .dash => bytes.foldl (fun h b => h + b.toNat) (16 * (bytes.head?.map (·.toNat)).getD 0)

/-- A shell keeps its names in so many groups. Those that last shortly begin with fewer. -/
def groupCount (d : Dialect) (isOutermost : Bool) (size : Nat) : Nat :=
  match d, isOutermost with
  | .dash, _ => 39
  | .bash, true => 1024
  | .bash, false => if size < 8 then 4 else if size < 32 then 16 else if size < 128 then 64 else 256

/-- The variables that a shell hands over to a program, in their order. -/
def handedOver : Run Scope := do
  let s ← get
  let count := s.scopes.length
  let ordered := s.scopes.zipIdx.flatMap fun (scope, i) =>
    let groups := groupCount s.dialect (i + 1 = count) scope.size
    let place (name : String) : Nat := nameHash s.dialect name % groups
    let names := match s.dialect with
      | .bash => scope.keys.reverse
      | .dash => scope.keys
    names.mergeSort fun a b => place a ≤ place b
  let names := ordered.eraseDups
  let names := if s.dialect = .bash && names.contains "_" then names.filter (· ≠ "_") ++ ["_"]
    else names
  return OrderedMap.ofList (names.filterMap fun name =>
    match find? name s.scopes with
    | some ⟨.text t, marks⟩ => if marks.exported then some (name, ⟨.text t, marks⟩) else none
    | _ => none)

def isOn (x : Setting) : Run Bool := return (← get).settings.contains x

def hasExtra (name : String) : Run Bool := return (← get).extras.contains name

end Run

end Provision.Shell
