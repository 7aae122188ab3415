import Provision.Program.Removal

/-!
Links, and the older nodes that are kept when others take their place.
-/

namespace Provision.Program

open Bytes (toText ofText)
open Files (FileError Tree)
open Shell (Run)

/-! ## Keeping what was there -/

/-- How what was at a path is kept: under a name with an ending, under a name with a number, or with a
number if there is one with a number already. -/
inductive Keeping
  | plain
  | numbered
  | existing
  deriving DecidableEq

/-- How and with which ending things are kept. -/
structure Backup where
  keeping : Option Keeping
  ending : Chars

/-- Whether options ask for something to be kept. -/
def Backup.ofArguments (a : Arguments) : Except String Backup :=
  let asked := a.has "b" || a.has "backup" || a.has "S"
  let ending := (a.value? "S").getD ['~']
  let keeping : Except String (Option Keeping) :=
    match a.value? "backup" with
    | none | some [] => .ok (some .existing)
    | some t =>
      choose "backup type"
        [(["none", "off"], none), (["simple", "never"], some .plain),
         (["existing", "nil"], some .existing), (["numbered", "t"], some .numbered)] t
  if asked then keeping.map (⟨·, ending⟩) else .ok ⟨none, ending⟩

/-- The numbers of names with which earlier nodes of a name are kept. -/
def keptNumbers (t : Tree) (path : Chars) : List Nat :=
  let names := match t.locate (toText (withoutLastPart path)) with
    | .ok d => (t.entries d).map fun (e : String × Nat) => ofText e.1
    | .error _ => []
  let start := lastPart path ++ ".~".toList
  names.filterMap fun n =>
    if start.isPrefixOf n && n.getLast? = some '~' then
      Text.readNat? 10 ((n.drop start.length).dropLast)
    else none

/-- The path under which a node is kept. -/
def Backup.path? (b : Backup) (t : Tree) (path : Chars) : Option Chars :=
  let numbered : Chars :=
    path ++ ".~".toList ++ Nat.toDigits 10 ((keptNumbers t path).foldl max 0 + 1) ++ ['~']
  b.keeping.map fun k => match k with
    | .plain => path ++ b.ending
    | .numbered => numbered
    | .existing => if (keptNumbers t path).isEmpty then path ++ b.ending else numbered

/-- Where things go: to a path, or into a directory. -/
inductive Goal
  | path (t : Chars)
  | directory (t : Chars)

/-- The path in a directory for what comes from a path. -/
def Goal.for (g : Goal) (source : Chars) : Chars :=
  match g with
  | .path t => t
  | .directory d =>
    let last := lastPart source
    if last = ['.', '.'] then d
    else if d.getLast? = some '/' then d ++ last else d ++ '/' :: last

/-- What options and operands say about where things go. The last operand can be a directory, which
a link counts as unless it is to be taken for itself. -/
def goalOf (c : Caller) (a : Arguments) (alone : Option Chars) (itself : Bool) :
    Run (Except Nat (List Chars × Goal)) := do
  let t ← Run.tree
  let isDirectory (d : Chars) : Bool :=
    if itself then (t.findEntry (toText d)).toOption.any Files.Node.isDirectory
    else t.isDirectory (toText d)
  let operands := a.operands
  let fail (status : Run Nat) : Run (Except Nat (List Chars × Goal)) := do
    return .error (← status)
  let missing := misuse c.name "missing file operand"
  let missingGoal (one : Chars) := misuse c.name ("missing destination file operand after " ++ cited one)
  match a.value? "t", a.has "T", operands with
  | some _, true, _ =>
    fail (complain c.name
      "cannot combine --target-directory (-t) and --no-target-directory (-T)")
  | some d, false, [] =>
    let _ := d
    fail missing
  | some d, false, sources =>
    if isDirectory d then return .ok (sources, .directory d)
    else
      let reason := match t.find (toText d) with
        | .ok _ => FileError.notADirectory
        | .error e => e
      match c.name, reason with
      | "ln", .notADirectory =>
        fail (complain c.name ("target " ++ quoted d ++ " is not a directory"))
      | "ln", e => fail (complain c.name ("failed to access " ++ quoted d ++ ": " ++ e.reason))
      | _, e => fail (complain c.name ("target directory " ++ quoted d ++ ": " ++ e.reason))
  | none, _, [] => fail missing
  | none, true, [one] => fail (missingGoal one)
  | none, true, [source, goal] => return .ok ([source], .path goal)
  | none, true, _ :: _ :: extra :: _ => fail (refuseOperand c.name extra)
  | none, false, [one] =>
    match alone with
    | some d => return .ok ([one], .directory d)
    | none => fail (missingGoal one)
  | none, false, source :: goal :: more =>
    let sources := (source :: goal :: more).dropLast
    let last := (goal :: more).getLastD []
    if isDirectory last then return .ok (sources, .directory last)
    else if more.isEmpty then return .ok (sources, .path last)
    else
      let reason := match t.find (toText last) with
        | .ok _ => FileError.notADirectory
        | .error e => e
      fail (complain c.name ("target " ++ quoted last ++ ": " ++ reason.reason))

/-! ## Links -/

/-- Makes one link. -/
def makeOneLink (c : Caller) (a : Arguments) (b : Backup) (source goal : Chars) : Run Nat := do
  let t ← Run.tree
  let symbolic := a.has "s"
  let sourceNode := if a.has "L" then t.locate (toText source) else t.locateEntry (toText source)
  match symbolic, sourceNode with
  | false, .error e =>
    return ← complain c.name ("failed to access " ++ quoted source ++ ": " ++ e.reason)
  | false, .ok n =>
    if (t.node? n).any Files.Node.isDirectory then
      return ← complain c.name (shownPath source ++ ": hard link not allowed for directory")
  | true, _ => pure ()
  let present := t.locateEntry (toText goal)
  let mut kept : Option Chars := none
  if let .ok old := present then
    if a.has "f" || a.has "i" || b.keeping.isSome then
      if (t.node? old).any Files.Node.isDirectory then
        return ← complain c.name (shownPath goal ++ ": cannot overwrite directory")
      let sourceId := (if symbolic then t.locate (toText source) else sourceNode).toOption
      let same := sourceId = some old && (b.keeping.isNone || !symbolic)
      if same && (t.linkCount old = 1 || goal = source) then
        return ← complain c.name (quoted source ++ " and " ++ quoted goal ++ " are the same file")
      if a.lastOf? ["f", "i"] = some "i" then
        unless ← ask c.name ("replace " ++ quoted goal) do return 1
      match b.path? t goal with
      | some path =>
        let _ ← Run.changeTree (·.rename (toText goal) (toText path))
        kept := some path
      | none => let _ ← Run.changeTree (·.remove (toText goal))
  let text : Chars ← if symbolic && a.has "r" then
      do pure (match resolve t .anything (withoutLastPart goal), resolve t .anything source with
        | .ok d, .ok s => relativePath d s
        | _, _ => source)
    else pure source
  let result ← if symbolic then Run.changeTree (·.makeLink (toText text) (toText goal))
    else Run.changeTree fun t => do
      let id ← if a.has "L" then t.locate (toText source) else t.locateEntry (toText source)
      t.share id (toText goal)
  match result with
  | .ok () =>
    if a.has "v" then
      let suffix := match kept with
        | some path => " (backup: " ++ quoted path ++ ")"
        | none => ""
      let _ ← out c.name (ofText (quoted goal ++ (if symbolic then " -> " else " => ") ++
        quoted text ++ suffix ++ "\n"))
    return 0
  | .error e =>
    let what := if symbolic then "failed to create symbolic link " else "failed to create hard link "
    let detail := if symbolic then
        if e = .nameTooLong || source.isEmpty then " -> " ++ quoted text else ""
      else if e = .exists || e = .noSpace then "" else " => " ++ quoted source
    complain c.name (what ++ quoted goal ++ detail ++ ": " ++ e.reason)

def ln : Program := fun c args =>
  withArguments c.name (.ofString "bdfFinst:vLPrS:T"
    ["backup?", "directory|d", "no-dereference|n", "no-target-directory|T", "force|f",
     "interactive|i", "suffix=|S", "target-directory=|t", "logical|L", "physical|P",
     "relative|r", "symbolic|s", "verbose|v"]) 1 false args fun a => do
    match Backup.ofArguments a with
    | .error message => misuse c.name message
    | .ok b =>
      if a.has "r" && !a.has "s" then
        return ← complain c.name "cannot do --relative without --symbolic"
      match ← goalOf c a (some ['.']) (a.has "n") with
      | .error status => return status
      | .ok (sources, goal) =>
        forAll sources fun source => makeOneLink c a b source (goal.for source)

def link : Program := fun c args =>
  withArguments c.name ⟨[], []⟩ 1 false args fun a => do
    match a.operands with
    | [source, goal] =>
      let result ← Run.changeTree fun t => do
        let id ← t.locateEntry (toText source)
        if (t.node? id).any Files.Node.isDirectory then throw .notPermitted
        t.share id (toText goal)
      match result with
      | .ok () => return 0
      | .error e =>
        complain c.name ("cannot create link " ++ quoted goal ++ " to " ++ quoted source ++ ": " ++
          e.reason)
    | _ :: _ :: extra :: _ => refuseOperand c.name extra
    | few => missOperand c.name few

end Provision.Program
