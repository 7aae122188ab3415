import Provision.Program.Links
import Provision.Program.Permissions

/-!
Programs that copy and move files and directories.
-/

namespace Provision.Program

open Bytes (toText ofText)
open Files (FileError Tree ModeChange)
open Shell (Run)

/-- Which links are followed: none, those that are operands, or all. -/
inductive Following
  | never
  | operands
  | always
  deriving DecidableEq

/-- What is done with something that is at a goal already: it is replaced, somebody is asked, or it
is left alone. -/
inductive Replacing
  | always
  | asked
  | never
  deriving DecidableEq

/-- How things are copied or moved. -/
structure CopyStyle where
  name : String
  moves : Bool := false
  installs : Bool := false
  deep : Bool := false
  following : Following := .always
  keepsMode : Bool := false
  plainMode : Bool := false
  keepsOwner : Bool := false
  keepsTimes : Bool := false
  keepsLinks : Bool := false
  asRegular : Bool := true
  backup : Backup
  replacing : Replacing := .always
  onlyNewer : Bool := false
  forces : Bool := false
  removesFirst : Bool := false
  links : Bool := false
  linksByPath : Bool := false
  copiesContent : Bool := true
  tells : Bool := false
  mode? : Option Nat := none

/-- What is known of a goal before one looks: nothing, that no path leads to it, or that there is no
node. -/
inductive Knowledge
  | nothing
  | unreached
  | absent
  deriving DecidableEq

/-- What has been copied so far: the operands, what has been made for them, and where the copies of
nodes are. -/
structure Copied where
  sources : List (Chars × Nat) := []
  goals : List (Chars × Nat) := []
  copies : List (Nat × Chars) := []
  begun : Bool := false

/-- Work that remembers what has been copied. -/
abbrev Copy := StateT Copied Run

namespace Copy

/-- Complains, and does not succeed. -/
def refuse (st : CopyStyle) (message : String) : Copy Bool := do
  let _ ← complain st.name message
  return false

def tell (st : CopyStyle) (text : String) : Copy Unit := do
  let _ ← out st.name (ofText (text ++ "\n"))

/-- Tells from where to where something goes. -/
def tellWay (st : CopyStyle) (label : String) (source goal : Chars) (kept : Option Chars) :
    Copy Unit :=
  let ending := match kept with
    | some path => " (backup: " ++ quoted path ++ ")"
    | none => ""
  tell st (label ++ quoted source ++ " -> " ++ quoted goal ++ ending)

/-- Whether two paths are the same name in the same directory. -/
def sameName (t : Tree) (x y : Chars) : Bool :=
  match t.nameplace (toText x), t.nameplace (toText y) with
  | .ok p, .ok q => p.directory = q.directory && p.name = q.name
  | _, _ => false

/-- Moves a node to a path where there is nothing. -/
def renameFresh (t : Tree) (source goal : Chars) : Except FileError Tree := do
  match t.nameplace (toText source), t.nameplace (toText goal) with
  | .ok ⟨_, _, some _⟩, .ok ⟨_, _, some _⟩ => throw .exists
  | _, _ => t.rename (toText source) (toText goal)

/-- Whether the goal may be the source: the answer tells if it may, and if nothing is to be done
then. -/
def mayBeSame (st : CopyStyle) (t : Tree) (source goal : Chars) (id other : Nat) : Bool × Bool :=
  let same := id = other
  let isLink (n : Nat) : Bool := (t.node? n).any Files.Node.isLink
  let ok : Bool × Bool := (true, false)
  let wrong : Bool × Bool := (false, false)
  if same && st.links then (true, true)
  else
    let backs := st.backup.keeping.isSome
    let own (path : Chars) (n : Nat) : Nat := ((t.locateEntry (toText path)).toOption).getD n
    let never := st.following = .never
    if never && isLink id && isLink other then
      let named := sameName t source goal
      if named then wrong
      else if backs then ok
      else if same then (!st.moves, true)
      else ok
    else if !never && !same then ok
    else
      let sourceLink := if never then id else own source id
      let goalLink := if never then other else own goal other
      let sameLink := sourceLink = goalLink
      if !never && isLink sourceLink && isLink goalLink && st.removesFirst then ok
      else if backs then
        if sameLink then (!sameName t source goal, false)
        else (!(!st.moves && !never && isLink sourceLink && !isLink goalLink), false)
      else if (st.moves || st.removesFirst) && isLink goalLink then ok
      else if (st.moves || st.removesFirst) && sameLink && 1 < t.linkCount goalLink &&
          !sameName t source goal then (!st.moves, false)
      else if !isLink sourceLink && !isLink goalLink && !sameLink then ok
      else if !isLink sourceLink && !isLink goalLink && st.links then (true, true)
      else if st.linksByPath && isLink goalLink then ok
      else if never then
        let followed (path : Chars) (n : Nat) : Option Nat :=
          if isLink n then (t.locate (toText path)).toOption else some n
        match followed source sourceLink, followed goal goalLink with
        | some x, some y =>
          if x ≠ y then ok
          else if st.links then (true, !isLink goalLink)
          else wrong
        | _, _ => ok
      else wrong

/-- How it stands with a goal: nothing more is to be done, or it can be written, be it new. -/
inductive Readiness
  | settled (good : Bool)
  | ready (isNew : Bool) (kept : Option Chars)

/-- Puts aside or removes what is at a goal, if that may be replaced. -/
def replace (st : CopyStyle) (isOperand : Bool) (t : Tree) (source goal : Chars) (id : Nat)
    (n : Files.Node) (other : Nat) : Copy Readiness := do
  let old := (t.node? other).getD n
  let (may, done) := mayBeSame st t source goal id other
  let no (message : String) : Copy Readiness := return .settled (← refuse st message)
  if st.replacing ≠ .never && !may then
    return ← no (quoted source ++ " and " ++ quoted goal ++ " are the same file")
  if st.onlyNewer && !n.isDirectory && n.modified ≤ old.modified then return .settled true
  if st.moves || !n.isDirectory then
    match st.replacing with
    | .never => return .settled true
    | .asked => unless ← ask st.name ("overwrite " ++ quoted goal) do return .settled true
    | .always => pure ()
  if done then return .settled true
  let backs := st.backup.keeping.isSome
  if !old.isDirectory then
    if n.isDirectory && !(st.moves && backs) then
      return ← no ("cannot overwrite non-directory " ++ quoted goal ++ " with directory " ++
        quoted source)
    if isOperand && st.backup.keeping ≠ some .numbered && (← get).goals.contains (goal, other) then
      return ← no ("will not overwrite just-created " ++ quoted goal ++ " with " ++ quoted source)
  else if !n.isDirectory && !(st.moves && backs) then
    return ← no ("cannot overwrite directory " ++ quoted goal ++ " with non-directory")
  let dotted := lastPart source = ['.'] || lastPart source = ['.', '.']
  match st.backup.path? t goal with
  | some path =>
    if !dotted && (st.moves || !old.isDirectory) then
      if st.backup.keeping ≠ some .numbered && sameName t path source then
        return ← no ("backing up " ++ quoted goal ++ " might destroy source;  " ++ quoted source ++
          (if st.moves then " not moved" else " not copied"))
      match ← Run.changeTree (·.rename (toText goal) (toText path)) with
      | .ok () => return .ready true (some path)
      | .error e => return ← no ("cannot backup " ++ quoted goal ++ ": " ++ e.reason)
  | none => pure ()
  let clears := !backs && !old.isDirectory && !st.moves && (st.removesFirst ||
    (st.copiesContent && ((st.keepsLinks && 1 < t.linkCount other) ||
      (st.following = .never && !n.isFile))))
  if clears then
    match ← Run.changeTree (·.remove (toText goal)) with
    | .ok () =>
      if st.tells then tell st ("removed " ++ quoted goal)
      return .ready true none
    | .error e => return ← no ("cannot remove " ++ quoted goal ++ ": " ++ e.reason)
  return .ready false none

/-- Looks what is at a goal. -/
def prepare (st : CopyStyle) (isOperand : Bool) (known : Knowledge) (source goal : Chars) (id : Nat)
    (n : Files.Node) : Copy Readiness := do
  let itself := !n.isFile && (!st.asRegular || n.isDirectory || n.isLink) || st.moves ||
    st.linksByPath || st.links || st.backup.keeping.isSome || st.removesFirst
  if known = .absent || (known = .unreached && !itself) then return .ready true none
  let t ← Run.tree
  let path := toText (if goal.isEmpty then ['.'] else goal)
  let path := if (Host.descriptorOf? path).isSome then "/dev/null" else path
  match if itself then t.locateEntry path else t.locate path with
  | .ok other => replace st isOperand t source goal id n other
  | .error .notFound => return .ready true none
  | .error .tooManyLinks =>
    if st.forces then return .ready false none
    else
      return .settled (← refuse st ("cannot stat " ++ quoted goal ++ ": " ++
        FileError.tooManyLinks.reason))
  | .error e => return .settled (← refuse st ("cannot stat " ++ quoted goal ++ ": " ++ e.reason))

/-- Gives a node what is kept of another one. -/
def keep (st : CopyStyle) (goal : Chars) (n : Files.Node) (itself : Bool) : Copy Unit := do
  let mask := (← (getThe Shell.Session : Run _)).mask
  let _ ← Run.changeTree fun t => do
    let id ← if itself then t.locateEntry (toText goal) else t.locate (toText goal)
    return t.modify id fun m => { m with
      mode :=
        if n.isLink then m.mode
        else if st.keepsMode then n.mode
        else match st.mode? with
          | some mode => mode
          | none =>
            if st.plainMode then
              let all := if n.isDirectory then 0o777 else 0o666
              all - (all &&& mask)
            else m.mode
      owner := if st.keepsOwner then n.owner else m.owner
      group := if st.keepsOwner then n.group else m.group
      accessed := if st.keepsTimes then n.accessed else m.accessed
      modified := if st.keepsTimes then n.modified else m.modified }

/-- Copies what a file holds. -/
def copyContent (st : CopyStyle) (isNew : Bool) (source goal : Chars) (id : Nat) (n : Files.Node) :
    Copy Bool := do
  let failed (e : FileError) : Copy Bool :=
    refuse st ("cannot create regular file " ++ quoted goal ++ ": " ++ e.reason)
  let unread (e : FileError) : Copy Bool :=
    refuse st ("cannot open " ++ quoted source ++ " for reading: " ++ e.reason)
  let t ← Run.tree
  let isPlain := n.isFile && (Host.descriptorOf? (toText source)).isNone
  let isSpecial := (Host.descriptorOf? (toText goal)).isSome ||
    (t.find (toText goal)).toOption.any fun m => !m.isFile && !m.isDirectory
  let content ← if isPlain then pure (.ok (Bytes.ofBytes n.bytes)) else Run.readFile source
  match content with
  | .error e => unread e
  | .ok text =>
    if isSpecial then
      match ← Run.withFile goal .write (Run.write · text) with
      | .ok (.ok ()) => return true
      | .ok (.error e) => refuse st ("error writing " ++ quoted goal ++ ": " ++ e.reason)
      | .error e => failed e
    else
      let usual := (st.mode?.getD n.mode) &&& 0o777
      let mask := (← (getThe Shell.Session : Run _)).mask
      let mode := usual - (usual &&& mask)
      let fill (id : Nat) (t : Tree) : Tree :=
        if st.copiesContent then t.updateBytes id fun _ => Bytes.toBytes text else t
      let make : Copy (Option Bool) := do
        let t ← Run.tree
        if (t.findEntry (toText goal)).toOption.any Files.Node.isLink then
          return some (← refuse st ("not writing through dangling symlink " ++ quoted goal))
        let result ← Run.changeTree fun t => do
          let p ← t.place false (toText goal)
          if goal.getLast? = some '/' then throw .notADirectory
          if p.node.isSome then throw .exists
          let (id, t) := t.create p mode
          return fill id t
        match result with
        | .ok () => return none
        | .error e =>
          let e := if e = .notFound && goal.getLast? = some '/' &&
              (t.locateEntry (toText (withoutLastPart goal))).toOption.isSome then
            FileError.notADirectory else e
          return some (← failed e)
      let ending (r : Option Bool) : Copy Bool := do
        match r with
        | some good => return good
        | none =>
          keep st goal n false
          return true
      let _ := id
      if isNew then ending (← make)
      else
        match ← Run.changeTree fun t => do
            let id ← t.locate (toText goal)
            if (t.node? id).any Files.Node.isDirectory then throw .isADirectory
            return fill id t with
        | .ok () => ending none
        | .error .notFound => ending (← make)
        | .error e =>
          if st.forces then
            match ← Run.changeTree (·.remove (toText goal)) with
            | .ok () =>
              if st.tells then tell st ("removed " ++ quoted goal)
              ending (← make)
            | .error e => failed e
          else failed e

/-- Copies something that is no directory. -/
def copyPlain (st : CopyStyle) (isNew : Bool) (source goal : Chars) (id : Nat) (n : Files.Node) :
    Copy Bool := do
  if st.linksByPath then
    let t ← Run.tree
    let above := withoutLastPart goal
    let isHere := match t.locate (toText above) with
      | .ok d => d = t.working
      | .error _ => true
    if source.head? ≠ some '/' && !isHere then
      return ← refuse st (shownPath goal ++
        ": can make relative symbolic links only in current directory")
    if st.forces then
      let _ ← Run.changeTree (·.remove (toText goal))
    match ← Run.changeTree (·.makeLink (toText source) (toText goal)) with
    | .ok () => return true
    | .error e =>
      refuse st ("cannot create symbolic link " ++ quoted goal ++ " to " ++ quoted source ++ ": " ++
        e.reason)
  else if st.links then
    if st.forces || st.replacing = .asked then
      let _ ← Run.changeTree (·.remove (toText goal))
    match ← Run.changeTree (·.share id (toText goal)) with
    | .ok () => return true
    | .error e =>
      refuse st ("cannot create hard link " ++ quoted goal ++ " to " ++ quoted source ++ ": " ++
        e.reason)
  else
    match n.content with
    | .link path =>
      if st.forces then
        let _ ← Run.changeTree (·.remove (toText goal))
      match ← Run.changeTree (·.makeLink path (toText goal)) with
      | .ok () =>
        keep st goal n true
        return true
      | .error e =>
        refuse st ("cannot create symbolic link " ++ quoted goal ++ ": " ++ e.reason)
    | content =>
      if n.isFile || st.asRegular then copyContent st isNew source goal id n
      else
        match ← makeNode goal content (← Run.permitted n.mode) with
        | .ok () =>
          keep st goal n true
          return true
        | .error e =>
          let what := if content = .queue then "fifo " else "special file "
          refuse st ("cannot create " ++ what ++ quoted goal ++ ": " ++ e.reason)

/-- Moves a node whose goal is ready. -/
def moveNode (st : CopyStyle) (top : Chars × Chars) (isOperand : Bool) (kept : Option Chars)
    (source goal : Chars) (id : Nat) : Copy Bool := do
  match ← Run.changeTree (·.rename (toText source) (toText goal)) with
  | .ok () =>
    if st.tells then tellWay st "renamed " source goal kept
    if isOperand then modify fun s => { s with goals := (goal, id) :: s.goals }
    return true
  | .error .invalid =>
    refuse st ("cannot move " ++ quoted top.1 ++ " to a subdirectory of itself, " ++ quoted top.2)
  | .error e =>
    refuse st ("cannot move " ++ quoted source ++ " to " ++ quoted goal ++ ": " ++ e.reason)

/-- Whether there is a copy already, of which one knows then where it is. -/
def earlier? (st : CopyStyle) (isOperand : Bool) (t : Tree) (goal : Chars) (id : Nat)
    (n : Files.Node) : Copy (Option Chars) := do
  let found := (← get).copies.lookup id
  let remember : Copy Unit := do
    if found.isNone then modify fun s => { s with copies := (id, goal) :: s.copies }
  if st.deep && n.isDirectory then
    if isOperand then remember
    return found
  else if st.keepsLinks && !st.links && (1 < t.linkCount id ||
      (isOperand && st.following = .operands) || st.following = .always) then
    remember
    return found
  else return none

/-- Copies a directory, with `below` for what is in it. -/
def copyDirectory (st : CopyStyle) (below : CopyStyle → List Nat → Knowledge → Chars → Chars → Copy Bool)
    (lineage : List Nat) (isNew : Bool) (source goal : Chars) (id : Nat) (n : Files.Node) :
    Copy Bool := do
  if lineage.contains id then
    return ← refuse st ("cannot copy cyclic symbolic link " ++ quoted source)
  if isNew then
    let mode ← Run.permitted n.mode
    match ← Run.changeTree (·.makeDirectory (toText goal) mode) with
    | .error e =>
      return ← refuse st ("cannot create directory " ++ quoted goal ++ ": " ++ e.reason)
    | .ok () =>
      if !(← get).begun then
        if let .ok made := (← Run.tree).locate (toText goal) then
          modify fun s => { s with copies := (made, goal) :: s.copies, begun := true }
      if st.tells then tellWay st "" source goal none
  let t ← Run.tree
  let names := (t.entries id).mergeSort fun x y => x.2 ≤ y.2
  let mut good := true
  for (name, _) in names do
    let known := if isNew then Knowledge.absent else .nothing
    let following := if st.following = .operands then .never else st.following
    let fine ← below { st with following } (id :: lineage) known (pathIn source name)
      (pathIn goal name)
    good := good && fine
  if isNew || st.keepsMode then keep st goal n false
  return good

/-- Copies or moves a node that is found, with `below` for what is in a directory. -/
def copyFound (st : CopyStyle) (below : CopyStyle → List Nat → Knowledge → Chars → Chars → Copy Bool)
    (top : Chars × Chars) (isOperand : Bool) (lineage : List Nat) (known : Knowledge)
    (source goal : Chars) (id : Nat) (n : Files.Node) : Copy Bool := do
  match ← prepare st isOperand (if st.moves then .nothing else known) source goal id n with
  | .settled good => return good
  | .ready isNew kept =>
    let t ← Run.tree
    if isOperand && !st.moves && st.backup.keeping.isNone then
      if let .ok other := t.locateEntry (toText goal) then
        if (t.node? other).any Files.Node.isLink && (← get).goals.contains (goal, other) then
          return ← refuse st ("will not copy " ++ quoted source ++
            " through just-created symlink " ++ quoted goal)
    if st.tells && !st.moves && !n.isDirectory then tellWay st "" source goal kept
    if st.moves then return ← moveNode st top isOperand kept source goal id
    match ← earlier? st isOperand t goal id n with
    | some before =>
      if n.isDirectory then
        if sameName t source before then
          return ← refuse st ("cannot copy a directory, " ++ quoted top.1 ++
            ", into itself, " ++ quoted top.2)
        else if sameName t goal before then
          let _ ← complain st.name ("warning: source directory " ++ quoted top.1 ++
            " specified more than once")
          return true
        else if st.following ≠ .always && !(isOperand && st.following = .operands) then
          return ← refuse st ("will not create hard link " ++ quoted top.2 ++
            " to directory " ++ quoted before)
        else copyDirectory st below lineage isNew source goal id n
      else
        let _ ← Run.changeTree (·.remove (toText goal))
        let result ← Run.changeTree fun t => do
          t.share (← t.locateEntry (toText before)) (toText goal)
        match result with
        | .ok () => return true
        | .error e =>
          refuse st ("cannot create hard link " ++ quoted goal ++ " to " ++ quoted before ++
            ": " ++ e.reason)
    | none =>
      if n.isDirectory then copyDirectory st below lineage isNew source goal id n
      else
        let good ← copyPlain st isNew source goal id n
        if good && isOperand then
          if let .ok other := (← Run.tree).locateEntry (toText goal) then
            modify fun s => { s with goals := (goal, other) :: s.goals }
        return good

/-- Copies or moves a node, with `below` for what is in a directory. The answer tells whether all
has gone well. -/
def copyOne (st : CopyStyle) (below : CopyStyle → List Nat → Knowledge → Chars → Chars → Copy Bool)
    (top : Chars × Chars) (isOperand : Bool) (lineage : List Nat) (known : Knowledge)
    (source goal : Chars) : Copy Bool := do
  let moved ← if st.moves then Run.changeTree (renameFresh · source goal)
    else pure (.error FileError.exists)
  let itself := st.following = .never || (st.following = .operands && !isOperand)
  match moved with
  | .ok () =>
    if st.tells then tellWay st "renamed " source goal none
    match (← Run.tree).locateEntry (toText goal) with
    | .ok id => modify fun s => { s with goals := (goal, id) :: s.goals }
    | .error _ => pure ()
    return true
  | .error e =>
    if st.moves && e = .exists && st.replacing = .never then return true
    let t ← Run.tree
    let path := toText source
    let path := if (Host.descriptorOf? path).isSome then "/dev/null" else path
    let found := do
      let id ← if itself then t.locateEntry path else t.locate path
      match t.node? id with
      | some n => return (id, n)
      | none => throw FileError.notFound
    match found with
    | .error e => refuse st ("cannot stat " ++ quoted source ++ ": " ++ e.reason)
    | .ok (id, n) =>
      if n.isDirectory && !st.deep then
        return ← refuse st ((if st.installs then "" else "-r not specified; ") ++
          "omitting directory " ++ quoted source)
      if isOperand && !st.moves && !st.installs then
        if !n.isDirectory && st.backup.keeping.isNone &&
            (← get).sources.contains (source, id) then
          let _ ← complain st.name ("warning: source file " ++ quoted source ++
            " specified more than once")
          return true
        modify fun s => { s with sources := (source, id) :: s.sources }
      copyFound st below top isOperand lineage known source goal id n

/-- Copies or moves a node with all below it. -/
def copyNode (top : Chars × Chars) (isOperand : Bool) :
    (room : Nat) → CopyStyle → (lineage : List Nat) → Knowledge → (source goal : Chars) → Copy Bool
  | 0 => fun _ _ _ _ _ => return false
  | room + 1 => fun st => copyOne st (copyNode top false room) top isOperand

/-- Copies an operand. -/
def copyOperand (st : CopyStyle) (known : Knowledge) (source goal : Chars) : Copy Bool := do
  modify fun s => { s with begun := false }
  copyNode (source, goal) true maxDepth st [] known source goal

/-- Copies operands to their goals, one after the other. -/
def copyAll (st : CopyStyle) (known : Knowledge) (goalFor : Chars → Copy (Option Chars)) :
    List Chars → Copy Bool
  | [] => return true
  | source :: rest => do
    let good ← match ← goalFor source with
      | some goal => copyOperand st known source goal
      | none => pure false
    let others ← copyAll st known goalFor rest
    return good && others

end Copy

/-! ## The programs -/

/-- What is to be kept of what is copied, by names between commas. -/
def keepNamed (isKept : Bool) (option : String) (st : CopyStyle) (t : Chars) :
    Except String CopyStyle :=
  (t.splitOn ',').foldlM (fun st name => do
    let keep ← choose ("--" ++ option)
      [(["mode"], fun st => { st with keepsMode := isKept, plainMode := !isKept }),
       (["timestamps"], fun st => { st with keepsTimes := isKept }),
       (["ownership"], fun st => { st with keepsOwner := isKept }),
       (["links"], fun st => { st with keepsLinks := isKept }),
       (["context"], fun (st : CopyStyle) => st),
       (["xattr"], fun st => st),
       (["all"], fun st =>
        { st with
          keepsMode := isKept, plainMode := !isKept, keepsTimes := isKept, keepsOwner := isKept
          keepsLinks := isKept })] name
    return keep st) st

/-- How options say that things are to be copied. -/
def copyStyleOf (name : String) (a : Arguments) (backup : Backup) : Except String CopyStyle := do
  let st : CopyStyle := { name, backup }
  let set (s : CopyStyle × Option Following) (o : String × Chars) :
      Except String (CopyStyle × Option Following) :=
    let (st, following) := s
    let all := { st with keepsMode := true, keepsOwner := true, keepsTimes := true }
    match o.1 with
    | "a" => .ok ({ all with keepsLinks := true, deep := true }, some .never)
    | "d" => .ok ({ st with keepsLinks := true }, some .never)
    | "H" => .ok (st, some .operands)
    | "L" => .ok (st, some .always)
    | "P" => .ok (st, some .never)
    | "p" => .ok (all, following)
    | "preserve" =>
      if o.2.isEmpty then .ok (all, following)
      else (keepNamed true "preserve" st o.2).map (·, following)
    | "no-preserve" => (keepNamed false "no-preserve" st o.2).map (·, following)
    | _ => .ok s
  let (st, following) ← a.options.foldlM set (st, none)
  let deep := a.has "r" || a.has "R" || a.has "a"
  return { st with
    deep
    following := following.getD (if deep && !a.has "l" then .never else .always)
    asRegular := !deep || a.has "copy-contents"
    replacing := match a.lastOf? ["i", "n"] with
      | some "i" => .asked
      | some "n" => .never
      | _ => .always
    onlyNewer := a.has "u" && a.lastOf? ["i", "n"] ≠ some "n"
    forces := a.has "f"
    removesFirst := a.has "remove-destination"
    links := a.has "l"
    linksByPath := a.has "s"
    copiesContent := !a.has "attributes-only"
    tells := a.has "v" }

/-- What is known of a path to which something goes that is no directory. -/
def knowledgeOf (t : Tree) (a : Arguments) : Goal → Knowledge
  | .directory _ => .nothing
  | .path goal =>
    if a.has "T" then .nothing
    else match t.locate (toText goal) with
      | .error .notFound => .unreached
      | _ => .nothing

/-- Makes the directories above a goal that the source has above itself. The answer is the goal if
that is possible. -/
def makeParents (st : CopyStyle) (directory source : Chars) : Copy (Option Chars) := do
  let source := trimSlashes source
  let inGoal (t : Chars) : Chars :=
    let t := t.dropWhile (· == '/')
    if directory.getLast? = some '/' then directory ++ t else directory ++ '/' :: t
  let rec go : List Chars → Copy Bool
    | [] => return true
    | step :: rest => do
      let t ← Run.tree
      let goal := inGoal step
      match t.find (toText goal) with
      | .ok n =>
        if n.isDirectory then go rest
        else Copy.refuse st (quoted goal ++ " exists but is not a directory")
      | .error _ =>
        match t.find (toText step) with
        | .error e =>
          Copy.refuse st ("failed to get attributes of " ++ quoted step ++ ": " ++ e.reason)
        | .ok n =>
          let mode ← Run.permitted n.mode
          match ← Run.changeTree (·.makeDirectory (toText goal) mode) with
          | .error e =>
            Copy.refuse st ("cannot make directory " ++ quoted goal ++ ": " ++ e.reason)
          | .ok () =>
            if st.tells then Copy.tell st (toText step ++ " -> " ++ toText goal)
            go rest
  if ← go (stepsOf source).dropLast then return some (inGoal source) else return none

def cp : Program := fun c args =>
  withArguments c.name (.ofString "abdfHilLnprst:uvxPRS:TZ"
    ["archive|a", "attributes-only", "backup?", "copy-contents", "dereference|L", "force|f",
     "interactive|i", "link|l", "no-clobber|n", "no-dereference|P", "no-preserve=",
     "no-target-directory|T", "one-file-system|x", "parents", "path|parents", "preserve?",
     "recursive|R", "remove-destination", "sparse=", "reflink?", "strip-trailing-slashes",
     "suffix=|S", "symbolic-link|s", "target-directory=|t", "update|u", "verbose|v", "context?|Z"])
    1 false args fun a => do
    match Backup.ofArguments a with
    | .error message => misuse c.name message
    | .ok backup =>
      match copyStyleOf c.name a backup with
      | .error message => misuse c.name message
      | .ok st =>
        if st.links && st.linksByPath then
          return ← misuse c.name "cannot make both hard and symbolic links"
        if backup.keeping.isSome && st.replacing = .never then
          return ← misuse c.name "options --backup and --no-clobber are mutually exclusive"
        match ← goalOf c a none false with
        | .error status => return status
        | .ok (sources, goal) =>
          let t ← Run.tree
          let sources := if a.has "strip-trailing-slashes" then sources.map trimSlashes else sources
          let same := match goal with
            | .path g => st.forces && backup.keeping.isSome && sources = [g] &&
              (t.find (toText g)).toOption.any Files.Node.isFile
            | .directory _ => false
          let (st, goal) := match goal with
            | .path g =>
              if same then
                ({ st with backup := ⟨none, backup.ending⟩ }, Goal.path ((backup.path? t g).getD g))
              else (st, goal)
            | _ => (st, goal)
          match goal, a.has "parents" with
          | .path _, true =>
            misuse c.name "with --parents, the destination must be a directory"
          | .directory d, true =>
            let (good, _) ← (Copy.copyAll st .nothing (makeParents st d) sources).run {}
            return if good then 0 else 1
          | goal, false =>
            let (good, _) ← (Copy.copyAll st (knowledgeOf t a goal)
              (fun s => return some (goal.for s)) sources).run {}
            return if good then 0 else 1

def mv : Program := fun c args =>
  withArguments c.name (.ofString "bfint:uvS:TZ"
    ["backup?", "context|Z", "force|f", "interactive|i", "no-clobber|n", "no-target-directory|T",
     "strip-trailing-slashes", "suffix=|S", "target-directory=|t", "update|u", "verbose|v"])
    1 false args fun a => do
    match Backup.ofArguments a with
    | .error message => misuse c.name message
    | .ok backup =>
      let replacing : Replacing := match a.lastOf? ["f", "i", "n"] with
        | some "i" => .asked
        | some "n" => .never
        | _ => .always
      if backup.keeping.isSome && replacing = .never then
        return ← misuse c.name "options --backup and --no-clobber are mutually exclusive"
      let st : CopyStyle := {
        name := c.name, backup, replacing, moves := true, deep := true, following := .never
        asRegular := false, keepsMode := true, keepsOwner := true, keepsTimes := true
        keepsLinks := true, forces := true, copiesContent := true, tells := a.has "v"
        onlyNewer := a.has "u" && replacing ≠ .never }
      let operands := if a.has "strip-trailing-slashes" then a.operands.map trimSlashes else a.operands
      let a := { a with operands }
      let t ← Run.tree
      let direct : Option (List Chars × Goal) := match a.has "t" || a.has "T", operands with
        | false, [source, goal] =>
          match Copy.renameFresh t source goal with
          | .ok _ => some ([source], .path goal)
          | .error _ => none
        | _, _ => none
      let plan ← match direct with
        | some p => pure (.ok p)
        | none => goalOf c a none false
      match plan with
      | .error status => return status
      | .ok (sources, goal) =>
        let (good, _) ← (Copy.copyAll st .nothing (fun s => return some (goal.for s)) sources).run {}
        return if good then 0 else 1

/-- How what is installed is to be owned. -/
def ownersFor (c : Caller) (t : Tree) (a : Arguments) : Run (Except Nat Owners) := do
  let number (entries : List (List Chars)) (name : Chars) : Option Nat :=
    (numberOf? entries name).or (Text.readNat? 10 name)
  let find (kind letter : String) (entries : List (List Chars)) : Run (Except Nat (Option Nat)) := do
    match a.value? letter with
    | none => return .ok none
    | some name =>
      match number entries name with
      | some n => return .ok (some n)
      | none => return .error (← complain c.name ("invalid " ++ kind ++ " " ++ quoted name))
  match ← find "user" "o" (accounts t) with
  | .error status => return .error status
  | .ok user =>
    match ← find "group" "g" (userGroups t) with
    | .error status => return .error status
    | .ok group => return .ok ⟨user, group, []⟩

/-- Gives what is at a path to its owners. -/
def own (o : Owners) (path : Chars) : Run Unit := do
  let _ ← Run.changeTree fun t => do
    let id ← t.locate (toText path)
    return t.modify id fun n =>
      { n with owner := o.user.getD n.owner, group := o.group.getD n.group }

/-- Installs directories. -/
def installDirectories (c : Caller) (a : Arguments) (o : Owners) (mode : Nat → Nat) : Run Nat :=
  forAll a.operands fun path => do
    let status ← makeAll c.name (a.has "v") "creating directory" 0o755 (stepsOf path)
    if path.isEmpty then
      return ← complain c.name "cannot create directory '': No such file or directory"
    if status = 0 then
      setMode path (mode 0)
      own o path
    return status

def install : Program := fun c args =>
  withArguments c.name (.ofString "bcCsDdg:m:o:pt:TvS:Z"
    ["backup?", "compare|C", "context?|Z", "directory|d", "group=|g", "mode=|m",
     "no-target-directory|T", "owner=|o", "preserve-timestamps|p", "preserve-context", "strip|s",
     "strip-program=", "suffix=|S", "target-directory=|t", "verbose|v"]) 1 false args fun a => do
    match Backup.ofArguments a with
    | .error message => misuse c.name message
    | .ok backup =>
      let isDirectory := a.has "d"
      if isDirectory && a.has "t" then
        return ← complain c.name
          "target directory not allowed when installing a directory"
      if isDirectory && a.operands.isEmpty then return ← misuse c.name "missing file operand"
      let changes := (a.value? "m").map ModeChange.ofChars?
      if changes = some none then
        return ← complain c.name ("invalid mode " ++ cited ((a.value? "m").getD []))
      let modeOf (ofDirectory : Bool) : Nat :=
        match changes.bind id with
        | some cs => ModeChange.applyAll ofDirectory 0 cs 0
        | none => 0o755
      let t ← Run.tree
      if isDirectory then
        match ← ownersFor c t a with
        | .error status => return status
        | .ok o => return ← installDirectories c a o fun _ => modeOf true
      let makesGoal := a.has "D" && (a.value? "t").isSome && !a.has "T"
      if makesGoal then
        let _ ← makeAll c.name (a.has "v") "creating directory" 0o755
          (stepsOf ((a.value? "t").getD []))
      let target := (a.value? "t").getD []
      let t ← Run.tree
      if (a.value? "t").isSome && !a.has "T" && !a.operands.isEmpty &&
          !t.isDirectory (toText target) then
        let reason := match t.find (toText target) with
          | .ok _ => FileError.notADirectory
          | .error e => e
        return ← complain c.name ("failed to access " ++ quoted target ++ ": " ++ reason.reason)
      match ← goalOf c a none false with
      | .error status => return status
      | .ok (sources, goal) =>
        match ← ownersFor c t a with
        | .error status => return status
        | .ok o =>
          let st : CopyStyle := {
            name := c.name, backup, installs := true, following := .always, removesFirst := true
            forces := true, tells := a.has "v", mode? := some (modeOf false)
            keepsTimes := a.has "p" }
          let install (source : Chars) : Copy Bool := do
            let path := goal.for source
            let t ← Run.tree
            if a.has "D" then
              if let .path _ := goal then
                let above := withoutLastPart path
                if !t.isDirectory (toText above) then
                  let status ← makeAll c.name (a.has "v") "creating directory" 0o755 (stepsOf above)
                  if status ≠ 0 then return false
            let equal := a.has "C" && (match t.find (toText source), t.findEntry (toText path) with
              | .ok x, .ok y => x.isFile && y.isFile && x.bytes = y.bytes && y.mode = modeOf false
              | _, _ => false)
            if equal then return true
            let good ← Copy.copyOperand st .nothing source path
            if good then own o path
            if good && a.has "s" then
              Run.complain (c.name ++ ": cannot run strip: No such file or directory")
              Run.complain (c.name ++ ": strip process terminated abnormally")
              let _ ← Run.changeTree (·.remove (toText path))
              return false
            return good
          let rec all : List Chars → Copy Bool
            | [] => return true
            | source :: rest => do
              let good ← install source
              let others ← all rest
              return good && others
          let (good, _) ← (all sources).run {}
          return if good then 0 else 1

end Provision.Program
