import Provision.Files.Tree
import Provision.Text.Utf8

namespace Provision.Files.Tree

/-! ## Files as a whole -/

def read (t : Tree) (path : String) : Except FileError (List UInt8) := do
  let n ← t.find path
  if n.isDirectory then .error .isADirectory else .ok n.bytes

def readText (t : Tree) (path : String) : Except FileError String := do
  match String.fromUTF8? (ByteArray.mk (← t.read path).toArray) with
  | some s => .ok s
  | none => .error .notText

/-- Makes a file without content at a place where there is nothing. -/
def create (t : Tree) (p : Place) (mode : Nat) : Nat × Tree :=
  let (id, t) := t.add (.fresh (.file []) mode t.time)
  (id, t.bind p.directory p.name id)

/-- The node that is written at a path. If there is none, a file is made. -/
def ensureFile (t : Tree) (path : String) (mode : Nat) : Except FileError (Nat × Tree) := do
  let p ← t.place true path
  match p.node with
  | some id =>
    match t.content? id with
    | some (.directory ..) => .error .isADirectory
    | _ => .ok (id, t)
  | none => if path.endsWith "/" then .error .isADirectory else .ok (t.create p mode)

/-- Changes the bytes of a file. Other nodes stay as they are. -/
def updateBytes (t : Tree) (id : Nat) (f : List UInt8 → List UInt8) : Tree :=
  t.modify id fun n =>
    match n.content with
    | .file bytes => t.stamped { n with content := .file (f bytes) }
    | .program _ => t.stamped { n with content := .file (f n.bytes) }
    | _ => n

/-- Replaces the content of a file, or makes the file. -/
def update (t : Tree) (path : String) (f : List UInt8 → List UInt8) : Except FileError Tree := do
  let (id, t) ← t.ensureFile path 0o644
  return t.updateBytes id f

def write (t : Tree) (path : String) (content : List UInt8) : Except FileError Tree :=
  t.update path fun _ => content

def append (t : Tree) (path : String) (content : List UInt8) : Except FileError Tree :=
  t.update path (· ++ content)

/-! ## Directories -/

/-- Makes a node at a place where there is nothing. -/
def createAt (t : Tree) (p : Place) (n : Node) : Except FileError Tree :=
  match p.node with
  | some _ => .error .exists
  | none =>
    let (id, t) := t.add n
    .ok (t.bind p.directory p.name id)

/-- Makes a directory in one that is there. -/
def makeDirectoryAt (t : Tree) (path : Path) (mode : Nat) : Except FileError Tree := do
  let p ← t.trace false path
  t.createAt p (.fresh (.directory p.directory []) mode t.time)

/-- Makes a directory in one that is there. -/
def makeDirectory (t : Tree) (path : String) (mode : Nat) : Except FileError Tree := do
  t.makeDirectoryAt (← check path) mode

/-- Makes a directory unless it is there. -/
def ensureDirectory (t : Tree) (path : Path) (mode : Nat) : Except FileError Unit × Tree :=
  match t.makeDirectoryAt path mode with
  | .ok t => (.ok (), t)
  | .error e =>
    let there := match t.trace true path with
      | .ok p => (p.node.bind t.node?).any Node.isDirectory
      | .error _ => false
    (if there then .ok () else .error e, t)

/-- Makes a directory and those above it, given by reversed names, as far as they are missing. If
that fails, the ones made so far stay. -/
def ensureAll (absolute : Bool) (mode : Nat) (t : Tree) :
    List String → Except FileError Unit × Tree
  | [] => (.ok (), t)
  | name :: above =>
    let path : Path := ⟨absolute, (name :: above).reverse⟩
    match t.makeDirectoryAt path mode with
    | .error .notFound =>
      match ensureAll absolute mode t above with
      | (.ok (), t) => t.ensureDirectory path mode
      | (.error e, t) => (.error e, t)
    | .ok t => (.ok (), t)
    | .error _ => t.ensureDirectory path mode

/-- Makes a directory and those above it. Nothing has to be done for the empty path. -/
def makeDirectories (t : Tree) (path : String) : Except FileError Unit × Tree :=
  if path.isEmpty then (.ok (), t)
  else
    match check path with
    | .error e => (.error e, t)
    | .ok p =>
      match t.makeDirectoryAt p 0o755 with
      | .error .notFound =>
        match ensureAll p.absolute 0o755 t p.components.dropLast.reverse with
        | (.ok (), t) => t.ensureDirectory p 0o755
        | (.error e, t) => (.error e, t)
      | .ok t => (.ok (), t)
      | .error _ => t.ensureDirectory p 0o755

/-- Puts a file in place, with the directories above it. -/
def put (t : Tree) (path : String) (content : List UInt8) : Tree :=
  let p := Path.ofString path
  let t := (ensureAll p.absolute 0o755 t p.components.dropLast.reverse).2
  match t.write path content with
  | .ok t => t
  | .error _ => t

/-- Puts a node in place, with the directories above it. -/
def putNode (t : Tree) (path : String) (content : Content) (mode : Nat) : Tree :=
  let p := Path.ofString path
  let t := (ensureAll p.absolute 0o755 t p.components.dropLast.reverse).2
  match t.nameplace path with
  | .error _ => t
  | .ok q =>
    let (id, t) := t.add (.fresh content mode t.time)
    t.bind q.directory q.name id

/-! ## The files below a directory -/

/-- The files below a directory with the names on the way to them, in the order of the names. Links
are followed, up to so many on a way. -/
def filesBelow (t : Tree) : (depth links id : Nat) → List (List String × List UInt8)
  | 0, _, _ => []
  | depth + 1, links, id =>
    (t.names id).flatMap fun name =>
      let step (links id : Nat) : List (List String × List UInt8) :=
        match t.content? id with
        | some (.file bytes) => [([name], bytes)]
        | some (.directory ..) =>
          (filesBelow t depth links id).map fun (way, bytes) => (name :: way, bytes)
        | _ => []
      match (t.entries id).lookup name with
      | none => []
      | some entry =>
        match t.content? entry, links with
        | some (.link _), 0 => []
        | some (.link path), links + 1 =>
          match { t with working := id }.locate path with
          | .ok goal => step links goal
          | .error _ => []
        | _, links => step links entry

/-- The files below the working directory, with the ways to them. -/
def files (t : Tree) : List (List String × List UInt8) :=
  t.filesBelow maxPathWidth maxLinks t.working

/-! ## Names that come and go -/

/-- Makes a link to a path. -/
def makeLink (t : Tree) (goal path : String) : Except FileError Tree := do
  if goal.isEmpty then .error .notFound
  else t.createAt (← t.place false path) (.fresh (.link goal) 0o777 t.time)

/-- Lets a path stand for a node that has a name already. -/
def share (t : Tree) (id : Nat) (path : String) : Except FileError Tree := do
  let p ← t.place false path
  match p.node with
  | some _ => .error .exists
  | none => .ok ((t.bind p.directory p.name id).modify id fun n => { n with changed := t.time })

/-- Takes away the name of something that is no directory. -/
def remove (t : Tree) (path : String) : Except FileError Tree := do
  let p ← t.place false path
  match p.node with
  | none => .error .notFound
  | some id =>
    match t.content? id with
    | some (.directory ..) => .error .isADirectory
    | _ => .ok (t.unbind p.directory p.name)

/-- Removes a directory that holds nothing. -/
def removeDirectory (t : Tree) (path : String) : Except FileError Tree := do
  let q ← check path
  if q.names.getLast? = some "." then .error .invalid
  else if q.names.getLast? = some ".." then .error .notEmpty
  else
    let p ← t.trace false q
    match p.node with
    | none => .error .notFound
    | some id =>
      match t.content? id with
      | some (.directory _ []) => .ok (t.unbind p.directory p.name)
      | some (.directory ..) => if q.names.isEmpty then .error .busy else .error .notEmpty
      | _ => .error .notADirectory

/-- Moves a node to another place, where it takes the place of what is there. -/
def rename (t : Tree) (source goal : String) : Except FileError Tree := do
  let isDotted (p : Path) : Bool :=
    p.names.isEmpty || p.names.getLast? = some "." || p.names.getLast? = some ".."
  let from' ← check source
  let aim ← check goal
  let p ← t.trace false from'
  match p.node with
  | none => .error .notFound
  | some id =>
    let moved := (t.node? id).any Node.isDirectory
    if isDotted from' || isDotted aim then throw .busy
    if !moved && source.endsWith "/" then throw .notADirectory
    let q ← t.trace false aim
    if !moved && goal.endsWith "/" then throw .notADirectory
    if moved && t.isWithin id t.nodes.size q.directory then throw .invalid
    match q.node with
    | some other =>
      if other = id then return t
      match moved, t.content? other with
      | true, some (.directory _ []) => pure ()
      | true, some (.directory ..) => throw .notEmpty
      | true, _ => throw .notADirectory
      | false, some (.directory ..) => throw .isADirectory
      | false, _ => pure ()
    | none => pure ()
    let t := (t.unbind p.directory p.name).bind q.directory q.name id
    return t.modify id fun n =>
      match n.content with
      | .directory _ entries => { n with content := .directory q.directory entries, changed := t.time }
      | _ => { n with changed := t.time }

/-- The names from the root to a directory. -/
def wayTo (t : Tree) : (room : Nat) → Nat → List String
  | 0, _ => []
  | room + 1, id =>
    if id = root then []
    else
      let above := t.above id
      match (t.entries above).find? (·.2 = id) with
      | some (name, _) => wayTo t room above ++ [name]
      | none => []

/-- The path from the root to a directory. -/
def pathTo (t : Tree) (id : Nat) : String := "/" ++ "/".intercalate (t.wayTo maxPathWidth id)

end Provision.Files.Tree
