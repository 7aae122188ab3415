import Provision.Files.Node
import Provision.Text.Lines

namespace Provision.Files

/-- A path as it is written: the names between its slashes, where slashes in a row count once. -/
structure Path where
  absolute : Bool
  names : List String
  deriving DecidableEq, Repr

def Path.ofString (s : String) : Path :=
  ⟨s.startsWith "/", (Text.runs (· == '/') s.toList).map String.ofList⟩

/-- The names without the dots that do not begin the path. -/
def Path.components (p : Path) : List String :=
  let later := (p.names.drop 1).filter (· ≠ ".")
  if p.absolute then (p.names.take 1).filter (· ≠ ".") ++ later else p.names.take 1 ++ later

/-- Puts a path after a directory, unless the path begins at the root. -/
def join (directory path : String) : String :=
  if path.startsWith "/" || directory.isEmpty then path
  else if directory.endsWith "/" then directory ++ path
  else directory ++ "/" ++ path


/-- The nodes of a file system by their numbers, the directory from which a path leads on that does
not begin at the root, and the time that is noted with changes. -/
structure Tree where
  nodes : Array Node
  working : Nat
  time : Int

/-- Where a path leads: a name in a directory, and the node that it stands for if there is one. -/
structure Place where
  directory : Nat
  name : String
  node : Option Nat
  deriving DecidableEq, Repr

namespace Tree

/-- The number of the root. -/
def root : Nat := 0

/-- The file system that has no more than a working directory and a node that takes all. -/
def empty : Tree where
  nodes := #[
    .fresh (.directory 0 [("tmp", 1), ("dev", 2)]) 0o755 0,
    .fresh (.directory 0 [("work", 3)]) 0o1777 0,
    .fresh (.directory 0 [("null", 4)]) 0o755 0,
    .fresh (.directory 1 []) 0o755 0,
    .fresh (.device .null) 0o666 0]
  working := 3
  time := 0

instance : EmptyCollection Tree := ⟨empty⟩

instance : Inhabited Tree := ⟨empty⟩

def node? (t : Tree) (id : Nat) : Option Node := t.nodes[id]?

def content? (t : Tree) (id : Nat) : Option Content := (t.node? id).map (·.content)

def modify (t : Tree) (id : Nat) (f : Node → Node) : Tree :=
  { t with nodes := t.nodes.modify id f }

/-- Adds a node that no name stands for yet. -/
def add (t : Tree) (n : Node) : Nat × Tree := (t.nodes.size, { t with nodes := t.nodes.push n })

/-- What is noted when the content of a node changes. -/
def stamped (t : Tree) (n : Node) : Node := { n with modified := t.time, changed := t.time }

/-- Puts a name for a node in the place of an old one, or at the end. -/
def putEntry (name : String) (id : Nat) : List (String × Nat) → List (String × Nat)
  | [] => [(name, id)]
  | (other, n) :: rest =>
    if other = name then (name, id) :: rest else (other, n) :: putEntry name id rest

/-- Changes what the names in a directory stand for. -/
def alterEntries (t : Tree) (directory : Nat) (f : List (String × Nat) → List (String × Nat)) :
    Tree :=
  t.modify directory fun n =>
    match n.content with
    | .directory above entries => t.stamped { n with content := .directory above (f entries) }
    | _ => n

/-- Lets a name in a directory stand for a node. -/
def bind (t : Tree) (directory : Nat) (name : String) (id : Nat) : Tree :=
  t.alterEntries directory (putEntry name id)

/-- Takes a name out of a directory. -/
def unbind (t : Tree) (directory : Nat) (name : String) : Tree :=
  t.alterEntries directory (·.filter (·.1 ≠ name))

/-- The names in a directory, with what they stand for. -/
def entries (t : Tree) (id : Nat) : List (String × Nat) :=
  match t.content? id with
  | some (.directory _ entries) => entries
  | _ => []

/-- The directory above one. -/
def above (t : Tree) (id : Nat) : Nat :=
  match t.content? id with
  | some (.directory above _) => above
  | _ => root

/-- The names in a directory, in ascending order. -/
def names (t : Tree) (id : Nat) : List String := ((t.entries id).map (·.1)).mergeSort

/-- How many names stand for a node. -/
def linkCount (t : Tree) (id : Nat) : Nat :=
  let named := t.nodes.foldl (fun count n =>
    match n.content with
    | .directory above entries =>
      count + (entries.filter (·.2 = id)).length + (if above = id then 1 else 0)
    | _ => count) 0
  match t.content? id with
  | some (.directory ..) => named + 1
  | _ => named

/-! ## Following paths -/

/-- A name has at most so many bytes. -/
def maxNameWidth : Nat := 255

/-- A path has at most so many bytes. -/
def maxPathWidth : Nat := 4095

/-- A path leads through at most so many links. -/
def maxLinks : Nat := 40

/-- Follows names from a directory, where `jump` goes on behind a link. The last name need not stand
for anything, and if it is that of a link, the link is followed only if `through` holds. -/
def walk (t : Tree) (through : Bool) (jump : Nat → List String → Except FileError Place)
    (here : Nat) : List String → Except FileError Place
  | [] => .ok ⟨t.above here, ".", some here⟩
  | name :: rest =>
    match t.content? here with
    | some (.directory above entries) =>
      if name = "." then walk t through jump here rest
      else if name = ".." then walk t through jump above rest
      else if maxNameWidth < name.utf8ByteSize then .error .nameTooLong
      else
        match entries.lookup name with
        | none => if rest.isEmpty then .ok ⟨here, name, none⟩ else .error .notFound
        | some id =>
          match t.content? id with
          | some (.link path) =>
            if rest.isEmpty && !through then .ok ⟨here, name, some id⟩
            else
              let p := Path.ofString path
              jump (if p.absolute then root else here) (p.names ++ rest)
          | _ => if rest.isEmpty then .ok ⟨here, name, some id⟩ else walk t through jump id rest
    | _ => .error .notADirectory

/-- Follows names through so many links at most. -/
def follow (t : Tree) (through : Bool) : Nat → Nat → List String → Except FileError Place
  | 0 => t.walk through fun _ _ => .error .tooManyLinks
  | links + 1 => t.walk through (follow t through links)

/-- Takes a path apart, if the system takes it at all. -/
def check (path : String) : Except FileError Path :=
  if path.contains '\x00' then .error .zeroInName
  else if path.isEmpty then .error .notFound
  else if maxPathWidth < path.utf8ByteSize then .error .nameTooLong
  else .ok (Path.ofString path)

/-- The place to which a path leads that is taken apart. -/
def trace (t : Tree) (through : Bool) (path : Path) : Except FileError Place :=
  t.follow through maxLinks (if path.absolute then root else t.working) path.names

/-- The place to which a written path leads. A slash at its end asks for a directory. -/
def place (t : Tree) (through : Bool) (path : String) : Except FileError Place := do
  let p ← check path
  t.trace through (if path.endsWith "/" then { p with names := p.names ++ ["."] } else p)

/-- The place of a name that a slash can follow. -/
def nameplace (t : Tree) (path : String) : Except FileError Place := do
  t.trace false (← check path)

/-- The node to which a written path leads. -/
def locate (t : Tree) (path : String) : Except FileError Nat := do
  match (← t.place true path).node with
  | some id => .ok id
  | none => .error .notFound

/-- The node that a path stands for itself, be it a link. -/
def locateEntry (t : Tree) (path : String) : Except FileError Nat := do
  match (← t.place false path).node with
  | some id => .ok id
  | none => .error .notFound

/-- The node at a path. -/
def find (t : Tree) (path : String) : Except FileError Node := do
  match t.node? (← t.locate path) with
  | some n => .ok n
  | none => .error .notFound

/-- The node that a path stands for itself. -/
def findEntry (t : Tree) (path : String) : Except FileError Node := do
  match t.node? (← t.locateEntry path) with
  | some n => .ok n
  | none => .error .notFound

def exists? (t : Tree) (path : String) : Bool := (t.find path).toOption.isSome

def isDirectory (t : Tree) (path : String) : Bool :=
  (t.find path).toOption.any Node.isDirectory

/-- Whether a directory lies below another one, or is the same. -/
def isWithin (t : Tree) (other : Nat) : (room : Nat) → Nat → Bool
  | 0, _ => false
  | room + 1, id => id = other || (id ≠ root && isWithin t other room (t.above id))

end Tree

end Provision.Files
