import Provision.Shell.Pattern
import Provision.Shell.Store

namespace Provision.Shell

open Bytes (toText ofText)
open Files (Tree)

/-- How names are looked for: whether those with a dot at the start count without being asked for,
whether letters of both cases are the same, whether two stars lead through directories, and whether
patterns have groups. -/
structure Globbing where
  dotted : Bool
  fold : Bool
  deep : Bool
  extended : Bool

namespace Globbing

/-- The names in a directory, which is the working one if the path is empty. -/
def namesIn (t : Tree) (path : Chars) : List Chars :=
  match t.locate (if path.isEmpty then "." else toText path) with
  | .ok id => (t.names id).map ofText
  | .error _ => []

def isDirectory (t : Tree) (path : Chars) : Bool := t.isDirectory (toText path)

/-- Whether there is a directory at a path, and no link. -/
def isPlainDirectory (t : Tree) (path : Chars) : Bool :=
  (t.findEntry (toText path)).toOption.any Files.Node.isDirectory

variable (g : Globbing)

/-- Whether a name can be meant by a pattern that begins as it does. -/
def isSeen (asked : Bool) (name : Chars) : Bool := g.dotted || asked || name.head? != some '.'

/-- A path with a slash at its end and all such paths to directories below it. -/
def directoriesBelow (t : Tree) : Nat → Chars → List Chars
  | 0, path => [path]
  | room + 1, path =>
    path :: (namesIn t path).flatMap fun n =>
      let next := path ++ n
      if g.isSeen false n && isPlainDirectory t next then directoriesBelow t room (next ++ ['/'])
      else []

/-- So deep directories are looked through. -/
def maxDepth : Nat := 500

/-- The paths that fit patterns for their names, behind a path that is empty or ends in a slash. -/
def matching (t : Tree) : List (List Marked) → Chars → List Chars
  | [], path => [path]
  | component :: rest, path =>
    let p := Pattern.ofMarked g.extended component
    if !p.isOpen then
      let next := path ++ p.literal
      if rest.isEmpty then
        if (t.findEntry (toText next)).toOption.isSome then [next] else []
      else matching t rest (next ++ ['/'])
    else if g.deep && component = [('*', false), ('*', false)] then
      let all := g.directoriesBelow t maxDepth path
      if rest.isEmpty then
        all.flatMap fun d => ((namesIn t d).filter (g.isSeen false)).map (d ++ ·)
      else
        all.flatMap fun d =>
          if rest = [[]] then if d = path then [] else [d] else matching t rest d
    else
      let asked := (component.head?.map (·.1)) = some '.'
      let found := (namesIn t path).filter fun n => p.fitsWith g.fold n && g.isSeen asked n
      found.flatMap fun n =>
        let next := path ++ n
        if rest.isEmpty then [next]
        else if isDirectory t next then matching t rest (next ++ ['/'])
        else []

/-- The paths that fit a field in ascending order. -/
def paths (t : Tree) (field : List Marked) : List Chars :=
  let below : List Marked := match field with
    | ('/', _) :: _ => field.dropWhile fun m => m.1 == '/'
    | _ => field
  let start := (field.take (field.length - below.length)).map (·.1)
  Bytes.sorted (g.matching t (below.splitOnP fun m => m.1 == '/') start)

end Globbing

namespace Run

def globbing : Run Globbing := do
  let s ← get
  return ⟨s.extras.contains "dotglob", s.extras.contains "nocaseglob",
    s.extras.contains "globstar", s.extras.contains "extglob"⟩

/-- What a text without quotes stands for when its backslashes are taken off. -/
def withoutMarks (field : List Marked) : Chars := field.map (·.1)

/-- The paths that fit a field, or the field itself if there are none. -/
def globbed (field : List Marked) : Run (List Chars) := do
  let s ← get
  let text := withoutMarks field
  if s.settings.contains .noPaths then return [text]
  let g ← globbing
  if !(Pattern.ofMarked g.extended field).isOpen then return [text]
  let t ← tree
  match g.paths t field with
  | [] =>
    if s.extras.contains "failglob" then
      report ("no match: " ++ toText text)
      setStatus 1
      throw .abandon
    else return if s.extras.contains "nullglob" then [] else [text]
  | found => return found

end Run

end Provision.Shell
