import Provision.CommandLine.Arguments
import Std.Data.HashMap
import Std.Time.DateTime.Timestamp

namespace Provision.CommandLine

open Files (Tree Content)

/-- The written way to a node below the working directory. -/
def pathOf (way : List String) : String := "/".intercalate way

/-- Adds the directories and the files below a directory to a tree. -/
partial def readTree (way : List String) (t : Tree) : IO Tree := do
  let directory ← IO.FS.realPath (if way.isEmpty then "." else pathOf way)
  (← directory.readDir).foldlM (fun t entry => do
    let here := way ++ [entry.fileName]
    match (← entry.path.symlinkMetadata).type with
    | .dir => readTree here (t.makeDirectories (pathOf here)).2
    | .file => return t.put (pathOf here) (← IO.FS.readBinFile entry.path).toList
    | _ => return t) t

/-- Reads an input to its end. -/
partial def readInput (input : IO.FS.Stream) (taken : ByteArray) : IO (List UInt8) := do
  let chunk ← input.read 65536
  if chunk.isEmpty then return taken.toList else readInput input (taken ++ chunk)

/-- What stands below a directory, each directory before all that is in it. -/
partial def nodesBelow (t : Tree) (way : List String) (id : Nat) : List (List String × Content) :=
  (t.names id).flatMap fun name =>
    match (t.entries id).lookup name with
    | none => []
    | some n =>
      let here := way ++ [name]
      match t.content? n with
      | none => []
      | some (.directory ..) => (here, .directory 0 []) :: nodesBelow t here n
      | some c => [(here, c)]

/-- Writes down what is new in the second of two trees and removes what is not in it. It writes no
more than directories and files. -/
def writeChanges (before after : Tree) : IO Unit := do
  let old := nodesBelow before [] before.working
  let new := nodesBelow after [] after.working
  let known := Std.HashMap.ofList old
  let kept := Std.HashMap.ofList new
  for (way, content) in old.reverse do
    if !kept.contains way then
      match content with
      | .directory .. => IO.FS.removeDir (pathOf way)
      | _ => IO.FS.removeFile (pathOf way)
  for (way, content) in new do
    if known[way]? ≠ some content then
      match content with
      | .directory .. => IO.FS.createDirAll (pathOf way)
      | .file bytes => IO.FS.writeBinFile (pathOf way) (ByteArray.mk bytes.toArray)
      | _ => pure ()

/-- Carries out what arguments ask for on the files below the working directory. -/
def program (args : List String) : IO UInt32 := do
  let now ← Std.Time.Timestamp.now
  let files ← readTree [] ∅
  let input ← readInput (← IO.getStdin) ByteArray.empty
  let ending := call args ⟨files, input, now.toNanosecondsSinceUnixEpoch.toInt.toNat⟩
  writeChanges files ending.world.files
  IO.print ending.stdout
  IO.eprint ending.stderr
  return UInt32.ofNat ending.exit

end Provision.CommandLine

def main (args : List String) : IO UInt32 := Provision.CommandLine.program args
