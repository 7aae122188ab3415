import Provision.Journal.Log
import Provision.Pass.Machine
import Provision.Shell.Launch

namespace Provision.CommandLine

/-- What commands act on: the files around the working directory, the standard input, and the time
in nanoseconds. -/
structure World where
  files : Files.Tree
  input : List UInt8
  time : Nat

/-- Each look at the clock sees so much time pass. -/
def tick : Nat := 1000000

/-- The machine that runs commands with a shell and writes its journal below a directory. -/
def machine (logDirectory : String) : Pass.Machine World where
  run command w :=
    match Shell.launch command w.files w.input w.time with
    | .error e => (.error e.message, w)
    | .ok o => (.ok o.output, ⟨o.tree, o.input, o.time⟩)
  now w := (w.time, { w with time := w.time + tick })
  note e w := { w with files := Journal.record logDirectory w.time e w.files }

/-- An answer is read from so many bytes of the input at a time. -/
def chunkSize : Nat := 8192

/-- Takes a line by chunks. What is left of the last chunk is lost. -/
def readLine : Nat → List UInt8 → List UInt8 × List UInt8
  | 0, input => ([], input)
  | room + 1, input =>
    let chunk := input.take chunkSize
    let rest := input.drop chunkSize
    let line := chunk.takeWhile (· != 10)
    if chunk.isEmpty ∨ line.length < chunk.length then (line, rest)
    else
      let (more, rest) := readLine room rest
      (line ++ more, rest)

/-- Whether an answer agrees. -/
def agrees (answer : String) : Bool :=
  let word := String.ofList ((Text.trim answer.toList).map Char.toLower)
  word == "y" || word == "yes"

/-- Reads an answer from the input. One that is no text does not agree. -/
def confirm (w : World) : Bool × World :=
  let (line, input) := readLine (w.input.length / chunkSize + 1) w.input
  let agreed := match String.fromUTF8? (ByteArray.mk line.toArray) with
    | some answer => agrees answer
    | none => false
  (agreed, { w with input })

end Provision.CommandLine
