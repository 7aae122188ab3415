import Provision.Files.Content
import Provision.Text.Digits
import Provision.Text.Utf8

namespace Provision.Host

/-- What has become of a process. -/
inductive Fate
  | running
  | exited (status : Nat)
  | killed (signal : Nat)
  deriving DecidableEq, Repr

namespace Fate

/-- How a shell tells of an end. -/
def status : Fate → Nat
  | .running => 0
  | .exited status => status
  | .killed signal => 128 + signal

end Fate

/-- A process: the one that has started it, its open streams by the numbers of its descriptors, the
signals that it catches, those that it takes no notice of and those that have arrived, the time at
which it wants to be woken, its title, and how far it steps back behind others. -/
structure Process where
  parent : Nat
  fate : Fate
  descriptors : List (Nat × Nat)
  caught : List Nat
  ignored : List Nat
  pending : List Nat
  wake : Option Nat
  title : Chars
  niceness : Int

namespace Process

def isRunning (p : Process) : Bool := p.fate == .running

/-- The stream of a descriptor. -/
def stream? (p : Process) (descriptor : Nat) : Option Nat := p.descriptors.lookup descriptor

def setDescriptor (p : Process) (descriptor : Nat) (stream : Option Nat) : Process :=
  let others := p.descriptors.filter (·.1 ≠ descriptor)
  { p with descriptors := match stream with
    | some s => (descriptor, s) :: others
    | none => others }

end Process

/-- The signals by name and number. -/
def signals : List (String × Nat) :=
  [("EXIT", 0), ("HUP", 1), ("INT", 2), ("QUIT", 3), ("ILL", 4), ("TRAP", 5), ("ABRT", 6),
   ("BUS", 7), ("FPE", 8), ("KILL", 9), ("USR1", 10), ("SEGV", 11), ("USR2", 12), ("PIPE", 13),
   ("ALRM", 14), ("TERM", 15), ("STKFLT", 16), ("CHLD", 17), ("CONT", 18), ("STOP", 19),
   ("TSTP", 20), ("TTIN", 21), ("TTOU", 22), ("URG", 23), ("XCPU", 24), ("XFSZ", 25),
   ("VTALRM", 26), ("PROF", 27), ("WINCH", 28), ("IO", 29), ("PWR", 30), ("SYS", 31)]

/-- The signals that a process takes no notice of by itself. -/
def harmless : List Nat := [0, 17, 18, 23, 28]

/-- The signals that no process can catch. -/
def certain : List Nat := [9, 19]

/-- The name of a signal. -/
def signalName (n : Nat) : String := ((signals.find? (·.2 = n)).map (·.1)).getD (toString n)

/-- The number of a signal that is given by its name or its number. -/
def signalNumber? (t : Chars) : Option Nat :=
  match Text.readNat? 10 t with
  | some n => if n < 65 then some n else none
  | none =>
    let upper := Bytes.toText (t.map Char.toUpper)
    let name := if upper.startsWith "SIG" then (upper.drop 3).toString else upper
    (signals.find? (·.1 = name)).map (·.2)

/-- What has been written to a pipe and not been read yet: its beginning, and what has come later,
the last text first. A pipe can be one that never gets full. -/
structure Pipe where
  front : Chars
  back : List Chars
  size : Nat
  bounded : Bool

namespace Pipe

def empty : Pipe := ⟨[], [], 0, true⟩

instance : Inhabited Pipe := ⟨empty⟩

/-- A pipe holds at most so many bytes. -/
def capacity : Nat := 65536

def room (p : Pipe) : Nat := if p.bounded then capacity - p.size else capacity

def put (p : Pipe) (text : Chars) : Pipe :=
  if text.isEmpty then p else { p with back := text :: p.back, size := p.size + text.length }

/-- The same pipe with all that it holds at its front. -/
def settled (p : Pipe) : Pipe :=
  if p.back.isEmpty then p
  else { p with front := p.front ++ p.back.reverse.flatten, back := [] }

/-- All that a pipe holds. -/
def content (p : Pipe) : Chars := p.settled.front

/-- Takes up to so many bytes. -/
def take (count : Nat) (p : Pipe) : Chars × Pipe :=
  let p := if p.front.isEmpty then p.settled else p
  let text := p.front.take count
  (text, { p with front := p.front.drop count, size := p.size - text.length })

/-- Takes a text up to and including a mark, if the mark is there. -/
def takeThrough? (mark : Char) (p : Pipe) : Option (Chars × Pipe) :=
  let p := if p.front.contains mark then p else p.settled
  let text := p.front.takeWhile (· != mark)
  match p.front.drop text.length with
  | [] => none
  | _ :: rest => some (text, { p with front := rest, size := p.size - text.length - 1 })

end Pipe

open Files (Tree FileError)

/-- What an open stream leads to. -/
inductive Target
  | node (id : Nat)
  | pipe (id : Nat) (writing : Bool)
  deriving DecidableEq, Repr

/-- An open stream with the place in a file at which it is read or written next. -/
structure Stream where
  target : Target
  offset : Nat
  readable : Bool
  writable : Bool
  appending : Bool

end Host

/-- All that processes share: the files, the open streams and the pipes behind them, the processes
themselves, and the time in nanoseconds. -/
structure Host where
  tree : Files.Tree
  streams : Array Host.Stream
  pipes : Array Host.Pipe
  queues : List (Nat × Nat)
  processes : List (Nat × Host.Process)
  clock : Nat
  next : Nat

namespace Host

open Files (Tree FileError)

def process? (y : Host) (pid : Nat) : Option Process := y.processes.lookup pid

def alterProcess (y : Host) (pid : Nat) (f : Process → Process) : Host :=
  { y with processes := y.processes.map fun (n, p) => if n = pid then (n, f p) else (n, p) }

def isRunning (y : Host) (pid : Nat) : Bool := (y.process? pid).any Process.isRunning

/-- The stream behind a descriptor of a process. -/
def streamNumber? (y : Host) (pid descriptor : Nat) : Option Nat :=
  (y.process? pid).bind (·.stream? descriptor)

def stream? (y : Host) (pid descriptor : Nat) : Option Stream :=
  (y.streamNumber? pid descriptor).bind (y.streams[·]?)

def addStream (y : Host) (s : Stream) : Nat × Host :=
  (y.streams.size, { y with streams := y.streams.push s })

def addPipe (y : Host) : Nat × Host :=
  (y.pipes.size, { y with pipes := y.pipes.push .empty })

/-- Whether a running process holds one of the ends of a pipe. -/
def holdsEnd (y : Host) (pipe : Nat) (writing : Bool) : Bool :=
  y.processes.any fun (_, p) =>
    p.isRunning && p.descriptors.any fun (_, s) =>
      (y.streams[s]?).any (·.target = .pipe pipe writing)

/-- The times of files go by steps of so many nanoseconds. -/
def grain : Nat := 4000000

/-- The time that is noted with files. -/
def fileTime (y : Host) : Int := (y.clock / grain * grain : Nat)

/-- Does something with the files, as they are seen from a directory. -/
def onTree {α : Type} (y : Host) (directory : Nat) (f : Tree → α × Tree) : α × Host :=
  let (a, tree) := f { y.tree with working := directory, time := y.fileTime }
  (a, { y with tree := { tree with working := y.tree.working } })

/-- Ends a process. -/
def finish (y : Host) (pid : Nat) (fate : Fate) : Host :=
  let parent := ((y.process? pid).map (·.parent)).getD 0
  let y := y.alterProcess pid fun p => { p with fate, descriptors := [], wake := none }
  let y := if y.isRunning parent then y
    else { y with processes := y.processes.filter (·.1 ≠ pid) }
  y.alterProcess parent fun p =>
    if p.caught.contains 17 then { p with pending := p.pending ++ [17] } else p

/-- Sends a signal to a process, which dies, or keeps the signal, or takes no notice of it. -/
def signal (y : Host) (pid number : Nat) : Host :=
  match y.process? pid with
  | none => y
  | some p =>
    if !p.isRunning || number = 0 then y
    else if certain.contains number then y.finish pid (.killed number)
    else if p.ignored.contains number then y
    else if p.caught.contains number then
      y.alterProcess pid fun p => { p with pending := p.pending ++ [number] }
    else if harmless.contains number then y
    else y.finish pid (.killed number)

/-- Adds a process that shares the streams of another one. -/
def fork (y : Host) (parent : Nat) : Nat × Host :=
  let base := (y.process? parent).map fun p =>
    { p with parent, caught := [], pending := [], wake := none }
  let child := base.getD ⟨parent, .running, [], [], [], [], none, [], 0⟩
  (y.next, { y with processes := y.processes ++ [(y.next, child)], next := y.next + 1 })

end Host

end Provision
