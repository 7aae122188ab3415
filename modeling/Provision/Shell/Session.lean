import Provision.Host.Act
import Provision.Host.Stream
import Provision.Shell.Setting
import Provision.Shell.Variable

namespace Provision.Shell

open Bytes (toText ofText)
open Files (Tree FileError)
open Host (Act Fate)

/-- Why a shell stops what it does. -/
inductive Halt
  | leave
  | finish
  | stop (loops : Nat)
  | again (loops : Nat)
  | abandon

/-- A function with the line and the source in which it is defined. -/
structure Function where
  line : Nat
  source : String
  body : Command
  exported : Bool
  constant : Bool

/-- A call that a shell is in: the name of the function or the script, the line of the call, the
source of what is called, whether it is a function, and the settings to which the shell returns, if
they are the function's own. -/
structure Frame where
  name : String
  line : Nat
  source : String
  isFunction : Bool
  settings : Option (List Setting)

/-- Where a shell has its commands from: a text among its arguments, a file, or its input. -/
inductive Origin
  | text
  | file
  | input
  deriving DecidableEq, Repr

/-- A command in the background. -/
structure Job where
  number : Nat
  process : Nat
  text : Chars

/-- The state of a shell, which belongs to one process. -/
structure Session where
  process : Nat
  shellProcess : Nat
  parentProcess : Nat
  directory : Nat
  mask : Nat
  dialect : Dialect
  scopes : List Scope
  functions : OrderedMap String Function
  name : Chars
  arguments : List Chars
  settings : List Setting
  extras : List String
  traps : OrderedMap String Chars
  status : Nat
  stageStatuses : List Nat
  lastArgument : Chars
  lastJob : Option Nat
  jobs : List Job
  line : Nat
  loops : Nat
  frames : List Frame
  guarded : Bool
  level : Nat
  depth : Nat
  forked : Bool
  directories : List String
  aliases : OrderedMap String Chars
  hashed : OrderedMap String (Nat × Chars)
  disabled : List String
  optionOffset : Nat
  seed : Nat
  present : Chars
  isLast : Bool
  isStage : Bool
  inTrap : Bool
  dormant : Bool
  origin : Origin
  started : Nat
  feeds : List Nat
  captured : Bool
  ended : List (Nat × Nat)
  speaker : String
  functionLine : Nat

/-- The source of what is running, which is told with complaints. -/
def Session.source (s : Session) : String :=
  match s.frames with
  | f :: _ => f.source
  | [] => toText s.name

/-- The calls with that of the script from which all commands come. -/
def Session.allFrames (s : Session) : List Frame :=
  s.frames ++ if s.origin = .file then [⟨"main", 0, toText s.name, false, none⟩] else []

/-- The source of functions that are defined. -/
def Session.definingSource (s : Session) : String :=
  match s.frames with
  | f :: _ => f.source
  | [] => match s.origin with
    | .file => toText s.name
    | .text => "environment"
    | .input => "main"

/-- What a shell does: it changes its session and what all processes share, and may stop early. It
is given by what comes after it. -/
def Run (α : Type) : Type := Session → (Except Halt α → Session → Act) → Act

namespace Run

instance : Monad Run where
  pure a := fun s next => next (.ok a) s
  bind m f := fun s next => m s fun r s =>
    match r with
    | .ok a => f a s next
    | .error h => next (.error h) s

instance : MonadStateOf Session Run where
  get := fun s next => next (.ok s) s
  set s := fun _ next => next (.ok ()) s
  modifyGet f := fun s next =>
    let (a, s) := f s
    next (.ok a) s

instance : MonadExceptOf Halt Run where
  throw h := fun s next => next (.error h) s
  tryCatch m handle := fun s next => m s fun r s =>
    match r with
    | .ok a => next (.ok a) s
    | .error h => handle h s next

/-- Does something after something else, however that ends. -/
def finally' {α : Type} (m : Run α) (after : Run Unit) : Run α := fun s next =>
  m s fun r s => after s fun r' s =>
    match r' with
    | .ok () => next r s
    | .error h => next (.error h) s

/-- What something has given, or why it has stopped. -/
def attempt {α : Type} (m : Run α) : Run (Except Halt α) := fun s next =>
  m s fun r s => next (.ok r) s

/-- Goes on as something else has ended. -/
def resume {α : Type} (r : Except Halt α) : Run α := fun s next => next r s

/-! ## What all processes share -/

/-- Does a step on what is shared. Without an answer it has to wait. -/
def step {α : Type} (f : Session → Host → Option (α × Host)) : Run α := fun s next =>
  .step fun y =>
    match f s y with
    | some (a, y) => some (next (.ok a) s, y)
    | none => none

/-- Does a step on what is shared that never has to wait. -/
def share {α : Type} (f : Session → Host → α × Host) : Run α :=
  step fun s y => some (f s y)

/-- Looks at what is shared. -/
def observe {α : Type} (f : Session → Host → α) : Run α := share fun s y => (f s y, y)

/-- The files as the shell sees them. -/
def tree : Run Tree := observe fun s y => { y.tree with working := s.directory }

/-- Does something with the files. -/
def onTree {α : Type} (f : Tree → α × Tree) : Run α := share fun s y => y.onTree s.directory f

/-- Changes the files, if that is possible. -/
def changeTree (f : Tree → Except FileError Tree) : Run (Except FileError Unit) :=
  onTree fun t =>
    match f t with
    | .ok t => (.ok (), t)
    | .error e => (.error e, t)

def now : Run Nat := observe fun _ y => y.clock

/-- The permissions of what is made, less those that the shell withholds. -/
def permitted (mode : Nat) : Run Nat := do
  let mask := (← get).mask
  return mode - (mode &&& mask)

/-! ## Descriptors -/

/-- A descriptor from this one on holds what is put aside for later. No program gets it. -/
def firstHidden : Nat := 1000

def descriptors : Run (List (Nat × Nat)) :=
  observe fun s y => ((y.process? s.process).map (·.descriptors)).getD []

def setDescriptors (ds : List (Nat × Nat)) : Run Unit :=
  share fun s y => ((), y.alterProcess s.process fun p => { p with descriptors := ds })

def stream? (descriptor : Nat) : Run (Option Nat) :=
  observe fun s y => y.streamNumber? s.process descriptor

/-- Lets a descriptor lead to an open stream, or closes it. -/
def setDescriptor (descriptor : Nat) (stream : Option Nat) : Run Unit :=
  share fun s y => ((), y.alterProcess s.process (·.setDescriptor descriptor stream))

/-- The first descriptor from some number on that is not in use. -/
def freeDescriptor (first : Nat) : Run Nat := do
  let used := (← descriptors).map (·.1)
  return ((List.range (used.length + 1)).map (first + ·)).find? (!used.contains ·) |>.getD first

/-- Does something, and lets some descriptors lead again where they have led before. -/
def keepingDescriptors {α : Type} (ds : List Nat) (m : Run α) : Run α := do
  let kept ← descriptors
  let first := ((kept.map (·.1)).foldl max firstHidden) + 1
  let aside := (kept.filter fun d => ds.contains d.1).mapIdx fun i d => (first + i, d.2)
  setDescriptors (kept ++ aside)
  finally' m do
    let present ← descriptors
    setDescriptors (kept.filter (fun d => ds.contains d.1) ++
      present.filter fun d => !ds.contains d.1 && !(aside.map (·.1)).contains d.1)

/-- Opens a path. The answer is a stream. -/
def openPath (path : String) (o : Host.Opening) : Run (Except FileError Nat) := do
  let mode ← permitted 0o666
  let result ← share fun s y => y.openPath s.process s.directory mode path o
  match result with
  | .error e => return .error e
  | .ok stream =>
    let side ← observe fun _ y => (y.streams[stream]?).bind fun st =>
      match st.target with
      | .pipe id writing => if y.queues.any (·.2 = id) then some (id, writing) else none
      | .node _ => none
    match side with
    | none => return .ok stream
    | some (id, writing) =>
      let aside ← freeDescriptor firstHidden
      setDescriptor aside (some stream)
      step fun _ y =>
        if y.holdsEnd id !writing || 0 < (y.pipes.getD id .empty).size then some ((), y) else none
      setDescriptor aside none
      return .ok stream

/-- A new pipe, as the streams at its two ends. -/
def newPipe : Run (Nat × Nat) :=
  share fun _ y =>
    let (id, y) := y.addPipe
    let (r, y) := y.addStream ⟨.pipe id false, 0, true, false, false⟩
    let (w, y) := y.addStream ⟨.pipe id true, 0, false, true, false⟩
    ((r, w), y)

/-- A stream from which a text is read: a pipe, or a file without a name if a pipe is too small. -/
def textStream (text : Chars) : Run Nat :=
  share fun s y =>
    if text.length ≤ Host.Pipe.capacity || s.dialect = .dash then
      let (id, y) := y.addPipe
      { y with pipes := y.pipes.modify id (·.put text) }.addStream ⟨.pipe id false, 0, true, false, false⟩
    else
      let (node, tree) := y.tree.add (.fresh (.file (Bytes.toBytes text)) 0o600 y.clock)
      { y with tree }.addStream ⟨.node node, 0, true, false, false⟩

/-! ## Reading and writing -/

/-- Reads some bytes. -/
def readSome (descriptor count : Nat) : Run (Except FileError Chars) :=
  step fun s y => y.read s.process descriptor count

/-- So often a stream is read at most. -/
def maxReads : Nat := 1000000

def readRest (descriptor : Nat) : Nat → List Chars → Run (Except FileError Chars)
  | 0, found => return .ok found.reverse.flatten
  | room + 1, found => do
    match ← readSome descriptor 65536 with
    | .ok [] => return .ok found.reverse.flatten
    | .ok text => readRest descriptor room (text :: found)
    | .error e => return .error e

/-- Reads all that is left. -/
def readAll (descriptor : Nat) : Run (Except FileError Chars) := readRest descriptor maxReads []

/-- Takes all that can be read from a descriptor. -/
def takeAll (descriptor : Nat) : Run Chars := do return (← readAll descriptor).toOption.getD []

/-- Takes a text up to a character. The answer tells whether the character was there. -/
def takeThrough (descriptor : Nat) (mark : Char) : Run (Except FileError (Chars × Bool)) :=
  step fun s y => y.readThrough s.process descriptor mark

/-- Puts back so many bytes, if the stream allows it. -/
def putBack (descriptor count : Nat) : Run Unit :=
  share fun s y =>
    if y.isSeekable s.process descriptor then ((), y.seek s.process descriptor (· - count))
    else ((), y)

def isSeekable (descriptor : Nat) : Run Bool :=
  observe fun s y => y.isSeekable s.process descriptor

def writeRest (descriptor : Nat) : Nat → Chars → Run (Except FileError Unit)
  | 0, _ => return .ok ()
  | room + 1, text => do
    match ← step fun s y => y.write s.process descriptor text with
    | .ok [] => return .ok ()
    | .ok rest => writeRest descriptor room rest
    | .error e => return .error e

/-- Writes a text. -/
def write (descriptor : Nat) (text : Chars) : Run (Except FileError Unit) :=
  if text.isEmpty then do
    return if (← stream? descriptor).isSome then .ok () else .error .badDescriptor
  else writeRest descriptor text.length text

/-- Writes to a descriptor. The answer is whether that was possible. -/
def emit (descriptor : Nat) (text : Chars) : Run Bool := do
  return (← write descriptor text).toOption.isSome

def print (text : Chars) : Run Unit := do let _ ← write 1 text

def complain (message : String) : Run Unit := do let _ ← write 2 (ofText (message ++ "\n"))

/-- Complains in the name of what is running, with the number of a line. The smaller shell tells the
builtin that is running, too. -/
def reportAt (line : Nat) (message : String) : Run Unit := do
  let s ← get
  complain (match s.dialect with
    | .bash => s.source ++ ": line " ++ toString line ++ ": " ++ message
    | .dash => toText s.name ++ ": " ++ toString line ++ ": " ++ s.speaker ++ message)

/-- Complains in the name of what is running, with the number of the present line. -/
def report (message : String) : Run Unit := do reportAt (← get).line message

/-- Goes on with a line. In a function of the smaller shell lines are counted from its first one. -/
def atLine (line : Nat) : Run Unit :=
  modify fun s =>
    { s with line := if s.functionLine = 0 then line else line + 1 - s.functionLine }

/-- Does something with an open file, which is closed again. -/
def withFile {α : Type} (path : Chars) (o : Host.Opening) (act : Nat → Run α) :
    Run (Except FileError α) := do
  match ← openPath (toText path) o with
  | .error e => return .error e
  | .ok stream =>
    let d ← freeDescriptor 3
    setDescriptor d (some stream)
    let a ← finally' (act d) (setDescriptor d none)
    return .ok a

/-- What is in a file. -/
def readFile (path : Chars) : Run (Except FileError Chars) := do
  match ← withFile path .read readAll with
  | .ok (.ok text) => return .ok text
  | .ok (.error e) => return .error e
  | .error e => return .error e

/-- Writes a file as a whole. -/
def writeFile (path : Chars) (o : Host.Opening) (text : Chars) : Run (Except FileError Unit) := do
  match ← withFile path o (write · text) with
  | .ok r => return r
  | .error e => return .error e

/-! ## Processes -/

def setStatus (status : Nat) : Run Unit := modify fun s => { s with status := status % 256 }

/-- Ends the shell with a status. -/
def leave {α : Type} (status : Nat) : Run α := do
  setStatus status
  throw .leave

/-- What a process does that is given by something to do. -/
def act (m : Run Unit) (s : Session) : Act :=
  m s fun _ s => .step fun y => some (.done, y.finish s.process (.exited s.status))

/-- Starts a process of its own. -/
def start (m : Run Unit) : Run Nat := fun s next =>
  .fork (fun pid => act m { s with process := pid }) (fun pid => next (.ok pid) s)

/-- Starts a process in which some descriptors lead elsewhere and none is put aside. -/
def startWith (turned : List (Nat × Option Nat)) (m : Run Unit) : Run Nat := start do
  for (descriptor, stream) in turned do setDescriptor descriptor stream
  setDescriptors ((← descriptors).filter (·.1 < firstHidden))
  m

/-- Puts an open stream aside. The answer is its descriptor. -/
def putAside (stream : Nat) : Run Nat := do
  let d ← freeDescriptor firstHidden
  setDescriptor d (some stream)
  return d

/-- Ends the own process with the present status. -/
def stop {α : Type} : Run α := fun s _ =>
  .step fun y => some (.done, y.finish s.process (.exited s.status))

/-- Waits for the end of a process. -/
def await (pid : Nat) : Run Fate :=
  step fun _ y =>
    match y.process? pid with
    | none => some (.exited 127, y)
    | some p =>
      if p.isRunning then none
      else some (p.fate, { y with processes := y.processes.filter (·.1 ≠ pid) })

/-- Sends a signal to a process. The answer is whether there is such a one. -/
def sendSignal (pid signal : Nat) : Run Bool :=
  share fun _ y => ((y.isRunning pid : Bool), y.signal pid signal)

/-- Ends the own process by a signal. -/
def perish (signal : Nat) : Run Unit :=
  share fun s y => ((), y.finish s.process (.killed signal))

/-- Waits for a number of nanoseconds. -/
def pause (duration : Nat) : Run Unit := do
  let deadline := (← now) + duration
  share fun s y => ((), y.alterProcess s.process fun p => { p with wake := some deadline })
  step fun _ y => if deadline ≤ y.clock then some ((), y) else none

/-- Takes the signals that have arrived. -/
def takeSignals : Run (List Nat) :=
  share fun s y =>
    (((y.process? s.process).map (·.pending)).getD [],
      y.alterProcess s.process fun p => { p with pending := [] })

end Run

end Provision.Shell
