import Provision.Calendar
import Provision.Files.Content
import Provision.Json.Value
import Provision.Pass.Basic

namespace Provision.Journal

open Files

/-- What the log of runs tells. The name of the pass and the version are texts, since a log can hold
those of other versions too. -/
inductive Event
  | runStarted (run pass version : String)
  | targetChecked (target : String) (status : Status) (seconds : Float)
  | targetInstalled (target : String) (seconds : Float)
  | targetFailed (target : String) (method : Method) (exit : Int)
  | targetSkipped (target : String)
  | runCompleted (run pass : String) (succeeded failed skipped : UInt32) (seconds : Float)

namespace Event

def name : Event → String
  | .runStarted .. => "run_started"
  | .targetChecked .. => "target_checked"
  | .targetInstalled .. => "target_installed"
  | .targetFailed .. => "target_failed"
  | .targetSkipped .. => "target_skipped"
  | .runCompleted .. => "run_completed"

def fields : Event → List (String × Json.Value)
  | .runStarted run pass version =>
    [("run_id", .text run), ("pass", .text pass), ("booty_version", .text version)]
  | .targetChecked target status x =>
    [("target", .text target), ("status", .text status.name), ("duration_seconds", .seconds x)]
  | .targetInstalled target x => [("target", .text target), ("duration_seconds", .seconds x)]
  | .targetFailed target method exit =>
    [("target", .text target), ("method", .text method.name), ("exit_code", .integer exit)]
  | .targetSkipped target => [("target", .text target)]
  | .runCompleted run pass succeeded failed skipped x =>
    [("run_id", .text run), ("pass", .text pass), ("succeeded", .integer succeeded.toNat),
     ("failed", .integer failed.toNat), ("skipped", .integer skipped.toNat),
     ("total_seconds", .seconds x)]

/-- The line of an event that happened at a time. -/
def line (time : String) (e : Event) : List Char :=
  Json.object (("ts", .text time) :: ("event", .text e.name) :: e.fields)

end Event


/-- A run of a pass: when it began, in nanoseconds, and its name. -/
structure Run where
  start : Nat
  id : String
  deriving DecidableEq, Repr

/-- The run that begins at a time. The last digits of the time name it. -/
def Run.ofTime (time : Nat) : Run :=
  ⟨time, "run-" ++ String.ofList (Text.hex false 12 time)⟩

/-- The name of the directory for a run: the milliseconds at which it began. -/
def Run.directoryName (r : Run) : String := toString (r.start / 1000000)

/-- What a pass wants to be written down: an event, or what a failing command has written. -/
inductive Entry
  | event (e : Event)
  | output (run : Run) (target : String) (method : Method) (output : Output)

/-- Why something could not be written down. -/
inductive LogError
  | directory (path : String) (error : FileError)
  | eventLog (path : String) (error : FileError)
  | file (path : String) (error : FileError)
  deriving DecidableEq, Repr

def LogError.message : LogError → String
  | .directory path error => "cannot create log dir " ++ path ++ ": " ++ error.message
  | .eventLog path error => "cannot open event log " ++ path ++ ": " ++ error.message
  | .file path error => "cannot write " ++ path ++ ": " ++ error.message

/-- The file with the events in a log directory. -/
def eventLogName : String := "events.jsonl"

/-- Adds the line of an event to the log in a directory, which is made if it is missing. -/
def appendEvent (directory time : String) (e : Event) (t : Tree) :
    Except LogError Unit × Tree :=
  match t.makeDirectories directory with
  | (.error e, t) => (.error (.directory directory e), t)
  | (.ok (), t) =>
    let path := join directory eventLogName
    match t.append path (Text.encode (String.ofList (e.line time ++ ['\n']))) with
    | .ok t => (.ok (), t)
    | .error e => (.error (.eventLog path e), t)

/-- One of the two texts that a command writes. -/
inductive Stream
  | stdout
  | stderr
  deriving DecidableEq, Repr

def Stream.name : Stream → String
  | .stdout => "stdout"
  | .stderr => "stderr"

/-- The directory of a run for a method. -/
def methodDirectory (runDirectory : String) (m : Method) : String :=
  join runDirectory m.name

def streamPath (runDirectory target : String) (m : Method) (s : Stream) : String :=
  join (methodDirectory runDirectory m) (target ++ "_" ++ s.name ++ ".log")

/-- The content of a file with the text of a stream. -/
def sectioned (s : Stream) (body : String) : String :=
  "=== " ++ s.name ++ ": ===\n" ++ body

def writeStream (runDirectory target : String) (m : Method) (s : Stream) (body : String)
    (t : Tree) : Except LogError Unit × Tree :=
  let path := streamPath runDirectory target m s
  match t.write path (Text.encode (sectioned s body)) with
  | .ok t => (.ok (), t)
  | .error e => (.error (.file path e), t)

/-- Writes down what a command of a target has written. -/
def writeOutput (runDirectory target : String) (m : Method) (stdout stderr : String) (t : Tree) :
    Except LogError Unit × Tree :=
  let directory := methodDirectory runDirectory m
  match t.makeDirectories directory with
  | (.error e, t) => (.error (.directory directory e), t)
  | (.ok (), t) =>
    match writeStream runDirectory target m .stdout stdout t with
    | (.error e, t) => (.error e, t)
    | (.ok (), t) => writeStream runDirectory target m .stderr stderr t

/-- Writes an entry down below a log directory at a time in nanoseconds. What cannot be written is
lost: a journal is not a reason for a pass to stop. -/
def record (directory : String) (time : Nat) (e : Entry) (t : Tree) : Tree :=
  match e with
  | .event e => (appendEvent directory (timestamp (time / 1000000000)) e t).2
  | .output run target m output =>
    (writeOutput (join directory run.directoryName) target m output.stdout output.stderr t).2

end Provision.Journal
