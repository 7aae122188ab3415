import Provision.Configuration.Basic
import Provision.Journal.Log

namespace Provision.Pass

open Journal (Run)

/-- What a pass needs from the world: it runs commands, tells the time in nanoseconds, and takes
notes. A command that cannot be run at all gives a text instead of an output. -/
structure Machine (σ : Type) where
  run : String → σ → Except String Output × σ
  now : σ → Nat × σ
  note : Journal.Entry → σ → σ

variable {σ : Type}

/-- Runs commands up to the first failure, which is the answer. -/
def runCommands (machine : Machine σ) : List String → σ → Option Output × σ
  | [], w => (none, w)
  | command :: rest, w =>
    match machine.run command w with
    | (.ok output, w) => if output.success then runCommands machine rest w else (some output, w)
    | (.error reason, w) => (some ⟨-1, "", reason⟩, w)

/-- The commands of a target, or why there are none. -/
def commandsOf (c : Configuration) (target : String) (m : Method) : Except String (List String) :=
  match c.targets.get? target with
  | none => .error ("no definition for target '" ++ target ++ "'")
  | some methods =>
    match c.recipes.commands methods m with
    | .ok commands => .ok commands
    | .error e => .error e.message

def version : String := "0.4.0"

def toSeconds (nanoseconds : Nat) : Float :=
  Float.ofNat (nanoseconds / 1000000000) + Float.ofNat (nanoseconds % 1000000000) / 1000000000

/-- Opens a run of a pass. -/
def openRun (machine : Machine σ) (kind : PassKind) (w : σ) : Run × σ :=
  let (start, w) := machine.now w
  let run := Run.ofTime start
  (run, machine.note (.event (.runStarted run.id kind.name version)) w)

/-- Closes a run with the numbers of its targets, and tells how long it took. -/
def closeRun (machine : Machine σ) (kind : PassKind) (run : Run) (succeeded failed skipped : Nat)
    (w : σ) : Nat × σ :=
  let (stop, w) := machine.now w
  let total := stop - run.start
  (total, machine.note (.event (.runCompleted run.id kind.name (UInt32.ofNat succeeded)
    (UInt32.ofNat failed) (UInt32.ofNat skipped) (toSeconds total))) w)

/-- A command that has been run, with what it has left behind. -/
structure Trial where
  command : String
  answer : Except String Output

def Trial.success (t : Trial) : Bool :=
  match t.answer with
  | .ok output => output.success
  | .error _ => false

/-- What a machine has done: the commands it has run and the notes it has taken. -/
structure Record where
  trials : List Trial
  notes : List Journal.Entry

/-- A machine that remembers what it does. -/
def Machine.recording (machine : Machine σ) : Machine (σ × Record) where
  run command w :=
    let (answer, s) := machine.run command w.1
    (answer, s, { w.2 with trials := w.2.trials ++ [⟨command, answer⟩] })
  now w :=
    let (time, s) := machine.now w.1
    (time, s, w.2)
  note e w := (machine.note e w.1, { w.2 with notes := w.2.notes ++ [e] })

end Provision.Pass
