import Provision.Host.Basic

namespace Provision.Host

/-- What a process does from some point on: nothing more, a step that changes what is shared, or the
start of another process with which it goes on. A step without an answer has to wait. -/
inductive Act
  | done
  | step (f : Host → Option (Act × Host))
  | fork (child next : Nat → Act)

/-- A process with what it still has to do. -/
structure Task where
  process : Nat
  act : Act

/-- A step takes so many nanoseconds. -/
def tick : Nat := 1000

/-- Lets a process go on for a number of steps. The answer tells what it still has to do, what it
has started, the last one first, and whether anything has happened. -/
def advance (pid : Nat) : Nat → Act → List Task → Bool → Host →
    Option Act × List Task × Bool × Host
  | 0, act, started, _, y => (some act, started, true, y)
  | room + 1, act, started, moved, y =>
    if !y.isRunning pid then (none, started, true, y)
    else
      match act with
      | .done => (none, started, true, y.finish pid (.exited 0))
      | .step f =>
        match f y with
        | none => (some act, started, moved, y)
        | some (act, y) => advance pid room act started true { y with clock := y.clock + tick }
      | .fork child next =>
        let (n, y) := y.fork pid
        advance pid room (next n) (⟨n, child n⟩ :: started) true y

/-- The next time at which a process wants to be woken. -/
def nextWake (y : Host) : Option Nat :=
  (y.processes.filterMap fun (_, p) => if p.isRunning then p.wake.filter (y.clock < ·) else none).min?

/-- Whether a process has ended, and nobody is left who could write to some pipes. -/
def isOver (y : Host) (main : Nat) (outputs : List Nat) : Bool :=
  !y.isRunning main && !outputs.any fun pipe => y.holdsEnd pipe true

/-- So many steps a process goes on before the others get their turn. -/
def sliceLength : Nat := 4000

/-- Lets processes go on by turns until all is over. When so many in a row have to wait as there are,
time passes up to the next one that wants to be woken. -/
def run (main : Nat) (outputs : List Nat) : Nat → List Task → (idle : Nat) → Host → Host
  | 0, _, _, y => y
  | _ + 1, [], _, y => y
  | room + 1, task :: rest, idle, y =>
    if y.isOver main outputs then y
    else if rest.length < idle then
      match y.nextWake with
      | some time => run main outputs room (task :: rest) 0 { y with clock := time }
      | none => y
    else
      match advance task.process sliceLength task.act [] false y with
      | (act, started, moved, y) =>
        let again := match act with
          | some act => [⟨task.process, act⟩]
          | none => []
        run main outputs room (rest ++ started.reverse ++ again) (if moved then 0 else idle + 1) y

/-- So many turns there are at most. -/
def maxTurns : Nat := 1000000000

end Provision.Host
