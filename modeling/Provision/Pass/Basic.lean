import Provision.Action

namespace Provision

/-- What a command leaves behind. -/
structure Output where
  exit : Int
  stdout : String
  stderr : String
  deriving DecidableEq, Repr

def Output.success (o : Output) : Bool := o.exit == 0

/-- What a check finds out about a target. -/
inductive Status
  | installed
  | missing
  | error
  deriving DecidableEq, Repr

def Status.name : Status → String
  | .installed => "installed"
  | .missing => "missing"
  | .error => "error"

/-- How a target stands in the view of a user. -/
inductive State
  | installed
  | missing
  | error
  | skipped
  deriving DecidableEq, Repr

def State.label : State → String
  | .installed => "INSTALLED"
  | .missing => "NOT INSTALLED"
  | .error => "ERROR"
  | .skipped => "SKIPPED"

def Status.state : Status → State
  | .installed => .installed
  | .missing => .missing
  | .error => .error

/-- One of the two ways to go through the targets. -/
inductive PassKind
  | status
  | install
  deriving DecidableEq, Repr

def PassKind.name : PassKind → String
  | .status => "status"
  | .install => "install"

/-- What is known of a target once a pass is done with it. Durations are in nanoseconds. -/
structure Progress where
  target : String
  state : State
  detail : String
  duration : Nat
  deriving DecidableEq, Repr

structure StatusReport where
  installed : List String
  missing : List String
  errors : List String
  deriving DecidableEq, Repr

namespace StatusReport

def empty : StatusReport := ⟨[], [], []⟩

def add (r : StatusReport) (target : String) : Status → StatusReport
  | .installed => { r with installed := r.installed ++ [target] }
  | .missing => { r with missing := r.missing ++ [target] }
  | .error => { r with errors := r.errors ++ [target] }

/-- The targets that an installation attempts. -/
def needed (r : StatusReport) : List String := r.missing ++ r.errors

end StatusReport

structure InstallReport where
  installed : List String
  errors : List String
  skipped : List String
  deriving DecidableEq, Repr

namespace InstallReport

def empty : InstallReport := ⟨[], [], []⟩

def success (r : InstallReport) : Bool := r.errors.isEmpty

end InstallReport

end Provision
