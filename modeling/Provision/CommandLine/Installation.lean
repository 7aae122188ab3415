import Provision.Decimal.Shortest
import Provision.Pass.Install

namespace Provision.CommandLine

variable {σ : Type}

/-- What becomes of an installation after the status is known. -/
inductive Decision (σ : Type)
  | nothingNeeded (world : σ)
  | declined (world : σ)
  | attempted (result : Pass.Result InstallReport σ)

/-- An installation from the check of the targets on. -/
structure Installation (σ : Type) where
  status : Pass.Result StatusReport σ
  decision : Decision σ

def Decision.world : Decision σ → σ
  | .nothingNeeded w => w
  | .declined w => w
  | .attempted r => r.world

/-- Checks all targets, asks for confirmation if that is needed, and sets up the targets that need
it. -/
def install (machine : Pass.Machine σ) (confirm : σ → Bool × σ) (yes : Bool) (c : Configuration)
    (w : σ) : Installation σ :=
  let status := Pass.checkAll machine c w
  let decision :=
    if status.report.needed.isEmpty then .nothingNeeded status.world
    else
      let (agreed, w) := if yes then (true, status.world) else confirm status.world
      if agreed then .attempted (Pass.installAll machine c status.report w) else .declined w
  ⟨status, decision⟩

/-- Why a command failed. -/
inductive CommandError
  | configuration (error : ConfigurationError)
  | checksFailed (count : Nat)
  | setupsFailed (count : Nat) (logDirectory : String)
  | alreadyExists (path : String)
  | cannotCreate (path reason : String)
  | cannotWrite (path reason : String)
  deriving DecidableEq, Repr

def CommandError.message : CommandError → String
  | .configuration error => error.message
  | .checksFailed count => toString count ++ " target(s) failed their status check"
  | .setupsFailed count directory =>
    toString count ++ " target(s) failed; logs in " ++ directory
  | .alreadyExists path => path ++ " already exists"
  | .cannotCreate path reason => "cannot create " ++ path ++ ": " ++ reason
  | .cannotWrite path reason => "cannot write " ++ path ++ ": " ++ reason

/-- An installation fails if the setup of a target does. -/
def Installation.error? (i : Installation σ) (logDirectory : String) : Option CommandError :=
  match i.decision with
  | .attempted r =>
    if r.report.success then none
    else some (.setupsFailed r.report.errors.length logDirectory)
  | _ => none

/-- A check of all targets fails if one of them cannot be checked. -/
def checkError? (r : StatusReport) : Option CommandError :=
  if r.errors.isEmpty then none else some (.checksFailed r.errors.length)

/-- Seconds with two decimal places. -/
def seconds (nanoseconds : Nat) : String :=
  let bits := (Pass.toSeconds nanoseconds).toBits.toNat
  String.ofList ((Decimal.Double.ofBits bits).fixed 2) ++ "s"

/-- Fills a text up with blanks. -/
def column (width : Nat) (s : String) : String := String.ofList (s.toList.rightpad width ' ')

/-- The states of targets take so much room. -/
def stateWidth : Nat := 13

def progressLine (width : Nat) (p : Progress) : String :=
  "  " ++ column width p.target ++ "  " ++ column stateWidth p.state.label ++ "  " ++ p.detail ++
    " (" ++ seconds p.duration ++ ")\n"

/-- The room for names: the greatest width of one. -/
def nameWidth (names : List String) : Nat := (names.map String.utf8ByteSize).foldl max 0

def progressLines (names : List String) (ps : List Progress) : String :=
  String.join (ps.map (progressLine (nameWidth names)))

/-- What a check of all targets tells. -/
def statusText (c : Configuration) (r : Pass.Result StatusReport σ) : String :=
  "Checking " ++ toString c.graph.size ++ " target(s):\n" ++
    progressLines c.graph.names r.progress ++
    "\nStatus: " ++ toString r.report.installed.length ++ " installed, " ++
    toString r.report.missing.length ++ " missing, " ++ toString r.report.errors.length ++
    " error(s) (" ++ seconds r.duration ++ ")\n"

/-- What an installation asks before it sets up targets. -/
def question (count : Nat) : String :=
  "Install " ++ toString count ++ " target(s)? [y/N] "

def installText (c : Configuration) (r : Pass.Result InstallReport σ) : String :=
  "\nInstalling:\n" ++ progressLines c.graph.names r.progress ++ "\nInstall report:\n  " ++
    toString r.report.installed.length ++ " target(s) installed\n  " ++
    toString r.report.skipped.length ++
    " target(s) skipped because of dependency failures\n  " ++
    toString r.report.errors.length ++ " target(s) failed\n  Total time: " ++
    seconds r.duration ++ "\n"

/-- What an installation tells. -/
def Installation.text (i : Installation σ) (c : Configuration) (yes : Bool) : String :=
  let asked := if yes then "" else question i.status.report.needed.length
  statusText c i.status ++
    match i.decision with
    | .nothingNeeded _ => "Nothing to install.\n"
    | .declined _ => asked ++ "Aborted.\n"
    | .attempted r => asked ++ installText c r

/-- What is told of a configuration that can be used. -/
def validText (path : String) (c : Configuration) : String :=
  "OK: " ++ path ++ " (" ++ toString c.targets.size ++ " targets, " ++
    toString c.recipes.size ++ " recipes)\n"

end Provision.CommandLine
