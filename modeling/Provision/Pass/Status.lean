import Provision.Pass.Machine
import Provision.Text.Blank

namespace Provision.Pass

/-- So many characters of a command are shown. -/
def previewWidth : Nat := 60

/-- The start of the first command on one line, with dots if that is not all. -/
def preview : List String → String
  | [] => ""
  | first :: more =>
    let command := Text.trimmed first
    let escaped := Text.replaceLineFeeds "\\n" command
    let shown := String.ofList (escaped.toList.take previewWidth)
    if !more.isEmpty || command.contains '\n' || previewWidth < escaped.length then shown ++ "..."
    else shown

/-- A text on one line, without the blanks around it. -/
def singleLine (s : String) : String :=
  Text.replaceLineFeeds " " (Text.trimmed s)


open Journal (Run)

variable {σ : Type}

/-- The exit by which a check says that a target is not installed. -/
def missingExit : Int := 1

/-- The status of a target by the first failure of its check. -/
def classify : Option Output → Status
  | none => .installed
  | some output => if output.exit = missingExit then .missing else .error

/-- What a user is told of a check: what the failing command wrote, or else the commands. -/
def checkDetail (commands : List String) (failure : Option Output) : String :=
  match classify failure, failure with
  | .missing, some output =>
    if Text.isAllBlank output.stdout.toList then preview commands else singleLine output.stdout
  | .error, some output => singleLine output.stderr
  | _, _ => preview commands

/-- A status pass on its way. -/
structure Checking (σ : Type) where
  world : σ
  report : StatusReport
  progress : List Progress

/-- Runs the check of a target: its status, the detail for the user and the world afterwards. -/
def runCheck (machine : Machine σ) (c : Configuration) (run : Run) (target : String) (w : σ) :
    Status × String × σ :=
  match commandsOf c target .isSetup with
  | .error reason => (.error, reason, w)
  | .ok commands =>
    match runCommands machine commands w with
    | (none, w) => (classify none, checkDetail commands none, w)
    | (some output, w) =>
      (classify (some output), checkDetail commands (some output),
        machine.note (.output run target .isSetup output) w)

def checkTarget (machine : Machine σ) (c : Configuration) (run : Run) (s : Checking σ)
    (target : String) : Checking σ :=
  let (start, w) := machine.now s.world
  let (status, detail, w) := runCheck machine c run target w
  let (stop, w) := machine.now w
  let duration := stop - start
  { world := machine.note (.event (.targetChecked target status (toSeconds duration))) w
    report := s.report.add target status
    progress := s.progress ++ [⟨target, status.state, detail, duration⟩] }

/-- The result of a pass. -/
structure Result (ρ σ : Type) where
  report : ρ
  progress : List Progress
  duration : Nat
  world : σ

/-- Checks all targets in the order of installation. -/
def checkAll (machine : Machine σ) (c : Configuration) (w : σ) : Result StatusReport σ :=
  let (run, w) := openRun machine .status w
  let s := c.graph.installOrder.foldl (checkTarget machine c run) ⟨w, .empty, []⟩
  let (total, w) :=
    closeRun machine .status run s.report.installed.length s.report.errors.length 0 s.world
  ⟨s.report, s.progress, total, w⟩

end Provision.Pass
