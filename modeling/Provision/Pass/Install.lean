import Provision.Pass.Status

namespace Provision.Pass

open Journal (Run)

variable {σ : Type}

/-- An install pass on its way. -/
structure Installing (σ : Type) where
  world : σ
  report : InstallReport
  progress : List Progress

/-- Runs the setup of a target: whether it was a success, the detail for the user and the world
afterwards. -/
def runSetup (machine : Machine σ) (c : Configuration) (run : Run) (target : String) (w : σ) :
    Bool × String × σ :=
  match commandsOf c target .setup with
  | .error reason => (false, reason, w)
  | .ok commands =>
    match runCommands machine commands w with
    | (none, w) => (true, preview commands, w)
    | (some output, w) =>
      let w := machine.note (.output run target .setup output) w
      (false, singleLine output.stderr,
        machine.note (.event (.targetFailed target .setup output.exit)) w)

/-- Sets up a target. -/
def setUp (machine : Machine σ) (c : Configuration) (run : Run) (s : Installing σ)
    (target : String) : Bool × Installing σ :=
  let (start, w) := machine.now s.world
  let (success, detail, w) := runSetup machine c run target w
  let (stop, w) := machine.now w
  let duration := stop - start
  if success then
    (true,
      { world := machine.note (.event (.targetInstalled target (toSeconds duration))) w
        report := { s.report with installed := s.report.installed ++ [target] }
        progress := s.progress ++ [⟨target, .installed, detail, duration⟩] })
  else
    (false,
      { world := w
        report := { s.report with errors := s.report.errors ++ [target] }
        progress := s.progress ++ [⟨target, .error, detail, duration⟩] })

/-- A target that is not needed counts as a success without being touched. -/
def visit (machine : Machine σ) (c : Configuration) (run : Run) (needed : List String)
    (s : Installing σ) (target : String) : Bool × Installing σ :=
  if target ∈ needed then setUp machine c run s target else (true, s)

/-- Takes note of a target that a failure before it has ruled out. -/
def skip (machine : Machine σ) (s : Installing σ) (target : String) : Installing σ :=
  { s with
    world := machine.note (.event (.targetSkipped target)) s.world
    progress := s.progress ++ [⟨target, .skipped, "dependency failure", 0⟩] }

/-- Sets up the needed targets, each after all of its dependencies. A failure rules out all that
depends on it. -/
def installAll (machine : Machine σ) (c : Configuration) (status : StatusReport) (w : σ) :
    Result InstallReport σ :=
  let (run, w) := openRun machine .install w
  let (skipped, s) :=
    c.graph.walk (visit machine c run status.needed) ⟨w, .empty, []⟩
  let s := skipped.foldl (skip machine) s
  let report := { s.report with skipped }
  let (total, w) := closeRun machine .install run report.installed.length report.errors.length
    report.skipped.length s.world
  ⟨report, s.progress, total, w⟩

end Provision.Pass
