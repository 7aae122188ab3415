import Mathlib.Data.List.Basic
import Provision.Pass.Status
import Provision.Proofs.Pass.Recording

namespace Provision

/-- The targets that a report lists under a status. -/
def StatusReport.listed (r : StatusReport) : Status → List String
  | .installed => r.installed
  | .missing => r.missing
  | .error => r.errors

/-- The targets that a report tells of. -/
def StatusReport.targets (r : StatusReport) : List String := r.installed ++ r.missing ++ r.errors

theorem StatusReport.listed_add (r : StatusReport) (target : String) (status s : Status) :
    (r.add target status).listed s = r.listed s ++ if status = s then [target] else [] := by
  cases status <;> cases s <;> simp [add, listed]

namespace Pass

variable {σ τ : Type}

def Result.through {ρ : Type} (view : τ → σ) (r : Result ρ τ) : Result ρ σ :=
  ⟨r.report, r.progress, r.duration, view r.world⟩

/-- What is told of a target, but for the time that it took. -/
def told (p : Progress) : String × State × String := (p.target, p.state, p.detail)

/-- Two passes have come to the same, but for the time that they took, in related worlds. -/
structure Concur (timed : Prop) (R : σ → τ → Prop) {ρ : Type} (report report' : ρ)
    (progress progress' : List Progress) (w : σ) (v : τ) : Prop where
  report : report = report'
  told : progress.map Pass.told = progress'.map Pass.told
  exactly : timed → progress = progress'
  world : R w v

section Concur

variable {timed : Prop} {R : σ → τ → Prop} {ρ : Type} {report report' : ρ}
  {progress progress' : List Progress} {w : σ} {v : τ}

theorem Concur.start (report : ρ) (hw : R w v) : Concur timed R report report [] [] w v :=
  ⟨rfl, rfl, fun _ => rfl, hw⟩

/-- Both passes tell the same of one more target. -/
theorem Concur.add {next next' : ρ} {w' : σ} {v' : τ} {p p' : Progress}
    (h : Concur timed R report report' progress progress' w v) (hnext : next = next')
    (htold : Pass.told p = Pass.told p') (hexact : timed → p.duration = p'.duration)
    (hw : R w' v') :
    Concur timed R next next' (progress ++ [p]) (progress' ++ [p']) w' v' where
  report := hnext
  told := by simp [h.told, htold]
  -- All but the duration is in what is told.
  exactly := by
    intro he
    obtain ⟨target, state, detail, duration⟩ := p
    obtain ⟨target', state', detail', duration'⟩ := p'
    obtain ⟨rfl, rfl, rfl⟩ : target = target' ∧ state = state' ∧ detail = detail' := by
      simpa [Pass.told] using htold
    obtain rfl : duration = duration' := hexact he
    rw [h.exactly he]
  world := hw

end Concur

/-- Two status passes on their way have come to the same. -/
def Checking.Concurs (timed : Prop) (R : σ → τ → Prop) (s : Checking σ) (t : Checking τ) : Prop :=
  Concur timed R s.report t.report s.progress t.progress s.world t.world

/-- Two results of passes are the same, but for the time that they took, in related worlds. -/
structure Result.Concurs {ρ : Type} (timed : Prop) (R : σ → τ → Prop) (r : Result ρ σ)
    (r' : Result ρ τ) : Prop where
  concur : Concur timed R r.report r'.report r.progress r'.progress r.world r'.world
  duration : timed → r.duration = r'.duration

theorem Result.Concurs.eq_through {ρ : Type} {view : τ → σ} {r : Result ρ τ} {r' : Result ρ σ}
    (h : r.Concurs True (fun w v => v = view w) r') : r' = r.through view := by
  obtain ⟨report, progress, duration, world⟩ := r'
  obtain rfl : r.report = report := h.concur.report
  obtain rfl : r.progress = progress := h.concur.exactly trivial
  obtain rfl : r.duration = duration := h.duration trivial
  obtain rfl : world = view r.world := h.concur.world
  rfl

namespace Machine.Agrees

variable {timed : Prop} {a : Machine σ} {b : Machine τ} {R : σ → τ → Prop} {w : σ} {v : τ}

theorem runCheck (h : a.Agrees timed b R) (hw : R w v) (c : Configuration)
    {run run' : Journal.Run} (hrun : timed → run = run') (target : String) :
    (Pass.runCheck a c run target w).1 = (Pass.runCheck b c run' target v).1 ∧
      (Pass.runCheck a c run target w).2.1 = (Pass.runCheck b c run' target v).2.1 ∧
      R (Pass.runCheck a c run target w).2.2 (Pass.runCheck b c run' target v).2.2 := by
  rw [Pass.runCheck, Pass.runCheck]
  rcases commandsOf c target .isSetup with reason | commands
  · exact ⟨rfl, rfl, hw⟩
  · obtain ⟨hfailure, hworld⟩ := h.runCommands hw commands
    dsimp only
    rcases hb : Pass.runCommands b commands v with ⟨failure, v'⟩
    rcases ha : Pass.runCommands a commands w with ⟨failure', w'⟩
    rw [ha, hb] at hfailure hworld
    obtain rfl : failure' = failure := hfailure
    rcases failure' with _ | output
    · exact ⟨rfl, rfl, hworld⟩
    · exact ⟨rfl, rfl, h.note hworld fun he => by rw [hrun he]⟩

theorem checkTarget (h : a.Agrees timed b R) (c : Configuration) {run run' : Journal.Run}
    (hrun : timed → run = run') {s : Checking σ} {t : Checking τ}
    (hs : s.Concurs timed R t) (target : String) :
    (Pass.checkTarget a c run s target).Concurs timed R (Pass.checkTarget b c run' t target) := by
  obtain ⟨hstart, hw⟩ := h.now hs.world
  obtain ⟨hstatus, hdetail, hw⟩ := h.runCheck hw c hrun target
  obtain ⟨hstop, hw⟩ := h.now hw
  have hduration (he : timed) := congrArg₂ (· - ·) (hstop he) (hstart he)
  refine hs.add (congrArg₂ (StatusReport.add · target) hs.report hstatus)
    (congrArg₂ (fun (status : Status) detail => (target, status.state, detail)) hstatus hdetail)
    hduration (h.note hw fun he => ?_)
  exact congrArg₂ (fun status duration =>
    Journal.Entry.event (.targetChecked target status (toSeconds duration))) hstatus (hduration he)

theorem foldl_checkTarget (h : a.Agrees timed b R) (c : Configuration) {run run' : Journal.Run}
    (hrun : timed → run = run') (targets : List String) {s : Checking σ} {t : Checking τ}
    (hs : s.Concurs timed R t) :
    (targets.foldl (Pass.checkTarget a c run) s).Concurs timed R
      (targets.foldl (Pass.checkTarget b c run') t) := by
  induction targets generalizing s t with
  | nil => exact hs
  | cons target rest ih => exact ih (h.checkTarget c hrun hs target)

/-- Status passes over machines that do alike come to the same. -/
theorem checkAll (h : a.Agrees timed b R) (c : Configuration) (hw : R w v) :
    (Pass.checkAll a c w).Concurs timed R (Pass.checkAll b c v) := by
  obtain ⟨hrun, hw⟩ := h.openRun hw .status
  have hs := h.foldl_checkTarget c hrun c.graph.installOrder (s := ⟨_, .empty, []⟩)
    (t := ⟨_, .empty, []⟩) (Concur.start StatusReport.empty hw)
  obtain ⟨htotal, hw⟩ := h.closeRun hs.world .status hrun
    (congrArg (·.installed.length) hs.report) (congrArg (·.errors.length) hs.report) (Eq.refl 0)
  exact ⟨⟨hs.report, hs.told, hs.exactly, hw⟩, htotal⟩

end Machine.Agrees

/-- A status pass over a machine and over its mirror comes to the same result. -/
theorem Machine.Mirrors.checkAll {mirror : Machine τ} {machine : Machine σ} {view : τ → σ}
    (hm : mirror.Mirrors machine view) (c : Configuration) (w : τ) :
    Pass.checkAll machine c (view w) = (Pass.checkAll mirror c w).through view :=
  (hm.agrees.checkAll c rfl).eq_through

/-- What a machine keeps is kept by a status pass. -/
theorem Machine.Keeps.checkAll {machine : Machine σ} {I : σ → Prop} (h : machine.Keeps I)
    (c : Configuration) {w : σ} (hw : I w) : I (Pass.checkAll machine c w).world :=
  (h.agrees.checkAll c ⟨rfl, hw⟩).concur.world.2

/-- A target that a status pass has checked: the commands that it has run for it, and what it has
found out. -/
structure Check where
  target : String
  trials : List Trial
  status : Status

/-- The commands are those of the target, tried up to the first failure, and the status tells of
that failure. -/
def Check.Faithful (c : Configuration) (k : Check) : Prop :=
  ∃ commands, commandsOf c k.target .isSetup = .ok commands ∧
    Tried commands k.trials (failure? k.trials).isNone ∧ k.status = classify (failure? k.trials)

/-- A check with all the commands of its target, and with the time that it took. -/
structure Inspection extends Check where
  commands : List String
  duration : Nat

namespace Inspection

/-- What a user is told. -/
def progress (k : Inspection) : Progress :=
  ⟨k.target, k.status.state, checkDetail k.commands (failure? k.trials), k.duration⟩

/-- What is noted, in the run of a pass. -/
def notes (run : Journal.Run) (k : Inspection) : List Journal.Entry :=
  ((failure? k.trials).map (.output run k.target .isSetup)).toList ++
    [.event (.targetChecked k.target k.status (toSeconds k.duration))]

def Faithful (c : Configuration) (k : Inspection) : Prop :=
  commandsOf c k.target .isSetup = .ok k.commands ∧
    Tried k.commands k.trials (failure? k.trials).isNone ∧ k.status = classify (failure? k.trials)

theorem Faithful.check {c : Configuration} {k : Inspection} (h : k.Faithful c) :
    k.toCheck.Faithful c :=
  ⟨k.commands, h⟩

end Inspection

theorem runCheck_recording (machine : Machine σ) {c : Configuration} (run : Journal.Run)
    {target : String} {commands : List String}
    (hcommands : commandsOf c target .isSetup = .ok commands) (w : σ × Record) : ∃ trials v,
      Tried commands trials (failure? trials).isNone ∧
      runCheck machine.recording c run target w =
        (classify (failure? trials), checkDetail commands (failure? trials), v,
          w.2.append ⟨trials, ((failure? trials).map (.output run target .isSetup)).toList⟩) := by
  obtain ⟨trials, v, ht, hrun⟩ := runCommands_recording machine commands w
  rw [runCheck, hcommands]
  dsimp only
  rw [hrun]
  cases hf : failure? trials with
  | none => exact ⟨trials, v, ht, by rw [hf]; rfl⟩
  | some output =>
    refine ⟨trials, machine.note (.output run target .isSetup output) v, ht, ?_⟩
    rw [hf]
    simp [Machine.recording, Record.append]

/-- All that the check of a target does. -/
theorem checkTarget_recording (machine : Machine σ) {c : Configuration} (run : Journal.Run)
    {target : String} {commands : List String}
    (hcommands : commandsOf c target .isSetup = .ok commands) (s : Checking (σ × Record)) :
    ∃ k : Inspection, k.target = target ∧ k.Faithful c ∧
      (checkTarget machine.recording c run s target).report = s.report.add target k.status ∧
      (checkTarget machine.recording c run s target).progress = s.progress ++ [k.progress] ∧
      (checkTarget machine.recording c run s target).world.2 =
        s.world.2.append ⟨k.trials, k.notes run⟩ := by
  obtain ⟨trials, v, ht, hcheck⟩ :=
    runCheck_recording machine run hcommands (machine.recording.now s.world).2
  refine ⟨⟨⟨target, trials, classify (failure? trials)⟩, commands,
    (machine.now v).1 - (machine.now s.world.1).1⟩, rfl, ⟨hcommands, ht, rfl⟩, ?_⟩
  simp only [checkTarget, hcheck]
  exact ⟨trivial, rfl, by simp [Machine.recording, Record.append, Inspection.notes]⟩

/-- A report with the targets of checks on its lists. -/
def reportOf (checks : List Check) (r : StatusReport) : StatusReport :=
  checks.foldl (fun r k => r.add k.target k.status) r

theorem listed_reportOf (checks : List Check) (r : StatusReport) (s : Status) :
    (reportOf checks r).listed s =
      r.listed s ++ (checks.filter (·.status = s)).map Check.target := by
  unfold reportOf
  induction checks generalizing r with
  | nil => simp
  | cons k checks ih =>
    rw [List.foldl_cons, ih, StatusReport.listed_add]
    by_cases h : k.status = s <;> simp [h]

/-- All that the checks of targets do, one after the other. -/
theorem foldl_checkTarget_recording (machine : Machine σ) {c : Configuration} (run : Journal.Run)
    {targets : List String}
    (hcommands : ∀ n ∈ targets, ∃ commands, commandsOf c n .isSetup = .ok commands)
    (s : Checking (σ × Record)) :
    ∃ ks : List Inspection, ks.map (·.target) = targets ∧ (∀ k ∈ ks, k.Faithful c) ∧
      (targets.foldl (checkTarget machine.recording c run) s).report =
        reportOf (ks.map (·.toCheck)) s.report ∧
      (targets.foldl (checkTarget machine.recording c run) s).progress =
        s.progress ++ ks.map Inspection.progress ∧
      (targets.foldl (checkTarget machine.recording c run) s).world.2 =
        s.world.2.append ⟨ks.flatMap (·.trials), ks.flatMap (·.notes run)⟩ := by
  induction targets generalizing s with
  | nil => exact ⟨[], rfl, by simp, rfl, by simp, by simp⟩
  | cons target rest ih =>
    obtain ⟨⟨commands, htarget⟩, hrest⟩ := List.forall_mem_cons.mp hcommands
    obtain ⟨k, rfl, hk, hreport, hprogress, hworld⟩ := checkTarget_recording machine run htarget s
    obtain ⟨ks, rfl, hks, hreports, hprogresses, hworlds⟩ :=
      ih hrest (checkTarget machine.recording c run s k.target)
    rw [hreport] at hreports
    rw [hprogress] at hprogresses
    rw [hworld] at hworlds
    refine ⟨k :: ks, rfl, List.forall_mem_cons.mpr ⟨hk, hks⟩, hreports, ?_, ?_⟩
    · exact hprogresses.trans (List.append_assoc ..)
    · exact hworlds.trans (by simp [Record.append])

/-- What a status pass comes to, by the inspections that it makes in a run. -/
structure Inspected (c : Configuration) (run : Journal.Run) (ks : List Inspection)
    (r : Result StatusReport (σ × Record)) : Prop where
  targets : ks.map (·.target) = c.graph.installOrder
  faithful : ∀ k ∈ ks, k.Faithful c
  report : r.report = reportOf (ks.map (·.toCheck)) .empty
  progress : r.progress = ks.map Inspection.progress
  trials : r.world.2.trials = ks.flatMap (·.trials)
  notes : r.world.2.notes = .event (.runStarted run.id PassKind.status.name version) ::
    ks.flatMap (·.notes run) ++
    [.event (.runCompleted run.id PassKind.status.name (UInt32.ofNat r.report.installed.length)
      (UInt32.ofNat r.report.errors.length) 0 (toSeconds r.duration))]

/-- A status pass inspects the targets in the order of installation, each of them once, in the run
that it opens. -/
theorem checkAll_inspections (machine : Machine σ) {c : Configuration}
    (hcommands : ∀ n ∈ c.graph.installOrder, ∃ commands, commandsOf c n .isSetup = .ok commands)
    (w : σ) : ∃ ks, Inspected c (openRun machine .status w).1 ks
      (checkAll machine.recording c (w, ⟨[], []⟩)) := by
  let run := (openRun machine.recording .status (w, ⟨[], []⟩)).1
  obtain ⟨ks, htargets, hks, hreport, hprogress, hworld⟩ :=
    foldl_checkTarget_recording machine run hcommands
      ⟨(openRun machine.recording .status (w, ⟨[], []⟩)).2, .empty, []⟩
  refine ⟨ks, htargets, hks, hreport, hprogress, congrArg Record.trials hworld, ?_⟩
  exact congrArg (·.notes ++ [_]) hworld

theorem checkAll_inspected (machine : Machine σ) {c : Configuration}
    (hcommands : ∀ n ∈ c.graph.installOrder, ∃ commands, commandsOf c n .isSetup = .ok commands)
    (w : σ) : ∃ run ks,
      Inspected c run ks (checkAll machine.recording c (w, ⟨[], []⟩)) :=
  ⟨_, checkAll_inspections machine hcommands w⟩

/-- How the lists and the commands of a status pass come about from its checks. -/
structure Survey (c : Configuration) (checks : List Check) (report : StatusReport)
    (trials : List Trial) : Prop where
  faithful : ∀ k ∈ checks, k.Faithful c
  listed : ∀ s, report.listed s = (checks.filter (·.status = s)).map Check.target
  trials : trials = checks.flatMap Check.trials

namespace Inspected

variable {c : Configuration} {run : Journal.Run} {ks : List Inspection}
  {r : Result StatusReport (σ × Record)}

theorem checks_target (h : Inspected c run ks r) :
    (ks.map (·.toCheck)).map Check.target = c.graph.installOrder := by
  rw [List.map_map]
  exact h.targets

theorem survey (h : Inspected c run ks r) :
    Survey c (ks.map (·.toCheck)) r.report r.world.2.trials where
  faithful := by
    intro k hk
    obtain ⟨i, hi, rfl⟩ := List.mem_map.mp hk
    exact (h.faithful i hi).check
  listed := by
    intro s
    rw [h.report, listed_reportOf]
    cases s <;> rfl
  trials := by rw [h.trials, List.flatMap_map]

end Inspected

/-- A status pass checks the targets in the order of installation, each of them once. -/
theorem checkAll_survey (machine : Machine σ) {c : Configuration}
    (hcommands : ∀ n ∈ c.graph.installOrder, ∃ commands, commandsOf c n .isSetup = .ok commands)
    (w : σ) : ∃ checks : List Check, checks.map Check.target = c.graph.installOrder ∧
      Survey c checks (checkAll machine.recording c (w, ⟨[], []⟩)).report
        (checkAll machine.recording c (w, ⟨[], []⟩)).world.2.trials := by
  obtain ⟨run, ks, h⟩ := checkAll_inspected machine hcommands w
  exact ⟨_, h.checks_target, h.survey⟩

namespace Survey

variable {c : Configuration} {checks : List Check} {report : StatusReport} {trials : List Trial}

theorem mem_listed (hs : Survey c checks report trials) {s : Status} {n : String} :
    n ∈ report.listed s ↔ ∃ k ∈ checks, k.status = s ∧ k.target = n := by
  simp [hs.listed, and_assoc]

/-- Each check puts its target on one of the three lists. -/
theorem count_listed (hs : Survey c checks report trials) (n : String) :
    report.targets.count n = (checks.map Check.target).count n := by
  have hinstalled := hs.listed .installed
  have hmissing := hs.listed .missing
  have herrors := hs.listed .error
  simp only [StatusReport.listed] at hinstalled hmissing herrors
  rw [StatusReport.targets, List.count_append, List.count_append, hinstalled, hmissing, herrors]
  clear hs hinstalled hmissing herrors
  induction checks with
  | nil => rfl
  | cons k checks ih =>
    rw [List.map_cons, List.count_cons, ← ih]
    cases hk : k.status
    all_goals
      simp [hk, List.count_cons]
      omega

theorem mem_targets (hs : Survey c checks report trials) {n : String} :
    n ∈ report.targets ↔ n ∈ checks.map Check.target := by
  rw [← List.count_pos_iff, hs.count_listed, List.count_pos_iff]

theorem infix_of_mem (hs : Survey c checks report trials) {k : Check} (hk : k ∈ checks) :
    k.trials <:+: trials := by
  rw [hs.trials, List.flatMap_def]
  exact List.infix_of_mem_flatten (List.mem_map_of_mem hk)

/-- What is installed has passed its check. -/
theorem completed (hs : Survey c checks report trials) {n : String} (hn : n ∈ report.installed) :
    Completed c n .isSetup trials := by
  obtain ⟨k, hk, hstatus, rfl⟩ := hs.mem_listed (s := .installed).mp hn
  obtain ⟨commands, hcommands, ht, hclassify⟩ := hs.faithful k hk
  cases hfailure : failure? k.trials with
  | none =>
    rw [hfailure] at ht
    exact ht.completed hcommands (hs.infix_of_mem hk)
  | some output =>
    rw [hstatus, hfailure, classify] at hclassify
    split at hclassify <;> simp at hclassify

/-- Behind an error there is a command that has failed. -/
theorem failed (hs : Survey c checks report trials) {n : String} (hn : n ∈ report.errors) :
    Failed c n .isSetup trials := by
  obtain ⟨k, hk, hstatus, rfl⟩ := hs.mem_listed (s := .error).mp hn
  obtain ⟨commands, hcommands, ht, hclassify⟩ := hs.faithful k hk
  cases hfailure : failure? k.trials with
  | none => simp [hstatus, hfailure, classify] at hclassify
  | some output =>
    rw [hfailure] at ht
    exact ht.failed hcommands (hs.infix_of_mem hk)

end Survey

end Pass

end Provision
