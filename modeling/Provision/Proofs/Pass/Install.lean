import Mathlib.Data.List.Basic
import Provision.Pass.Install
import Provision.Proofs.Configuration.Loading
import Provision.Proofs.Graph.InstallOrder
import Provision.Proofs.Pass.Status

namespace Provision

/-- A report with one more target that has been tried, with success or without. -/
def InstallReport.add (r : InstallReport) (target : String) : Bool → InstallReport
  | true => { r with installed := r.installed ++ [target] }
  | false => { r with errors := r.errors ++ [target] }

namespace Pass

variable {σ τ : Type}

/-- Two install passes on their way have come to the same. -/
def Installing.Concurs (timed : Prop) (R : σ → τ → Prop) (s : Installing σ) (t : Installing τ) :
    Prop :=
  Concur timed R s.report t.report s.progress t.progress s.world t.world

namespace Machine.Agrees

variable {timed : Prop} {a : Machine σ} {b : Machine τ} {R : σ → τ → Prop} {w : σ} {v : τ}

theorem runSetup (h : a.Agrees timed b R) (hw : R w v) (c : Configuration)
    {run run' : Journal.Run} (hrun : timed → run = run') (target : String) :
    (Pass.runSetup a c run target w).1 = (Pass.runSetup b c run' target v).1 ∧
      (Pass.runSetup a c run target w).2.1 = (Pass.runSetup b c run' target v).2.1 ∧
      R (Pass.runSetup a c run target w).2.2 (Pass.runSetup b c run' target v).2.2 := by
  rw [Pass.runSetup, Pass.runSetup]
  rcases commandsOf c target .setup with reason | commands
  · exact ⟨rfl, rfl, hw⟩
  · obtain ⟨hfailure, hworld⟩ := h.runCommands hw commands
    dsimp only
    rcases hb : Pass.runCommands b commands v with ⟨failure, v'⟩
    rcases ha : Pass.runCommands a commands w with ⟨failure', w'⟩
    rw [ha, hb] at hfailure hworld
    obtain rfl : failure' = failure := hfailure
    rcases failure' with _ | output
    · exact ⟨rfl, rfl, hworld⟩
    · exact ⟨rfl, rfl, h.note (h.note hworld fun he => by rw [hrun he]) fun _ => rfl⟩

theorem setUp (h : a.Agrees timed b R) (c : Configuration) {run run' : Journal.Run}
    (hrun : timed → run = run') {s : Installing σ} {t : Installing τ}
    (hs : s.Concurs timed R t) (target : String) :
    (Pass.setUp a c run s target).1 = (Pass.setUp b c run' t target).1 ∧
      (Pass.setUp a c run s target).2.Concurs timed R (Pass.setUp b c run' t target).2 := by
  obtain ⟨hstart, hw⟩ := h.now hs.world
  obtain ⟨hsuccess, hdetail, hw⟩ := h.runSetup hw c hrun target
  obtain ⟨hstop, hw⟩ := h.now hw
  have hduration (he : timed) := congrArg₂ (· - ·) (hstop he) (hstart he)
  simp only [Pass.setUp, hsuccess]
  split
  · refine ⟨rfl, hs.add ?_ ?_ hduration (h.note hw fun he => ?_)⟩
    · rw [hs.report]
    · simp only [told, hdetail]
    · exact congrArg (fun duration =>
        Journal.Entry.event (.targetInstalled target (toSeconds duration))) (hduration he)
  · refine ⟨rfl, hs.add ?_ ?_ hduration hw⟩
    · rw [hs.report]
    · simp only [told, hdetail]

theorem visit (h : a.Agrees timed b R) (c : Configuration) {run run' : Journal.Run}
    (hrun : timed → run = run') (needed : List String) {s : Installing σ} {t : Installing τ}
    (hs : s.Concurs timed R t) (target : String) :
    (Pass.visit a c run needed s target).1 = (Pass.visit b c run' needed t target).1 ∧
      (Pass.visit a c run needed s target).2.Concurs timed R
        (Pass.visit b c run' needed t target).2 := by
  simp only [Pass.visit]
  split
  · exact h.setUp c hrun hs target
  · exact ⟨rfl, hs⟩

theorem foldl_skip (h : a.Agrees timed b R) (skipped : List String) {s : Installing σ}
    {t : Installing τ} (hs : s.Concurs timed R t) :
    (skipped.foldl (Pass.skip a) s).Concurs timed R (skipped.foldl (Pass.skip b) t) := by
  induction skipped generalizing s t with
  | nil => exact hs
  | cons target rest ih =>
    exact ih (hs.add hs.report rfl (fun _ => rfl) (h.note hs.world fun _ => rfl))

/-- Install passes over machines that do alike come to the same. -/
theorem installAll (h : a.Agrees timed b R) (c : Configuration) (status : StatusReport)
    (hw : R w v) :
    (Pass.installAll a c status w).Concurs timed R (Pass.installAll b c status v) := by
  obtain ⟨hrun, hw⟩ := h.openRun hw .install
  have hstart : (⟨_, .empty, []⟩ : Installing σ).Concurs timed R ⟨_, .empty, []⟩ :=
    Concur.start InstallReport.empty hw
  obtain ⟨hskipped, hs⟩ :=
    Graph.walk_agree (g := c.graph) (h.visit c hrun status.needed) hstart
  rw [Pass.installAll, Pass.installAll]
  dsimp only
  rw [hskipped]
  generalize (c.graph.walk (Pass.visit b c _ status.needed) _).1 = skipped
  have hs := h.foldl_skip skipped hs
  obtain ⟨htotal, hw⟩ := h.closeRun hs.world .install hrun
    (congrArg (·.installed.length) hs.report) (congrArg (·.errors.length) hs.report) rfl
  exact ⟨⟨by rw [hs.report], hs.told, hs.exactly, hw⟩, htotal⟩

end Machine.Agrees

/-- A pass over a machine and over its mirror comes to the same result. -/
theorem Machine.Mirrors.installAll {mirror : Machine τ} {machine : Machine σ} {view : τ → σ}
    (hm : mirror.Mirrors machine view) (c : Configuration) (status : StatusReport) (w : τ) :
    Pass.installAll machine c status (view w) =
      (Pass.installAll mirror c status w).through view :=
  (hm.agrees.installAll c status rfl).eq_through

/-- What a machine keeps is kept by an install pass. -/
theorem Machine.Keeps.installAll {machine : Machine σ} {I : σ → Prop} (h : machine.Keeps I)
    (c : Configuration) (status : StatusReport) {w : σ} (hw : I w) :
    I (Pass.installAll machine c status w).world :=
  (h.agrees.installAll c status ⟨rfl, hw⟩).concur.world.2

/-- What a user is told of a setup. -/
def setupDetail (commands : List String) : Option Output → String
  | none => preview commands
  | some output => singleLine output.stderr

/-- What is noted of a setup that fails. -/
def failureNotes (run : Journal.Run) (target : String) : Option Output → List Journal.Entry
  | none => []
  | some output =>
    [.output run target .setup output, .event (.targetFailed target .setup output.exit)]

theorem runSetup_recording (machine : Machine σ) {c : Configuration} (run : Journal.Run)
    {target : String} {commands : List String}
    (hcommands : commandsOf c target .setup = .ok commands) (w : σ × Record) : ∃ trials v,
      Tried commands trials (failure? trials).isNone ∧
      runSetup machine.recording c run target w =
        ((failure? trials).isNone, setupDetail commands (failure? trials), v,
          w.2.append ⟨trials, failureNotes run target (failure? trials)⟩) := by
  obtain ⟨trials, v, ht, hrun⟩ := runCommands_recording machine commands w
  rw [runSetup, hcommands]
  dsimp only
  rw [hrun]
  cases hf : failure? trials with
  | none => exact ⟨trials, v, ht, by rw [hf]; rfl⟩
  | some output =>
    let noted := machine.note (.output run target .setup output) v
    refine ⟨trials, machine.note (.event (.targetFailed target .setup output.exit)) noted, ht, ?_⟩
    rw [hf]
    simp [Machine.recording, Record.append, failureNotes, setupDetail, noted]

/-- A target that an install pass has set up: the commands that it has run for it, and whether
they came to a success. -/
structure Attempt where
  target : String
  trials : List Trial
  success : Bool

/-- The commands are those of the target, tried up to the first failure. -/
def Attempt.Faithful (c : Configuration) (a : Attempt) : Prop :=
  ∃ commands, commandsOf c a.target .setup = .ok commands ∧ Tried commands a.trials a.success

theorem Attempt.Faithful.complete {c : Configuration} {a : Attempt} (h : a.Faithful c)
    (hs : a.success = true) : commandsOf c a.target .setup = .ok (a.trials.map Trial.command) ∧
      ∀ t ∈ a.trials, t.success = true := by
  obtain ⟨commands, hcommands, ht⟩ := h
  obtain ⟨rfl, hall⟩ := ht.complete hs
  exact ⟨hcommands, hall⟩

/-- An attempt is a failure just if a command of it is. -/
theorem Attempt.Faithful.success_eq_false_iff {c : Configuration} {a : Attempt}
    (h : a.Faithful c) : a.success = false ↔ ∃ t ∈ a.trials, t.success = false := by
  constructor
  · intro hs
    obtain ⟨commands, _, ht⟩ := h
    obtain ⟨t, hmem, _, hfail⟩ := ht.exists_failure hs
    exact ⟨t, hmem, hfail⟩
  · rintro ⟨t, hmem, hfail⟩
    by_contra hs
    exact absurd ((h.complete (Bool.eq_true_of_not_eq_false hs)).2 t hmem) (by simp [hfail])

/-- An attempt with all the commands of its target, and with the time that it took. -/
structure Operation extends Attempt where
  commands : List String
  duration : Nat

namespace Operation

/-- What a user is told. -/
def progress (o : Operation) : Progress :=
  ⟨o.target, if o.success then .installed else .error,
    setupDetail o.commands (failure? o.trials), o.duration⟩

/-- What is noted, in the run of a pass. -/
def notes (run : Journal.Run) (o : Operation) : List Journal.Entry :=
  failureNotes run o.target (failure? o.trials) ++
    if o.success then [.event (.targetInstalled o.target (toSeconds o.duration))] else []

def Faithful (c : Configuration) (o : Operation) : Prop :=
  commandsOf c o.target .setup = .ok o.commands ∧ Tried o.commands o.trials o.success ∧
    o.success = (failure? o.trials).isNone

theorem Faithful.attempt {c : Configuration} {o : Operation} (h : o.Faithful c) :
    o.toAttempt.Faithful c :=
  ⟨o.commands, h.1, h.2.1⟩

end Operation

/-- All that the setup of a target does. -/
theorem setUp_recording (machine : Machine σ) {c : Configuration} (run : Journal.Run)
    {target : String} {commands : List String}
    (hcommands : commandsOf c target .setup = .ok commands) (s : Installing (σ × Record)) :
    ∃ o : Operation, o.target = target ∧ o.Faithful c ∧
      (setUp machine.recording c run s target).1 = o.success ∧
      (setUp machine.recording c run s target).2.report = s.report.add target o.success ∧
      (setUp machine.recording c run s target).2.progress = s.progress ++ [o.progress] ∧
      (setUp machine.recording c run s target).2.world.2 =
        s.world.2.append ⟨o.trials, o.notes run⟩ := by
  obtain ⟨trials, v, ht, hsetup⟩ :=
    runSetup_recording machine run hcommands (machine.recording.now s.world).2
  let o : Operation := ⟨⟨target, trials, (failure? trials).isNone⟩, commands,
    (machine.now v).1 - (machine.now s.world.1).1⟩
  refine ⟨o, rfl, ⟨hcommands, ht, rfl⟩, ?_⟩
  simp only [setUp, hsetup]
  cases hfailure : failure? trials
  all_goals
    refine ⟨by simp [o, hfailure], by simp [o, hfailure, InstallReport.add], ?_, ?_⟩
    · simp [o, hfailure, Operation.progress, Machine.recording]
    · simp [o, hfailure, Operation.notes, Machine.recording, Record.append]

/-- How the visits of an install pass come about from its attempts, and what it has to show for
them. -/
structure Account (c : Configuration) (needed : List String) (h : Graph.History)
    (attempts : List Attempt) (report : InstallReport) (trials : List Trial) : Prop where
  visits : h.filter (·.1 ∈ needed) = attempts.map fun a => (a.target, a.success)
  passed : ∀ v ∈ h, v.1 ∉ needed → v.2 = true
  faithful : ∀ a ∈ attempts, a.Faithful c
  installed : report.installed = (attempts.filter (·.success)).map Attempt.target
  errors : report.errors = (attempts.filter (!·.success)).map Attempt.target
  trials : trials = attempts.flatMap Attempt.trials

namespace Account

variable {c : Configuration} {needed : List String} {h : Graph.History} {attempts : List Attempt}
  {report : InstallReport} {trials : List Trial}

/-- One more visit, and one more attempt for it. -/
theorem add (ha : Account c needed h attempts report trials) {a : Attempt}
    (hneeded : a.target ∈ needed) (hfaithful : a.Faithful c) :
    Account c needed (h ++ [(a.target, a.success)]) (attempts ++ [a])
      (report.add a.target a.success) (trials ++ a.trials) where
  visits := by simp [ha.visits, hneeded]
  passed := by simpa [or_imp, forall_and, hneeded] using ha.passed
  faithful := by simpa [or_imp, forall_and, hfaithful] using ha.faithful
  installed := by cases hs : a.success <;> simp [InstallReport.add, ha.installed, hs]
  errors := by cases hs : a.success <;> simp [InstallReport.add, ha.errors, hs]
  trials := by simp [ha.trials]

/-- One more visit that leaves its target alone. -/
theorem pass (ha : Account c needed h attempts report trials) {target : String}
    (hneeded : target ∉ needed) :
    Account c needed (h ++ [(target, true)]) attempts report trials where
  visits := by simp [ha.visits, hneeded]
  passed := by simpa [or_imp, forall_and] using ha.passed
  faithful := ha.faithful
  installed := ha.installed
  errors := ha.errors
  trials := ha.trials

theorem mem_attempts (ha : Account c needed h attempts report trials) {n : String} {b : Bool} :
    (∃ a ∈ attempts, a.target = n ∧ a.success = b) ↔ (n, b) ∈ h ∧ n ∈ needed := by
  have hmem : (n, b) ∈ h.filter (·.1 ∈ needed) ↔ (n, b) ∈ h ∧ n ∈ needed := by simp
  rw [← hmem, ha.visits]
  simp

theorem mem_installed (ha : Account c needed h attempts report trials) {n : String} :
    n ∈ report.installed ↔ (n, true) ∈ h ∧ n ∈ needed := by
  rw [← ha.mem_attempts, ha.installed]
  simp [and_assoc, and_comm, and_left_comm]

theorem needed_of_failed (ha : Account c needed h attempts report trials) {n : String}
    (hfail : (n, false) ∈ h) : n ∈ needed := by
  by_contra hneeded
  exact Bool.false_ne_true (ha.passed _ hfail hneeded)

theorem mem_errors (ha : Account c needed h attempts report trials) {n : String} :
    n ∈ report.errors ↔ (n, false) ∈ h := by
  have hmem : n ∈ report.errors ↔ (n, false) ∈ h ∧ n ∈ needed := by
    rw [← ha.mem_attempts, ha.errors]
    simp [and_assoc, and_comm, and_left_comm]
  rw [hmem, and_iff_left_iff_imp]
  exact ha.needed_of_failed

/-- The needed targets are attempted, but for those that are left out. -/
theorem attempted (ha : Account c needed h attempts report trials)
    (hf : c.graph.Finished h report.skipped) {n : String} :
    n ∈ report.installed ∨ n ∈ report.errors ↔
      n ∈ c.graph.names ∧ n ∈ needed ∧ n ∉ report.skipped := by
  rw [ha.mem_installed, ha.mem_errors]
  constructor
  · rintro (⟨hvisit, hneeded⟩ | hvisit)
    · exact ⟨(hf.visited hvisit).1, hneeded, (hf.visited hvisit).2⟩
    · exact ⟨(hf.visited hvisit).1, ha.needed_of_failed hvisit, (hf.visited hvisit).2⟩
  · rintro ⟨hn, hneeded, hskipped⟩
    have hmem : n ∈ h.map Prod.fst := by
      by_contra hmem
      exact hskipped ((hf.mem_unvisited n).mpr ⟨hn, hmem⟩)
    obtain ⟨⟨n, b⟩, hvisit, rfl⟩ := List.mem_map.mp hmem
    cases b with
    | true => exact .inl ⟨hvisit, hneeded⟩
    | false => exact .inr hvisit

theorem nodup (ha : Account c needed h attempts report trials) (hs : c.graph.Schedule h) :
    (report.installed ++ report.errors).Nodup := by
  have htargets : (attempts.map Attempt.target).Nodup := by
    have hfilter := hs.nodup.sublist ((List.filter_sublist (p := (·.1 ∈ needed))).map Prod.fst)
    simpa [ha.visits, Function.comp_def] using hfilter
  have hperm := (List.filter_append_perm (·.success) attempts).map Attempt.target
  rw [List.map_append, ← ha.installed, ← ha.errors] at hperm
  exact hperm.nodup_iff.mpr htargets

/-- The list on which the target of an attempt stands tells how the attempt went. -/
theorem mem_report (ha : Account c needed h attempts report trials) (hs : c.graph.Schedule h)
    {a : Attempt} (hmem : a ∈ attempts) :
    (a.target ∈ report.installed ↔ a.success = true) ∧
      (a.target ∈ report.errors ↔ a.success = false) := by
  have hdisjoint := (List.nodup_append.mp (ha.nodup hs)).2.2
  have hnot (hi : a.target ∈ report.installed) (he : a.target ∈ report.errors) : False :=
    hdisjoint _ hi _ he rfl
  have hinstalled (hsuccess : a.success = true) : a.target ∈ report.installed := by
    rw [ha.installed]
    exact List.mem_map_of_mem (List.mem_filter.mpr ⟨hmem, hsuccess⟩)
  have herrors (hfail : a.success = false) : a.target ∈ report.errors := by
    rw [ha.errors]
    exact List.mem_map_of_mem (List.mem_filter.mpr ⟨hmem, by simp [hfail]⟩)
  cases h : a.success with
  | true => exact ⟨iff_of_true (hinstalled h) rfl, iff_of_false (hnot (hinstalled h)) (by simp)⟩
  | false => exact ⟨iff_of_false (hnot · (herrors h)) (by simp), iff_of_true (herrors h) rfl⟩

/-- By the time of an attempt the needed targets that its own depends on have been set up. -/
theorem before (ha : Account c needed h attempts report trials) (hs : c.graph.Schedule h)
    (hg : c.graph.HasSource) {earlier later : List Attempt} {a : Attempt}
    (he : attempts = earlier ++ a :: later) {p : String} (hneeded : p ∈ needed)
    (hroot : p ≠ Graph.root) (hr : c.graph.Reaches p a.target) :
    ∃ b ∈ earlier, b.target = p ∧ b.success = true := by
  have hvisits := ha.visits
  rw [he, List.map_append, List.map_cons, List.filter_eq_append_iff] at hvisits
  obtain ⟨first, rest, rfl, hfirst, hrest⟩ := hvisits
  obtain ⟨idle, last, rfl, hidle, _, _⟩ := List.filter_eq_cons_iff.mp hrest
  rw [← List.append_assoc] at hs
  have hp := (hs.reaches_before hg hr rfl).resolve_left hroot
  rcases List.mem_append.mp hp with hp | hp
  · have hmem : (p, true) ∈ first.filter (·.1 ∈ needed) := by simp [hp, hneeded]
    rw [hfirst] at hmem
    simpa using hmem
  · exact absurd (by simpa using hneeded) (hidle _ hp)

theorem infix_of_mem (ha : Account c needed h attempts report trials) {a : Attempt}
    (hmem : a ∈ attempts) : a.trials <:+: trials := by
  rw [ha.trials, List.flatMap_def]
  exact List.infix_of_mem_flatten (List.mem_map_of_mem hmem)

theorem failed (ha : Account c needed h attempts report trials) {n : String}
    (hn : n ∈ report.errors) : Failed c n .setup trials := by
  rw [ha.errors] at hn
  obtain ⟨a, hmem, rfl⟩ := List.mem_map.mp hn
  obtain ⟨hmem, hsuccess⟩ := List.mem_filter.mp hmem
  have hfail : a.success = false := by simpa using hsuccess
  obtain ⟨commands, hcommands, ht⟩ := ha.faithful a hmem
  rw [hfail] at ht
  exact ht.failed hcommands (ha.infix_of_mem hmem)

/-- There is an error just if a command of an attempt has failed. -/
theorem errors_ne_nil_iff (ha : Account c needed h attempts report trials) :
    report.errors ≠ [] ↔ ∃ a ∈ attempts, ∃ t ∈ a.trials, t.success = false := by
  have herrors : report.errors ≠ [] ↔ ∃ a ∈ attempts, a.success = false := by
    rw [ha.errors]
    simp [List.filter_eq_nil_iff]
  rw [herrors]
  exact exists_congr fun a => and_congr_right fun hmem => (ha.faithful a hmem).success_eq_false_iff

theorem skipped_eq_nil (ha : Account c needed h attempts report trials) (hc : c.Loaded)
    (hf : c.graph.Finished h report.skipped) (herrors : report.errors = []) :
    report.skipped = [] := by
  refine List.eq_nil_iff_forall_not_mem.mpr fun n hn => ?_
  obtain ⟨e, he, _⟩ := (hf.mem_unvisited_iff hc.source hc.acyclic).mp hn
  exact absurd (ha.mem_errors.mpr he) (by simp [herrors])

/-- Without an error all that is needed has been set up. -/
theorem settled (ha : Account c needed h attempts report trials) (hc : c.Loaded)
    (hf : c.graph.Finished h report.skipped) (herrors : report.errors = []) {n : String}
    (hn : n ∈ c.graph.names) (hneeded : n ∈ needed) : ∃ a ∈ attempts, a.target = n ∧
      commandsOf c n .setup = .ok (a.trials.map Trial.command) ∧
      ∀ t ∈ a.trials, t.success = true := by
  have hskipped : n ∉ report.skipped := by simp [ha.skipped_eq_nil hc hf herrors]
  have hinstalled : n ∈ report.installed :=
    ((ha.attempted hf).mpr ⟨hn, hneeded, hskipped⟩).resolve_right (by simp [herrors])
  obtain ⟨a, hmem, rfl, hsuccess⟩ := ha.mem_attempts.mpr (ha.mem_installed.mp hinstalled)
  exact ⟨a, hmem, rfl, (ha.faithful a hmem).complete hsuccess⟩

end Account

/-- What the visits of an install pass on its way have come to, by the operations that they have
made in a run. -/
structure Performed (c : Configuration) (needed : List String) (run : Journal.Run)
    (opening : List Journal.Entry) (h : Graph.History) (os : List Operation)
    (s : Installing (σ × Record)) : Prop
    extends Account c needed h (os.map (·.toAttempt)) s.report s.world.2.trials where
  performed : ∀ o ∈ os, o.Faithful c
  progress : s.progress = os.map Operation.progress
  notes : s.world.2.notes = opening ++ os.flatMap (·.notes run)

/-- One more visit needs at most one more operation. -/
theorem Performed.visit {c : Configuration} {needed : List String} {run : Journal.Run}
    {opening : List Journal.Entry} {h : Graph.History} {os : List Operation} {machine : Machine σ}
    {s : Installing (σ × Record)} (hp : Performed c needed run opening h os s) {target : String}
    {commands : List String} (hcommands : commandsOf c target .setup = .ok commands) : ∃ os',
      Performed c needed run opening
        (h ++ [(target, (visit machine.recording c run needed s target).1)]) os'
        (visit machine.recording c run needed s target).2 := by
  rw [Pass.visit]
  split
  · next hneeded =>
    obtain ⟨o, rfl, ho, hsuccess, hreport, hprogress, hrecord⟩ :=
      setUp_recording machine run hcommands s
    refine ⟨os ++ [o], ?_, ?_, ?_, ?_⟩
    · rw [hsuccess, hreport, hrecord, List.map_append]
      exact hp.toAccount.add hneeded ho.attempt
    · simpa [or_imp, forall_and, ho] using hp.performed
    · rw [hprogress, hp.progress, List.map_append]
      rfl
    · rw [hrecord]
      simp [Record.append, hp.notes]
  · next hneeded =>
    exact ⟨os, hp.toAccount.pass hneeded, hp.performed, hp.progress, hp.notes⟩

/-- What is told of a target that is left out. -/
def skippedProgress (target : String) : Progress := ⟨target, .skipped, "dependency failure", 0⟩

theorem foldl_skip_recording (machine : Machine σ) (skipped : List String)
    (s : Installing (σ × Record)) :
    (skipped.foldl (skip machine.recording) s).report = s.report ∧
    (skipped.foldl (skip machine.recording) s).progress =
      s.progress ++ skipped.map skippedProgress ∧
    (skipped.foldl (skip machine.recording) s).world.2 =
      s.world.2.append ⟨[], skipped.map fun n => .event (.targetSkipped n)⟩ := by
  induction skipped generalizing s with
  | nil => exact ⟨rfl, by simp, by simp⟩
  | cons target rest ih =>
    obtain ⟨hreport, hprogress, hrecord⟩ := ih (skip machine.recording s target)
    refine ⟨hreport, hprogress.trans ?_, hrecord.trans ?_⟩
    · simp [skip, skippedProgress]
    · simp [skip, Machine.recording, Record.append]

theorem runSetup_completed (machine : Machine σ) (c : Configuration) (run : Journal.Run)
    (target : String) (w : σ × Record) : ∃ own,
      (runSetup machine.recording c run target w).2.2.2.trials = w.2.trials ++ own ∧
      ((runSetup machine.recording c run target w).1 = true →
        commandsOf c target .setup = .ok (own.map Trial.command) ∧
          ∀ t ∈ own, t.success = true) := by
  cases hcommands : commandsOf c target .setup with
  | error reason => exact ⟨[], by simp [runSetup, hcommands]⟩
  | ok commands =>
    obtain ⟨own, _, ht, hrun⟩ := runSetup_recording machine run hcommands w
    rw [hrun]
    refine ⟨own, rfl, fun hsuccess => ?_⟩
    obtain ⟨rfl, hall⟩ := ht.complete hsuccess
    exact ⟨rfl, hall⟩

theorem visit_completed (machine : Machine σ) (c : Configuration) (run : Journal.Run)
    (needed : List String) (s : Installing (σ × Record)) (target : String)
    (hs : ∀ n ∈ s.report.installed, Completed c n .setup s.world.2.trials) :
    ∀ n ∈ (visit machine.recording c run needed s target).2.report.installed,
      Completed c n .setup (visit machine.recording c run needed s target).2.world.2.trials := by
  rw [visit]
  split
  · obtain ⟨own, hw, hown⟩ :=
      runSetup_completed machine c run target (machine.recording.now s.world).2
    rcases hrun : runSetup machine.recording c run target (machine.recording.now s.world).2 with
      ⟨success, detail, w⟩
    rw [hrun] at hw hown
    have htrials : w.2.trials = s.world.2.trials ++ own := hw
    intro n hn
    simp only [setUp, hrun] at hn ⊢
    cases success with
    | false =>
      have hkept := (hs n hn).append own
      rwa [← htrials] at hkept
    | true =>
      change Completed c n .setup w.2.trials
      rw [htrials]
      rcases List.mem_append.mp hn with hn | hn
      · exact (hs n hn).append own
      · obtain rfl := List.mem_singleton.mp hn
        obtain ⟨hcommands, hall⟩ := hown rfl
        exact ⟨own, (List.suffix_append _ own).isInfix, hcommands, hall⟩
  · exact hs

/-- What an install pass reports as installed has been set up, in any configuration. -/
theorem installAll_completed (machine : Machine σ) (c : Configuration) (status : StatusReport)
    (w : σ) {n : String}
    (hn : n ∈ (installAll machine.recording c status (w, ⟨[], []⟩)).report.installed) :
    Completed c n .setup
      (installAll machine.recording c status (w, ⟨[], []⟩)).world.2.trials := by
  let run := (openRun machine.recording .install (w, ⟨[], []⟩)).1
  let w' := (openRun machine.recording .install (w, ⟨[], []⟩)).2
  let r := c.graph.walk (visit machine.recording c run status.needed) ⟨w', .empty, []⟩
  have hwalk : ∀ n ∈ r.2.report.installed, Completed c n .setup r.2.world.2.trials :=
    Graph.walkFrom_keeps (visit_completed machine c run status.needed)
      (by simp [InstallReport.empty]) _ _
  obtain ⟨hreport, _, hrecord⟩ := foldl_skip_recording machine r.1 r.2
  have htrials : (r.1.foldl (skip machine.recording) r.2).world.2.trials = r.2.world.2.trials := by
    rw [hrecord]
    simp [Record.append]
  have hinstalled : n ∈ r.2.report.installed :=
    (congrArg InstallReport.installed hreport) ▸ hn
  have hcompleted := hwalk n hinstalled
  rw [← htrials] at hcompleted
  exact hcompleted

/-- What an install pass comes to, by the visits and the operations that it makes in a run. -/
structure Operated (c : Configuration) (needed : List String) (run : Journal.Run)
    (h : Graph.History) (os : List Operation) (r : Result InstallReport (σ × Record)) : Prop
    extends Account c needed h (os.map (·.toAttempt)) r.report r.world.2.trials where
  finished : c.graph.Finished h r.report.skipped
  order : h.map Prod.fst = c.graph.installOrder.filter (· ∉ r.report.skipped)
  performed : ∀ o ∈ os, o.Faithful c
  progress : r.progress = os.map Operation.progress ++ r.report.skipped.map skippedProgress
  notes : r.world.2.notes = .event (.runStarted run.id PassKind.install.name version) ::
    os.flatMap (·.notes run) ++ r.report.skipped.map (fun n => .event (.targetSkipped n)) ++
    [.event (.runCompleted run.id PassKind.install.name (UInt32.ofNat r.report.installed.length)
      (UInt32.ofNat r.report.errors.length) (UInt32.ofNat r.report.skipped.length)
      (toSeconds r.duration))]

/-- An install pass over a loaded configuration comes about from operations, in the run that it
opens. -/
theorem installAll_operations (machine : Machine σ) {c : Configuration} (hc : c.Loaded)
    (status : StatusReport) (w : σ) : ∃ h os,
      Operated c status.needed (openRun machine .install w).1 h os
        (installAll machine.recording c status (w, ⟨[], []⟩)) := by
  let run := (openRun machine.recording .install (w, ⟨[], []⟩)).1
  let w' := (openRun machine.recording .install (w, ⟨[], []⟩)).2
  have hstart : Performed c status.needed run w'.2.notes [] [] ⟨w', .empty, []⟩ :=
    ⟨⟨rfl, by simp, by simp, rfl, rfl, rfl⟩, by simp, rfl, (List.append_nil _).symm⟩
  obtain ⟨h, ⟨os, hp⟩, hf, horder⟩ := Graph.walk_induct hc.source
    (visit machine.recording c run status.needed)
    (I := fun h s => ∃ os, Performed c status.needed run w'.2.notes h os s) ⟨[], hstart⟩
    fun h s n ⟨os, hp⟩ hs => by
      obtain ⟨commands, hcommands⟩ := hc.commands n (hs.mem_names (by simp)) .setup
      exact hp.visit hcommands
  -- What is left out is told of after the walk and adds no command.
  let walked := c.graph.walk (visit machine.recording c run status.needed) ⟨w', .empty, []⟩
  obtain ⟨hreport, hprogress, hrecord⟩ := foldl_skip_recording machine walked.1 walked.2
  have hnotes := congrArg Record.notes hrecord
  rw [Record.append, hp.notes] at hnotes
  rw [hp.progress] at hprogress
  refine ⟨h, os, ⟨hp.visits, hp.passed, hp.faithful, ?_, ?_, ?_⟩, hf, horder, hp.performed,
    hprogress, congrArg (· ++ [_]) hnotes⟩
  · exact (congrArg InstallReport.installed hreport).trans hp.installed
  · exact (congrArg InstallReport.errors hreport).trans hp.errors
  · have htrials := congrArg Record.trials hrecord
    rw [Record.append, List.append_nil] at htrials
    exact htrials.trans hp.trials

theorem installAll_operated (machine : Machine σ) {c : Configuration} (hc : c.Loaded)
    (status : StatusReport) (w : σ) : ∃ run h os,
      Operated c status.needed run h os
        (installAll machine.recording c status (w, ⟨[], []⟩)) :=
  ⟨_, installAll_operations machine hc status w⟩

/-- Every install pass over a loaded configuration can be accounted for. -/
theorem installAll_account (machine : Machine σ) {c : Configuration} (hc : c.Loaded)
    (status : StatusReport) (w : σ) : ∃ h attempts,
      c.graph.Finished h (installAll machine.recording c status (w, ⟨[], []⟩)).report.skipped ∧
      Account c status.needed h attempts
        (installAll machine.recording c status (w, ⟨[], []⟩)).report
        (installAll machine.recording c status (w, ⟨[], []⟩)).world.2.trials := by
  obtain ⟨run, h, os, ho⟩ := installAll_operated machine hc status w
  exact ⟨h, _, ho.finished, ho.toAccount⟩

/-- A pass adds to what is remembered from before, and does not look at it. -/
theorem installAll_account_append (machine : Machine σ) {c : Configuration} (hc : c.Loaded)
    (status : StatusReport) (w : σ) (r : Record) : ∃ h attempts own,
      c.graph.Finished h (installAll machine.recording c status (w, r)).report.skipped ∧
      Account c status.needed h attempts (installAll machine.recording c status (w, r)).report own ∧
      (installAll machine.recording c status (w, r)).world.2.trials = r.trials ++ own := by
  have hsame : installAll machine.recording c status (w, r) =
      (installAll machine.recording c status (w, ⟨[], []⟩)).through
        fun w => (w.1, r.append w.2) := by
    simpa using (mirrors_append machine r).installAll c status (w, ⟨[], []⟩)
  obtain ⟨h, attempts, hf, ha⟩ := installAll_account machine hc status w
  rw [hsame]
  exact ⟨h, attempts, _, hf, ha, rfl⟩

/-- What an install pass keeps to. Its commands come in attempts, one after the other, and an
attempt is made only when all that its target needs has been set up. -/
structure Orderly (c : Configuration) (needed : List String) (report : InstallReport)
    (trials : List Trial) : Prop where
  nodup : (report.installed ++ report.errors ++ report.skipped).Nodup
  attempted : ∀ n, n ∈ report.installed ∨ n ∈ report.errors ↔
    n ∈ c.graph.names ∧ n ∈ needed ∧ n ∉ report.skipped
  skipped : ∀ n, n ∈ report.skipped ↔ ∃ e ∈ report.errors, c.graph.Reaches e n
  ordered : ∃ attempts : List Attempt, trials = attempts.flatMap Attempt.trials ∧
    report.installed = (attempts.filter (·.success)).map Attempt.target ∧
    report.errors = (attempts.filter (!·.success)).map Attempt.target ∧
    (∀ a ∈ attempts, a.target ∈ needed ∧ a.target ∉ report.skipped ∧ a.Faithful c) ∧
    ∀ earlier a later, attempts = earlier ++ a :: later →
      ∀ p ∈ needed, p ∈ c.graph.names → c.graph.Reaches p a.target →
        ∃ b ∈ earlier, b.target = p ∧
          commandsOf c p .setup = .ok (b.trials.map Trial.command) ∧
          ∀ t ∈ b.trials, t.success = true

theorem Account.orderly {c : Configuration} {needed : List String} {h : Graph.History}
    {attempts : List Attempt} {report : InstallReport} {trials : List Trial}
    (ha : Account c needed h attempts report trials) (hc : c.Loaded)
    (hf : c.graph.Finished h report.skipped) : Orderly c needed report trials := by
  refine ⟨?_, fun n => ha.attempted hf, fun n => ?_, attempts, ha.trials, ha.installed,
    ha.errors, fun a hmem => ?_, ?_⟩
  · refine List.nodup_append.mpr ⟨ha.nodup hf.schedule, hf.sorted.imp ne_of_lt, ?_⟩
    rintro n hn _ hskipped rfl
    exact ((ha.attempted hf).mp (List.mem_append.mp hn)).2.2 hskipped
  · rw [hf.mem_unvisited_iff hc.source hc.acyclic]
    simp only [ha.mem_errors]
  · obtain ⟨hvisit, hneeded⟩ := ha.mem_attempts.mp ⟨a, hmem, rfl, rfl⟩
    exact ⟨hneeded, (hf.visited hvisit).2, ha.faithful a hmem⟩
  · intro earlier a later he p hneeded hp hr
    have hroot : p ≠ Graph.root := fun hroot => c.graph.root_not_mem (hroot ▸ hp)
    obtain ⟨b, hb, rfl, hsuccess⟩ := ha.before hf.schedule hc.source he hneeded hroot hr
    have hfaithful := ha.faithful b (he ▸ List.mem_append_left _ hb)
    exact ⟨b, hb, rfl, hfaithful.complete hsuccess⟩

/-- An install pass of a configuration that has been loaded is orderly, whatever the machine. -/
theorem installAll_of_load {source text : String} {c : Configuration} {d : Document}
    (hparse : Document.parse text = .ok d) (hload : Configuration.load source text = .ok c)
    (hroot : Graph.root ∉ d.names) (machine : Machine σ) (status : StatusReport) (w : σ) :
    (installAll machine.recording c status (w, ⟨[], []⟩)).through Prod.fst =
      installAll machine c status w ∧
    Orderly c status.needed (installAll machine c status w).report
      (installAll machine.recording c status (w, ⟨[], []⟩)).world.2.trials := by
  have hc := Configuration.loaded_of_load hparse hload hroot
  have hsame : installAll machine c status w =
      (installAll machine.recording c status (w, ⟨[], []⟩)).through Prod.fst :=
    (mirrors_recording machine).installAll c status (w, ⟨[], []⟩)
  obtain ⟨h, attempts, hf, ha⟩ := installAll_account machine hc status w
  rw [hsame]
  exact ⟨rfl, ha.orderly hc hf⟩

/-- A machine without a saw: one command cannot be run there. It remembers what it was asked. -/
def sawless : Machine (List String) where
  run command w :=
    (if command = "four" then .error "no saw" else .ok ⟨0, "", ""⟩, w ++ [command])
  now w := (0, w)
  note _ w := w

theorem installAll_sawless :
    Graph.root ∉ Configuration.workshop.names ∧
    (installAll sawless (.ofDocument Configuration.workshop)
      ⟨[], ["base", "saw"], ["drill"]⟩ []).report = ⟨["base"], ["saw"], ["drill"]⟩ ∧
    (installAll sawless.recording (.ofDocument Configuration.workshop)
      ⟨[], ["base", "saw"], ["drill"]⟩ ([], ⟨[], []⟩)).through Prod.fst =
        installAll sawless (.ofDocument Configuration.workshop)
          ⟨[], ["base", "saw"], ["drill"]⟩ [] ∧
    Orderly (.ofDocument Configuration.workshop) ["base", "saw", "drill"]
      (installAll sawless (.ofDocument Configuration.workshop)
        ⟨[], ["base", "saw"], ["drill"]⟩ []).report
      (installAll sawless.recording (.ofDocument Configuration.workshop)
        ⟨[], ["base", "saw"], ["drill"]⟩ ([], ⟨[], []⟩)).world.2.trials := by
  have hroot : Graph.root ∉ Configuration.workshop.names := by decide
  exact ⟨hroot, by decide +kernel, installAll_of_load Configuration.parse_workshop
    Configuration.load_workshop hroot sawless ⟨[], ["base", "saw"], ["drill"]⟩ []⟩

end Pass

end Provision
