import Provision.CommandLine.Installation
import Provision.Proofs.Pass.Evidence

namespace Provision.CommandLine

open Pass (Attempt Check Machine Record Survey Trial)

variable {σ τ : Type}

/-- The answer to the question whether to go on, which is not put where it is known. -/
def answer (confirm : σ → Bool × σ) (yes : Bool) (w : σ) : Bool × σ :=
  if yes then (true, w) else confirm w

theorem answer_fst (confirm : σ → Bool × σ) (yes : Bool) (w : σ) :
    (answer confirm yes w).1 = (yes || (confirm w).1) := by
  cases yes <;> rfl

/-- A question that is put in the world of a machine, and not to what is remembered of it. -/
def aside (confirm : σ → Bool × σ) (w : σ × Record) : Bool × (σ × Record) :=
  ((confirm w.1).1, (confirm w.1).2, w.2)

theorem answer_aside_record (confirm : σ → Bool × σ) (yes : Bool) (w : σ × Record) :
    (answer (aside confirm) yes w).2.2 = w.2 := by
  cases yes <;> rfl

theorem decision_install (machine : Machine σ) (confirm : σ → Bool × σ) (yes : Bool)
    (c : Configuration) (w : σ) :
    (install machine confirm yes c w).decision =
      let status := Pass.checkAll machine c w
      if status.report.needed.isEmpty then .nothingNeeded status.world
      else if (answer confirm yes status.world).1 then
        .attempted (Pass.installAll machine c status.report (answer confirm yes status.world).2)
      else .declined (answer confirm yes status.world).2 := by
  cases yes <;> rfl

/-- All that an installation can decide. -/
theorem install_cases (machine : Machine σ) (confirm : σ → Bool × σ) (yes : Bool)
    (c : Configuration) (w : σ) :
    let i := install machine confirm yes c w
    let a := answer confirm yes i.status.world
    (i.status.report.needed = [] ∧ i.decision = .nothingNeeded i.status.world) ∨
    (i.status.report.needed ≠ [] ∧ a.1 = false ∧ i.decision = .declined a.2) ∨
    (i.status.report.needed ≠ [] ∧ a.1 = true ∧
      i.decision = .attempted (Pass.installAll machine c i.status.report a.2)) := by
  intro i a
  have hdecision : i.decision = if i.status.report.needed.isEmpty then .nothingNeeded i.status.world
      else if a.1 then .attempted (Pass.installAll machine c i.status.report a.2)
      else .declined a.2 := decision_install machine confirm yes c w
  by_cases hneeded : i.status.report.needed = []
  · exact .inl ⟨hneeded, by simpa [hneeded] using hdecision⟩
  · cases ha : a.1 with
    | false => exact .inr (.inl ⟨hneeded, rfl, by simpa [hneeded, ha] using hdecision⟩)
    | true => exact .inr (.inr ⟨hneeded, rfl, by simpa [hneeded, ha] using hdecision⟩)

/-- What an installation has come to, in a world seen through a view. -/
def Decision.through (view : τ → σ) : Decision τ → Decision σ
  | .nothingNeeded w => .nothingNeeded (view w)
  | .declined w => .declined (view w)
  | .attempted r => .attempted (r.through view)

def Installation.through (view : τ → σ) (i : Installation τ) : Installation σ :=
  ⟨i.status.through view, i.decision.through view⟩

@[simp] theorem Installation.error?_through (view : τ → σ) (i : Installation τ)
    (logDirectory : String) : (i.through view).error? logDirectory = i.error? logDirectory := by
  rcases i with ⟨status, _ | _ | result⟩ <;> rfl

section Mirrors

variable {mirror : Machine τ} {machine : Machine σ} {view : τ → σ}
  {confirm : σ → Bool × σ} {confirm' : τ → Bool × τ}

theorem answer_mirrors (hconfirm : ∀ w, confirm (view w) = ((confirm' w).1, view (confirm' w).2))
    (yes : Bool) (w : τ) : answer confirm yes (view w) =
      ((answer confirm' yes w).1, view (answer confirm' yes w).2) := by
  cases yes with
  | true => rfl
  | false => exact hconfirm w

/-- An installation over a machine and over its mirror comes to the same result, if the answers are
the same. -/
theorem install_mirrors (hm : mirror.Mirrors machine view)
    (hconfirm : ∀ w, confirm (view w) = ((confirm' w).1, view (confirm' w).2)) (yes : Bool)
    (c : Configuration) (w : τ) : install machine confirm yes c (view w) =
      (install mirror confirm' yes c w).through view := by
  have hstatus : (install machine confirm yes c (view w)).status =
      (install mirror confirm' yes c w).status.through view := hm.checkAll c w
  have hdecision : (install machine confirm yes c (view w)).decision =
      (install mirror confirm' yes c w).decision.through view := by
    simp only [decision_install, hm.checkAll, Pass.Result.through, answer_mirrors hconfirm,
      hm.installAll]
    split
    · rfl
    · split <;> rfl
  exact congrArg₂ Installation.mk hstatus hdecision

end Mirrors

/-- What an installation has run, and what its end tells of that. Its commands are those of checks,
one for each target, and then those of attempts to set up targets that need it. -/
structure Honest (c : Configuration) (agreed : Bool) (i : Installation (σ × Record))
    (error : Option CommandError) (checks : List Check) (attempts : List Attempt) : Prop where
  checked : checks.map Check.target = c.graph.installOrder
  survey : Survey c checks i.status.report i.status.world.2.trials
  attempted : ∀ a ∈ attempts, a.target ∈ i.status.report.needed ∧ a.Faithful c
  trials : i.decision.world.2.trials =
    checks.flatMap Check.trials ++ attempts.flatMap Attempt.trials
  declined : agreed = false → attempts = []
  failed : agreed = true → (error.isSome ↔ ∃ a ∈ attempts, ∃ t ∈ a.trials, t.success = false)
  settled : agreed = true → error = none → ∀ n ∈ c.graph.names,
    n ∈ i.status.report.installed ∨ ∃ a ∈ attempts, a.target = n ∧
      Pass.commandsOf c n .setup = .ok (a.trials.map Trial.command) ∧
      ∀ t ∈ a.trials, t.success = true
  skipped : error = none → ∀ r, i.decision = .attempted r → r.report.skipped = []

section Honest

variable {c : Configuration} {agreed : Bool} {i : Installation (σ × Record)} {checks : List Check}

/-- What does not need a setup is installed, since each target has been checked. -/
theorem mem_installed_or_needed (hc : c.Loaded)
    (hchecked : checks.map Check.target = c.graph.installOrder) {report : StatusReport}
    {trials : List Trial} (hs : Survey c checks report trials) {n : String}
    (hn : n ∈ c.graph.names) : n ∈ report.installed ∨ n ∈ report.needed := by
  have htarget : n ∈ report.targets := by
    rw [hs.mem_targets, hchecked]
    exact (Graph.mem_installOrder_iff hc.source hc.acyclic).mpr hn
  rwa [StatusReport.targets, List.append_assoc, List.mem_append] at htarget

/-- An installation that sets nothing up has been refused, or nothing needed it. -/
theorem honest_of_idle (logDirectory : String) (hc : c.Loaded)
    (hchecked : checks.map Check.target = c.graph.installOrder)
    (hs : Survey c checks i.status.report i.status.world.2.trials)
    (hidle : ∀ r, i.decision ≠ .attempted r) (hw : i.decision.world.2 = i.status.world.2)
    (hneeded : agreed = true → i.status.report.needed = []) :
    Honest c agreed i (i.error? logDirectory) checks [] := by
  have herror : i.error? logDirectory = none := by
    unfold Installation.error?
    split
    · next r h => exact absurd h (hidle r)
    · rfl
  refine ⟨hchecked, hs, by simp, by simp [hw, hs.trials], fun _ => rfl, fun _ => by simp [herror],
    fun hagreed _ n hn => .inl ?_, fun _ r h => absurd h (hidle r)⟩
  exact (mem_installed_or_needed hc hchecked hs hn).resolve_right (by simp [hneeded hagreed])

/-- The end of an installation tells whether one of its attempts has failed. -/
theorem honest_of_attempted (logDirectory : String) (hc : c.Loaded)
    (hchecked : checks.map Check.target = c.graph.installOrder)
    (hs : Survey c checks i.status.report i.status.world.2.trials) (hagreed : agreed = true)
    {r : Pass.Result InstallReport (σ × Record)} (hdecision : i.decision = .attempted r)
    {h : Graph.History} {attempts : List Attempt} {own : List Trial}
    (hf : c.graph.Finished h r.report.skipped)
    (ha : Pass.Account c i.status.report.needed h attempts r.report own)
    (hw : r.world.2.trials = i.status.world.2.trials ++ own) :
    Honest c agreed i (i.error? logDirectory) checks attempts := by
  have herror : i.error? logDirectory = none ↔ r.report.errors = [] := by
    simp [Installation.error?, hdecision, InstallReport.success]
  refine ⟨hchecked, hs, fun a hmem => ?_, ?_, by simp [hagreed], fun _ => ?_,
    fun _ hnone n hn => ?_, fun hnone r' hr' => ?_⟩
  · exact ⟨(ha.mem_attempts.mp ⟨a, hmem, rfl, rfl⟩).2, ha.faithful a hmem⟩
  · rw [hdecision, Decision.world, hw, hs.trials, ha.trials]
  · rw [← ha.errors_ne_nil_iff, ← Option.ne_none_iff_isSome, ne_eq, herror]
  · exact (mem_installed_or_needed hc hchecked hs hn).imp_right
      (ha.settled hc hf (herror.mp hnone) hn)
  · obtain rfl : r = r' := by simpa [hdecision] using hr'
    exact ha.skipped_eq_nil hc hf (herror.mp hnone)

theorem exists_honest (machine : Machine σ) (confirm : σ → Bool × σ) (yes : Bool)
    (logDirectory : String) (hc : c.Loaded) (w : σ) :
    let i := install machine.recording (aside confirm) yes c (w, ⟨[], []⟩)
    ∃ checks attempts, Honest c (answer (aside confirm) yes i.status.world).1 i
      (i.error? logDirectory) checks attempts := by
  intro i
  have hcommands (n : String) (hn : n ∈ c.graph.installOrder) :=
    hc.commands n ((Graph.mem_installOrder_iff hc.source hc.acyclic).mp hn) .isSetup
  obtain ⟨checks, hchecked, hs⟩ := Pass.checkAll_survey machine hcommands w
  refine ⟨checks, ?_⟩
  have hkept := answer_aside_record confirm yes i.status.world
  obtain ⟨hneeded, hdecision⟩ | ⟨_, hanswer, hdecision⟩ | ⟨_, hanswer, hdecision⟩ :=
    install_cases machine.recording (aside confirm) yes c (w, ⟨[], []⟩)
  · exact ⟨[], honest_of_idle logDirectory hc hchecked hs (by simp [i, hdecision])
      (congrArg (·.world.2) hdecision) fun _ => hneeded⟩
  · refine ⟨[], honest_of_idle logDirectory hc hchecked hs (by simp [i, hdecision])
      ((congrArg (·.world.2) hdecision).trans hkept) fun hagreed => ?_⟩
    exact absurd hagreed (by simp [i, hanswer])
  · obtain ⟨h, attempts, own, hf, ha, hw⟩ := Pass.installAll_account_append machine hc
      i.status.report (answer (aside confirm) yes i.status.world).2.1 i.status.world.2
    rw [← hkept] at hf ha hw
    exact ⟨attempts, honest_of_attempted logDirectory hc hchecked hs hanswer hdecision hf ha
      (hw.trans (by rw [hkept]))⟩

end Honest

/-- An installation runs no setup without being told to, and then it ends well just if all that has
been run for setups has gone well. In that case no target is left behind. -/
theorem install_of_load {source text : String} {c : Configuration} {d : Document}
    (hparse : Document.parse text = .ok d) (hload : Configuration.load source text = .ok c)
    (hroot : Graph.root ∉ d.names) (machine : Machine σ) (confirm : σ → Bool × σ) (yes : Bool)
    (logDirectory : String) (w : σ) :
    let i := install machine.recording (aside confirm) yes c (w, ⟨[], []⟩)
    install machine confirm yes c w = i.through Prod.fst ∧
    ∃ checks attempts, Honest c (yes || (confirm (Pass.checkAll machine c w).world).1) i
      ((install machine confirm yes c w).error? logDirectory) checks attempts := by
  intro i
  have hsame : install machine confirm yes c w = i.through Prod.fst :=
    install_mirrors (Pass.mirrors_recording machine) (fun _ => rfl) yes c (w, ⟨[], []⟩)
  have hstatus : Pass.checkAll machine c w = i.status.through Prod.fst :=
    (Pass.mirrors_recording machine).checkAll c (w, ⟨[], []⟩)
  have hagreed : (yes || (confirm (Pass.checkAll machine c w).world).1) =
      (answer (aside confirm) yes i.status.world).1 := by
    rw [hstatus, answer_fst]
    rfl
  rw [hsame, Installation.error?_through, hagreed]
  exact ⟨rfl, exists_honest machine confirm yes logDirectory
    (Configuration.loaded_of_load hparse hload hroot) w⟩

/-- An answer that agrees as soon as anything has been run. -/
def willing (w : List String) : Bool × List String := (!w.isEmpty, w ++ ["yes"])

theorem install_blunt :
    let c := Configuration.ofDocument Configuration.workshop
    let i := install Pass.blunt.recording (aside willing) false c ([], ⟨[], []⟩)
    Graph.root ∉ Configuration.workshop.names ∧
    (install Pass.blunt willing false c []).error? "logs" = some (.setupsFailed 1 "logs") ∧
    install Pass.blunt willing false c [] = i.through Prod.fst ∧
    ∃ checks attempts, Honest c (false || (willing (Pass.checkAll Pass.blunt c []).world).1) i
      ((install Pass.blunt willing false c []).error? "logs") checks attempts := by
  have hroot : Graph.root ∉ Configuration.workshop.names := by decide
  exact ⟨hroot, by decide +kernel, install_of_load Configuration.parse_workshop
    Configuration.load_workshop hroot Pass.blunt willing false "logs" []⟩

end Provision.CommandLine
