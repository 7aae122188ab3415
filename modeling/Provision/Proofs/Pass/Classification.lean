import Provision.Proofs.Configuration.Loading
import Provision.Proofs.Pass.Status

namespace Provision.Pass

variable {σ : Type} {c : Configuration}

/-- Commands have been run with success up to the last one, which was none. -/
def EndedBy (trials : List Trial) (last : Trial) : Prop :=
  last.success = false ∧ ∃ earlier, trials = earlier ++ [last] ∧ ∀ t ∈ earlier, t.success = true

theorem EndedBy.failure?_eq {trials : List Trial} {last : Trial} (h : EndedBy trials last) :
    failure? trials = some last.output := by
  obtain ⟨hlast, earlier, rfl, hearlier⟩ := h
  have hnone : earlier.find? (!·.success) = none :=
    List.find?_eq_none.mpr fun t ht => by simp [hearlier t ht]
  simp [failure?, List.find?_append, hnone, hlast]

theorem Tried.exists_endedBy {commands : List String} {trials : List Trial} {success : Bool}
    (ht : Tried commands trials success) (hs : success = false) :
    ∃ last, EndedBy trials last := by
  induction ht with
  | nil => cases hs
  | success ht _ ih =>
    obtain ⟨last, hlast, earlier, rfl, hearlier⟩ := ih hs
    exact ⟨last, hlast, _ :: earlier, rfl, List.forall_mem_cons.mpr ⟨ht, hearlier⟩⟩
  | failure rest hfail => exact ⟨_, hfail, [], rfl, by simp⟩

/-- Only a command that has been run can say that something is not installed. -/
theorem Trial.exit_output_eq_missingExit_iff (t : Trial) :
    t.output.exit = missingExit ↔ ∃ output, t.answer = .ok output ∧ output.exit = 1 := by
  cases h : t.answer <;> simp [Trial.output, h, missingExit]

namespace Check.Faithful

variable {k : Check}

theorem status_eq_installed_iff (hk : k.Faithful c) : k.status = .installed ↔
    commandsOf c k.target .isSetup = .ok (k.trials.map Trial.command) ∧
      ∀ t ∈ k.trials, t.success = true := by
  obtain ⟨commands, hcommands, ht, hstatus⟩ := hk
  cases hf : failure? k.trials with
  | none =>
    rw [hf] at ht hstatus
    obtain ⟨rfl, hall⟩ := ht.complete rfl
    exact iff_of_true hstatus ⟨hcommands, hall⟩
  | some output =>
    rw [hf] at ht hstatus
    obtain ⟨t, hmem, _, hfail⟩ := ht.exists_failure rfl
    refine iff_of_false ?_ fun h => by simp [h.2 t hmem] at hfail
    rw [hstatus, classify]
    split <;> simp

/-- Where a check does not find its target installed, its last command was the first failure. -/
theorem status_eq_classify_iff (hk : k.Faithful c) {s : Status} (hs : s ≠ .installed) :
    k.status = s ↔ ∃ last, EndedBy k.trials last ∧ classify (some last.output) = s := by
  obtain ⟨commands, hcommands, ht, hstatus⟩ := hk
  constructor
  · rintro rfl
    cases hf : failure? k.trials with
    | none => simp [hstatus, hf, classify] at hs
    | some output =>
      rw [hf] at ht
      obtain ⟨last, hlast⟩ := ht.exists_endedBy rfl
      exact ⟨last, hlast, by rw [hstatus, hlast.failure?_eq]⟩
  · rintro ⟨last, hlast, rfl⟩
    rw [hstatus, hlast.failure?_eq]

theorem status_eq_missing_iff (hk : k.Faithful c) : k.status = .missing ↔
    ∃ last output, EndedBy k.trials last ∧ last.answer = .ok output ∧ output.exit = 1 := by
  rw [hk.status_eq_classify_iff (by simp)]
  simp [classify, Trial.exit_output_eq_missingExit_iff]

theorem status_eq_error_iff (hk : k.Faithful c) : k.status = .error ↔
    ∃ last, EndedBy k.trials last ∧ ∀ output, last.answer = .ok output → output.exit ≠ 1 := by
  rw [hk.status_eq_classify_iff (by simp)]
  simp [classify, Trial.exit_output_eq_missingExit_iff]

end Check.Faithful

/-- A check runs the commands of its target up to the first that is no success, and what they have
answered puts the target on one of the lists of a report. -/
structure Check.Judged (c : Configuration) (report : StatusReport) (k : Check) : Prop where
  tried : ∃ commands success, commandsOf c k.target .isSetup = .ok commands ∧
    Tried commands k.trials success
  installed : k.target ∈ report.installed ↔
    commandsOf c k.target .isSetup = .ok (k.trials.map Trial.command) ∧
      ∀ t ∈ k.trials, t.success = true
  missing : k.target ∈ report.missing ↔
    ∃ last output, EndedBy k.trials last ∧ last.answer = .ok output ∧ output.exit = 1
  errors : k.target ∈ report.errors ↔
    ∃ last, EndedBy k.trials last ∧ ∀ output, last.answer = .ok output → output.exit ≠ 1

/-- What a status pass keeps to: it goes through all targets in the order of installation, tells of
each of them once, and has each of them on one list. -/
structure Classified (c : Configuration) (report : StatusReport) (progress : List Progress)
    (trials : List Trial) : Prop where
  perm : report.targets.Perm c.graph.names
  nodup : report.targets.Nodup
  ordered : ∀ s, (report.listed s).Sublist c.graph.installOrder
  told : progress.map (·.target) = c.graph.installOrder
  stated : ∀ p ∈ progress, ∃ s : Status, p.state = s.state ∧ p.target ∈ report.listed s
  checked : ∃ checks : List Check, checks.map Check.target = c.graph.installOrder ∧
    trials = checks.flatMap Check.trials ∧ ∀ k ∈ checks, k.Judged c report

namespace Survey

variable {checks : List Check} {report : StatusReport} {trials : List Trial}

theorem target_mem_listed_iff (hs : Survey c checks report trials)
    (hnodup : (checks.map Check.target).Nodup) {k : Check} (hk : k ∈ checks) (s : Status) :
    k.target ∈ report.listed s ↔ k.status = s := by
  rw [hs.mem_listed]
  constructor
  · rintro ⟨k', hk', hstatus, htarget⟩
    rwa [← List.inj_on_of_nodup_map hnodup hk' hk htarget]
  · rintro hstatus
    exact ⟨k, hk, hstatus, rfl⟩

theorem judged (hs : Survey c checks report trials) (hnodup : (checks.map Check.target).Nodup)
    {k : Check} (hk : k ∈ checks) : k.Judged c report := by
  have hfaithful := hs.faithful k hk
  have hlisted := hs.target_mem_listed_iff hnodup hk
  obtain ⟨commands, hcommands, ht, _⟩ := hs.faithful k hk
  exact ⟨⟨commands, _, hcommands, ht⟩,
    (hlisted .installed).trans hfaithful.status_eq_installed_iff,
    (hlisted .missing).trans hfaithful.status_eq_missing_iff,
    (hlisted .error).trans hfaithful.status_eq_error_iff⟩

theorem listed_sublist (hs : Survey c checks report trials) (s : Status) :
    (report.listed s).Sublist (checks.map Check.target) := by
  rw [hs.listed]
  exact List.filter_sublist.map _

theorem targets_perm (hs : Survey c checks report trials) :
    report.targets.Perm (checks.map Check.target) :=
  List.perm_iff_count.mpr hs.count_listed

end Survey

theorem Inspected.classified {run : Journal.Run} {ks : List Inspection}
    {r : Result StatusReport (σ × Record)} (h : Inspected c run ks r) (hc : c.Loaded) :
    Classified c r.report r.progress r.world.2.trials := by
  have htargets := h.checks_target
  have horder := Graph.nodup_installOrder hc.source
  have hnodup := htargets ▸ horder
  have hperm := htargets ▸ h.survey.targets_perm
  refine ⟨?_, hperm.nodup_iff.mpr horder, fun s => htargets ▸ h.survey.listed_sublist s, ?_, ?_,
    ks.map (·.toCheck), htargets, h.survey.trials, fun k hk => h.survey.judged hnodup hk⟩
  · refine hperm.trans ((List.perm_ext_iff_of_nodup horder c.graph.nodup_names).mpr fun n => ?_)
    exact Graph.mem_installOrder_iff hc.source hc.acyclic
  · rw [h.progress, List.map_map]
    exact h.targets
  · intro p hp
    rw [h.progress] at hp
    obtain ⟨k, hk, rfl⟩ := List.mem_map.mp hp
    have hmem : k.toCheck ∈ ks.map (·.toCheck) := List.mem_map_of_mem hk
    exact ⟨k.status, rfl, (h.survey.target_mem_listed_iff hnodup hmem k.status).mpr rfl⟩

/-- A status pass of a configuration that has been loaded puts each target where its commands say
that it belongs, whatever the machine. -/
theorem classified_of_load {source text : String} {d : Document}
    (hparse : Document.parse text = .ok d) (hload : Configuration.load source text = .ok c)
    (hroot : Graph.root ∉ d.names) (machine : Machine σ) (w : σ) :
    let checked := checkAll machine.recording c (w, ⟨[], []⟩)
    checkAll machine c w = checked.through Prod.fst ∧
      Classified c checked.report checked.progress checked.world.2.trials := by
  have hc := Configuration.loaded_of_load hparse hload hroot
  have hcommands (n : String) (hn : n ∈ c.graph.installOrder) :=
    hc.commands n (Graph.mem_names_of_mem_installOrder hc.source hn) .isSetup
  obtain ⟨run, ks, h⟩ := checkAll_inspected machine hcommands w
  exact ⟨(mirrors_recording machine).checkAll c (w, ⟨[], []⟩), h.classified hc⟩

/-- A machine whose saw has been lent to somebody, and whose drill does not answer. It remembers
what it was asked. -/
def lent : Machine (List String) where
  run command w :=
    (if command = "seven" then .error "no answer"
      else .ok ⟨if command = "five" then 1 else 0, "", ""⟩, w ++ [command])
  now w := (0, w)
  note _ w := w

theorem classified_lent :
    let c := Configuration.ofDocument Configuration.workshop
    let checked := checkAll lent.recording c ([], ⟨[], []⟩)
    Graph.root ∉ Configuration.workshop.names ∧
      checked.report = ⟨["base"], ["saw"], ["drill"]⟩ ∧
      checkAll lent c [] = checked.through Prod.fst ∧
      Classified c checked.report checked.progress checked.world.2.trials := by
  have hroot : Graph.root ∉ Configuration.workshop.names := by decide
  exact ⟨hroot, by decide +kernel, classified_of_load Configuration.parse_workshop
    Configuration.load_workshop hroot lent []⟩

end Provision.Pass
