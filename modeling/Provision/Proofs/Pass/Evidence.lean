import Provision.Proofs.Pass.Install

namespace Provision

/-- The targets that an install pass has tried to set up. -/
def InstallReport.attempted (r : InstallReport) : List String := r.installed ++ r.errors

namespace Pass

variable {σ : Type} {source text : String} {c : Configuration} {d : Document}

/-- The targets that a pass deals with are in the order of installation, all that are there have
commands, and behind each error that is reported there is a command that has failed. -/
structure Substantiated (c : Configuration) (m : Method) (targets errors : List String)
    (trials : List Trial) : Prop where
  ordered : ∀ n ∈ targets, n ∈ c.graph.installOrder
  commands : ∀ n ∈ c.graph.installOrder, ∃ commands, commandsOf c n m = .ok commands
  failed : ∀ n ∈ errors, Failed c n m trials

theorem checkAll_substantiated (hparse : Document.parse text = .ok d)
    (hload : Configuration.load source text = .ok c) (machine : Machine σ) (w : σ) :
    Substantiated c .isSetup (checkAll machine.recording c (w, ⟨[], []⟩)).report.targets
      (checkAll machine.recording c (w, ⟨[], []⟩)).report.errors
      (checkAll machine.recording c (w, ⟨[], []⟩)).world.2.trials := by
  have hcommands (n : String) (hn : n ∈ c.graph.installOrder) :=
    Configuration.commandsOf_of_load hparse hload hn .isSetup
  obtain ⟨checks, htargets, hs⟩ := checkAll_survey machine hcommands w
  exact ⟨fun n hn => htargets ▸ hs.mem_targets.mp hn, hcommands, fun n => hs.failed⟩

theorem installAll_substantiated (hparse : Document.parse text = .ok d)
    (hload : Configuration.load source text = .ok c) (machine : Machine σ) (hc : c.Loaded)
    (status : StatusReport) (w : σ) :
    Substantiated c .setup (installAll machine.recording c status (w, ⟨[], []⟩)).report.attempted
      (installAll machine.recording c status (w, ⟨[], []⟩)).report.errors
      (installAll machine.recording c status (w, ⟨[], []⟩)).world.2.trials := by
  obtain ⟨h, attempts, hf, ha⟩ := installAll_account machine hc status w
  refine ⟨fun n hn => ?_, fun n hn => Configuration.commandsOf_of_load hparse hload hn .setup,
    fun n => ha.failed⟩
  have hn : n ∈ c.graph.names := ((ha.attempted hf).mp (List.mem_append.mp hn)).1
  exact (Graph.mem_installOrder_iff hc.source hc.acyclic).mpr hn

/-- What a pass deals with is never without commands, so no error comes without a failing one. -/
theorem substantiated_of_load (hparse : Document.parse text = .ok d)
    (hload : Configuration.load source text = .ok c)
    (hroot : ∀ r ∈ d.filterMap Item.relation?, Graph.root ∉ r.pairs.map Prod.snd)
    (machine : Machine σ) (status : StatusReport) (w : σ) :
    let checked := checkAll machine.recording c (w, ⟨[], []⟩)
    let installed := installAll machine.recording c status (w, ⟨[], []⟩)
    (checkAll machine c w = checked.through Prod.fst ∧
      Substantiated c .isSetup checked.report.targets checked.report.errors
        checked.world.2.trials) ∧
    (installAll machine c status w = installed.through Prod.fst ∧
      Substantiated c .setup installed.report.attempted installed.report.errors
        installed.world.2.trials) := by
  have hc := Configuration.loaded_of_pairs hparse hload hroot
  exact ⟨⟨(mirrors_recording machine).checkAll c (w, ⟨[], []⟩),
      checkAll_substantiated hparse hload machine w⟩,
    (mirrors_recording machine).installAll c status (w, ⟨[], []⟩),
    installAll_substantiated hparse hload machine hc status w⟩

/-- A machine with a blunt saw: the check of the saw finds fault with it, and the command that puts
another one in place cannot be run. -/
def blunt : Machine (List String) where
  run command w :=
    (if command = "four" then .error "no saw"
      else .ok ⟨if command = "five" then 2 else 0, "", ""⟩, w ++ [command])
  now w := (0, w)
  note _ w := w

theorem substantiated_blunt :
    let c := Configuration.ofDocument Configuration.workshop
    let checked := checkAll blunt.recording c ([], ⟨[], []⟩)
    let installed := installAll blunt.recording c checked.report ([], ⟨[], []⟩)
    (∀ r ∈ Configuration.workshop.filterMap Item.relation?,
      Graph.root ∉ r.pairs.map Prod.snd) ∧
    (checked.report = ⟨["base", "drill"], [], ["saw"]⟩ ∧
      installed.report = ⟨[], ["saw"], ["drill"]⟩) ∧
    (checkAll blunt c [] = checked.through Prod.fst ∧
      Substantiated c .isSetup checked.report.targets checked.report.errors
        checked.world.2.trials) ∧
    (installAll blunt c checked.report [] = installed.through Prod.fst ∧
      Substantiated c .setup installed.report.attempted installed.report.errors
        installed.world.2.trials) := by
  have hroot : ∀ r ∈ Configuration.workshop.filterMap Item.relation?,
      Graph.root ∉ r.pairs.map Prod.snd := by decide
  exact ⟨hroot, ⟨by decide +kernel, by decide +kernel⟩, substantiated_of_load
    Configuration.parse_workshop Configuration.load_workshop hroot blunt _ []⟩

end Pass

end Provision
