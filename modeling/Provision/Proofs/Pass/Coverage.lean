import Provision.Proofs.Index.Declared
import Provision.Proofs.Pass.Install

namespace Provision

/-- The targets that a report of an installation tells of. -/
def InstallReport.targets (r : InstallReport) : List String := r.installed ++ r.errors ++ r.skipped

namespace Configuration

variable {source text : String} {c : Configuration} {d : Document} {n : String}

theorem mem_names_of_declared (hn : n ∈ (ofDocument d).targets.keys) (hne : n ≠ Graph.root) :
    n ∈ (ofDocument d).graph.names :=
  Graph.mem_names_ofIndex.mpr ⟨hne, .inl (DependencyIndex.mem_keys_ofDocument
    (TargetIndex.mem_keys_ofDocument.mp hn))⟩

end Configuration

namespace Pass

variable {σ : Type} {source text : String} {c : Configuration} {d : Document}

/-- A target that is dealt with: it has its one place in the order of installation, its definition
has been looked at, a status pass finds out about it once, and an install pass deals with it once if
that is needed. -/
structure Covered (c : Configuration) (machine : Machine σ) (status : StatusReport) (w : σ)
    (n : String) : Prop where
  ordered : c.graph.installOrder.count n = 1
  complete : ∃ ms, c.targets.get? n = some ms ∧ ms.IsComplete
  checked : (checkAll machine c w).report.targets.count n = 1
  installed : n ∈ status.needed → (installAll machine c status w).report.targets.count n = 1

theorem covered_of_mem_names (hparse : Document.parse text = .ok d)
    (hload : Configuration.load source text = .ok c) (hc : c.Loaded) (machine : Machine σ)
    (status : StatusReport) (w : σ) {n : String} (hn : n ∈ c.graph.names) :
    Covered c machine status w n := by
  have horder : n ∈ c.graph.installOrder :=
    (Graph.mem_installOrder_iff hc.source hc.acyclic).mpr hn
  have hordered : c.graph.installOrder.count n = 1 :=
    List.count_eq_one_of_mem (Graph.nodup_installOrder hc.source) horder
  refine ⟨hordered, ?_, ?_, fun hneeded => ?_⟩
  · obtain ⟨ms, hget, hcomplete, _⟩ := Configuration.complete_of_load hparse hload horder
    exact ⟨ms, hget, hcomplete⟩
  · obtain ⟨checks, htargets, hs⟩ := checkAll_survey machine
      (fun n hn => Configuration.commandsOf_of_load hparse hload hn .isSetup) w
    have hsame := (mirrors_recording machine).checkAll c (w, ⟨[], []⟩)
    have hcount := hs.count_listed n
    rw [htargets, hordered] at hcount
    exact (congrArg (·.report.targets.count n) hsame).trans hcount
  · obtain ⟨h, attempts, hf, ha⟩ := installAll_account machine hc status w
    have hsame := (mirrors_recording machine).installAll c status (w, ⟨[], []⟩)
    have horderly := ha.orderly hc hf
    refine (congrArg (·.report.targets.count n) hsame).trans ?_
    refine List.count_eq_one_of_mem horderly.nodup ?_
    by_cases hskipped : n ∈ (installAll machine.recording c status (w, ⟨[], []⟩)).report.skipped
    · exact List.mem_append_right _ hskipped
    · exact List.mem_append_left _
        (List.mem_append.mpr ((horderly.attempted n).mpr ⟨hn, hneeded, hskipped⟩))

/-- No target that a document declares goes unnoticed, but for the name that is kept for the start
node. -/
theorem covered_of_load (hparse : Document.parse text = .ok d)
    (hload : Configuration.load source text = .ok c)
    (hroot : ∀ r ∈ d.filterMap Item.relation?, Graph.root ∉ r.pairs.map Prod.snd)
    (machine : Machine σ) (status : StatusReport) (w : σ) :
    (∀ n, n ∈ c.targets.keys ↔ n ∈ d.filterMap Item.target?) ∧
    ∀ n ∈ c.targets.keys, n ≠ Graph.root → Covered c machine status w n := by
  have hc := Configuration.loaded_of_pairs hparse hload hroot
  have hd := ((Configuration.load_eq_ok_iff hparse).mp hload).1
  refine ⟨fun n => ?_, fun n hn hne => ?_⟩
  · rw [hd]
    exact TargetIndex.mem_keys_ofDocument
  · refine covered_of_mem_names hparse hload hc machine status w ?_
    rw [hd] at hn ⊢
    exact Configuration.mem_names_of_declared hn hne

/-- A mill that depends on a target by the name that is kept for the start node. -/
def millText : String :=
  "__START__:\n  setup: one\n  is_setup: two\n" ++
  "mill:\n  setup: three\n  is_setup: four\nmill -> __START__\n"

def mill : Document :=
  [.target Graph.root [⟨.setup, [.shell "one"], 2⟩, ⟨.isSetup, [.shell "two"], 3⟩] 1,
   .target "mill" [⟨.setup, [.shell "three"], 5⟩, ⟨.isSetup, [.shell "four"], 6⟩] 4,
   .dependency ⟨"mill", .dependsOn, [Graph.root]⟩ 7]

theorem parse_mill : Document.parse millText = .ok mill := by
  decide +kernel

theorem pairs_mill : ∀ r ∈ mill.filterMap Item.relation?, Graph.root ∉ r.pairs.map Prod.snd := by
  decide

theorem load_mill : Configuration.load "mill" millText = .ok (.ofDocument mill) :=
  Configuration.load_of_errors parse_mill (Configuration.hasSource_of_pairs pairs_mill)
    (by decide +kernel) (by decide +kernel) (by decide +kernel) (by decide +kernel)
    (by decide +kernel)

theorem covered_mill :
    (∀ r ∈ mill.filterMap Item.relation?, Graph.root ∉ r.pairs.map Prod.snd) ∧
    (∀ n, n ∈ (Configuration.ofDocument mill).targets.keys ↔
      n ∈ mill.filterMap Item.target?) ∧
    ∀ n ∈ (Configuration.ofDocument mill).targets.keys, n ≠ Graph.root →
      Covered (.ofDocument mill) sawless ⟨[], ["mill"], []⟩ [] n :=
  ⟨pairs_mill, covered_of_load parse_mill load_mill pairs_mill sawless ⟨[], ["mill"], []⟩ []⟩

/-- A target by the name of the start node is declared and never dealt with. -/
theorem not_covered_mill :
    Configuration.load "mill" millText = .ok (.ofDocument mill) ∧
    (∀ r ∈ mill.filterMap Item.relation?, Graph.root ∉ r.pairs.map Prod.snd) ∧
    ¬ ∀ n ∈ (Configuration.ofDocument mill).targets.keys,
      (Configuration.ofDocument mill).graph.installOrder.count n = 1 := by
  refine ⟨load_mill, pairs_mill, fun h => ?_⟩
  have hroot : (Configuration.ofDocument mill).graph.installOrder.count Graph.root ≠ 1 := by
    decide +kernel
  exact hroot (h Graph.root (by decide +kernel))

end Pass

end Provision
