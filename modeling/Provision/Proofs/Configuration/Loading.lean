import Provision.Configuration.Basic
import Provision.Pass.Machine
import Provision.Proofs.Configuration.Validation
import Provision.Proofs.Index.Declared

namespace Provision.Configuration

variable {source text : String} {c : Configuration} {d : Document}

theorem load_eq_ok_iff (hparse : Document.parse text = .ok d) :
    load source text = .ok c ↔
      c = ofDocument d ∧ Validation.validate c.targets c.recipes c.graph = .ok () := by
  simp only [load, hparse]
  constructor
  · intro h
    split at h
    · simp at h
    · next hvalid =>
      obtain rfl : ofDocument d = c := by simpa using h
      exact ⟨rfl, hvalid⟩
  · rintro ⟨rfl, hvalid⟩
    simp [hvalid]

/-- The start node depends on nothing in a document that does not name it. -/
theorem hasSource_ofDocument (hroot : Graph.root ∉ d.names) : (ofDocument d).graph.HasSource :=
  Graph.hasSource_ofIndex fun _ h => hroot (DependencyIndex.mem_names_of_requires h).1

/-- To find a cycle is not needed to see that there is none: the order of installation is complete
then. -/
theorem load_of_errors (hparse : Document.parse text = .ok d)
    (hs : (ofDocument d).graph.HasSource)
    (hnames : ∀ n ∈ (ofDocument d).graph.names, n ∈ (ofDocument d).graph.installOrder)
    (hdefinitions : (ofDocument d).graph.installOrder.findSome?
      (Validation.definitionError? (ofDocument d).targets) = none)
    (hrecipes : Validation.callError? (Validation.recipeError? (ofDocument d).recipes)
      (ofDocument d).targets = none)
    (harities : Validation.callError? (Validation.arityError? (ofDocument d).recipes)
      (ofDocument d).targets = none)
    (hexpansions : Validation.expansionError? (ofDocument d).recipes (ofDocument d).targets = none) :
    load source text = .ok (ofDocument d) := by
  have hcycle : (ofDocument d).graph.findCycle = none :=
    (Graph.findCycle_eq_none_iff hs).mpr (Graph.acyclic_of_installOrder hs hnames)
  exact (load_eq_ok_iff hparse).mpr ⟨rfl, Validation.validate_eq_ok_iff_errors.mpr
    ⟨hdefinitions, hcycle, hrecipes, harities, hexpansions⟩⟩

theorem edge_ofDocument {p n : String} (hp : p ≠ Graph.root) :
    (ofDocument d).graph.Edge p n ↔ ∃ r ∈ d.filterMap Item.relation?, (p, n) ∈ r.pairs :=
  (Graph.edge_ofIndex hp).trans DependencyIndex.requires_ofDocument

/-- What loading makes sure of. -/
structure Loaded (c : Configuration) : Prop where
  source : c.graph.HasSource
  acyclic : c.graph.Acyclic
  commands : ∀ n ∈ c.graph.names, ∀ m, ∃ commands, Pass.commandsOf c n m = .ok commands

/-- What is on the way of an installation has a definition, and commands for both methods. -/
theorem complete_of_load (hparse : Document.parse text = .ok d)
    (hload : load source text = .ok c) {n : String} (hn : n ∈ c.graph.installOrder) :
    ∃ ms, c.targets.get? n = some ms ∧ ms.IsComplete ∧
      ∀ m, ∃ commands, c.recipes.commands ms m = .ok commands := by
  obtain ⟨rfl, hvalid⟩ := (load_eq_ok_iff hparse).mp hload
  obtain ⟨hcomplete, _, _, hexpansions⟩ := Validation.validate_eq_ok_iff.mp hvalid
  obtain ⟨ms, hget, hms⟩ := hcomplete n hn
  exact ⟨ms, hget, hms, hexpansions (n, ms) ((ofDocument d).targets.get?_eq_some_iff.mp hget)⟩

theorem commandsOf_of_load (hparse : Document.parse text = .ok d)
    (hload : load source text = .ok c) {n : String} (hn : n ∈ c.graph.installOrder) (m : Method) :
    ∃ commands, Pass.commandsOf c n m = .ok commands := by
  obtain ⟨ms, hget, _, hexpansions⟩ := complete_of_load hparse hload hn
  obtain ⟨commands, hcommands⟩ := hexpansions m
  exact ⟨commands, by simp [Pass.commandsOf, hget, hcommands]⟩

theorem loaded_of_hasSource (hparse : Document.parse text = .ok d)
    (hload : load source text = .ok c) (hs : c.graph.HasSource) : c.Loaded := by
  have hvalid := ((load_eq_ok_iff hparse).mp hload).2
  have ha := (Graph.findCycle_eq_none_iff hs).mp (Validation.validate_eq_ok_iff.mp hvalid).2.1
  exact ⟨hs, ha, fun n hn => commandsOf_of_load hparse hload
    ((Graph.mem_installOrder_iff hs ha).mpr hn)⟩

theorem loaded_of_load (hparse : Document.parse text = .ok d) (hload : load source text = .ok c)
    (hroot : Graph.root ∉ d.names) : c.Loaded := by
  refine loaded_of_hasSource hparse hload ?_
  rw [((load_eq_ok_iff hparse).mp hload).1]
  exact hasSource_ofDocument hroot

/-- It is enough that no relation makes the start node depend on something. -/
theorem hasSource_of_pairs
    (hroot : ∀ r ∈ d.filterMap Item.relation?, Graph.root ∉ r.pairs.map Prod.snd) :
    (ofDocument d).graph.HasSource := by
  refine Graph.hasSource_ofIndex fun p hp => ?_
  obtain ⟨r, hr, hpair⟩ := DependencyIndex.requires_ofDocument.mp hp
  exact hroot r hr (List.mem_map_of_mem (f := Prod.snd) hpair)

theorem loaded_of_pairs (hparse : Document.parse text = .ok d) (hload : load source text = .ok c)
    (hroot : ∀ r ∈ d.filterMap Item.relation?, Graph.root ∉ r.pairs.map Prod.snd) : c.Loaded := by
  refine loaded_of_hasSource hparse hload ?_
  rw [((load_eq_ok_iff hparse).mp hload).1]
  exact hasSource_of_pairs hroot

/-- A dependency that a document declares is met before what depends on it, and the graph holds no
other between targets. -/
theorem installOrder_of_load (hparse : Document.parse text = .ok d)
    (hload : load source text = .ok c) (hroot : Graph.root ∉ d.names) :
    (∀ r ∈ d.filterMap Item.relation?, ∀ p n, (p, n) ∈ r.pairs →
      c.graph.installOrder.count p = 1 ∧ c.graph.installOrder.count n = 1 ∧
        c.graph.installOrder.idxOf p < c.graph.installOrder.idxOf n) ∧
    ∀ p n, p ≠ Graph.root → c.graph.Edge p n →
      ∃ r ∈ d.filterMap Item.relation?, (p, n) ∈ r.pairs := by
  have hc := loaded_of_load hparse hload hroot
  obtain ⟨rfl, _⟩ := (load_eq_ok_iff hparse).mp hload
  refine ⟨fun r hr p n hp => ?_, fun p n hne he => (edge_ofDocument hne).mp he⟩
  have hne : p ≠ Graph.root := by
    rintro rfl
    have hrequires := DependencyIndex.requires_ofDocument.mpr ⟨r, hr, hp⟩
    exact hroot (DependencyIndex.mem_names_of_requires hrequires).2
  have he : (ofDocument d).graph.Edge p n := (edge_ofDocument hne).mpr ⟨r, hr, hp⟩
  have hn := he.target hc.source
  have hpn : p ∈ (ofDocument d).graph.names :=
    (List.mem_cons.mp ((ofDocument d).graph.ends_mem _ he).1).resolve_left hne
  have hcount {x : String} (hx : x ∈ (ofDocument d).graph.names) :
      (ofDocument d).graph.installOrder.count x = 1 :=
    List.count_eq_one_of_mem (Graph.nodup_installOrder hc.source)
      ((Graph.mem_installOrder_iff hc.source hc.acyclic).mpr hx)
  exact ⟨hcount hpn, hcount hn, Graph.idxOf_lt_of_edge hc.source he hne
    ((Graph.mem_installOrder_iff hc.source hc.acyclic).mpr hn)⟩

/-- A workshop in which two tools need a common base, and one of them the other too. -/
def workshopText : String :=
  "base:\n  setup:\n    one\n    two\n  is_setup: three\n" ++
  "saw:\n  setup: four\n  is_setup: five\nsaw -> base\nbase <- drill saw\n" ++
  "drill:\n  setup: six\n  is_setup: seven\ndrill -> saw\n"

def workshop : Document :=
  [.target "base" [⟨.setup, [.shell "one", .shell "two"], 2⟩,
     ⟨.isSetup, [.shell "three"], 5⟩] 1,
   .target "saw" [⟨.setup, [.shell "four"], 7⟩, ⟨.isSetup, [.shell "five"], 8⟩] 6,
   .dependency ⟨"saw", .dependsOn, ["base"]⟩ 9,
   .dependency ⟨"base", .dependedUpon, ["drill", "saw"]⟩ 10,
   .target "drill" [⟨.setup, [.shell "six"], 12⟩, ⟨.isSetup, [.shell "seven"], 13⟩] 11,
   .dependency ⟨"drill", .dependsOn, ["saw"]⟩ 14]

theorem parse_workshop : Document.parse workshopText = .ok workshop := by
  decide +kernel

theorem load_workshop : load "workshop" workshopText = .ok (ofDocument workshop) :=
  load_of_errors parse_workshop (hasSource_ofDocument (by decide +kernel)) (by decide +kernel)
    (by decide +kernel) (by decide +kernel) (by decide +kernel) (by decide +kernel)

theorem installOrder_workshop :
    Graph.root ∉ workshop.names ∧
    (∀ r ∈ workshop.filterMap Item.relation?, ∀ p n, (p, n) ∈ r.pairs →
      (ofDocument workshop).graph.installOrder.count p = 1 ∧
        (ofDocument workshop).graph.installOrder.count n = 1 ∧
        (ofDocument workshop).graph.installOrder.idxOf p <
          (ofDocument workshop).graph.installOrder.idxOf n) ∧
    ∀ p n, p ≠ Graph.root → (ofDocument workshop).graph.Edge p n →
      ∃ r ∈ workshop.filterMap Item.relation?, (p, n) ∈ r.pairs := by
  have hroot : Graph.root ∉ workshop.names := by decide
  exact ⟨hroot, installOrder_of_load parse_workshop load_workshop hroot⟩

end Provision.Configuration
