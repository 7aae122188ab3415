import Provision.Proofs.Graph.Cycle
import Provision.Proofs.Graph.Walk

namespace Provision

namespace Traversal

variable {g : Graph} {log log' : Log} {t t' : Traversal}

theorem Ended.line_eq (ht : Ended g log t) :
    Graph.Line.after g (log.length + 1) = ⟨log.told, []⟩ := by
  simpa [ht.current_eq_none, ht.queue_eq_nil] using ht.line

/-- Which targets report in a walk, and in which order, does not depend on how any of them went. -/
theorem Ended.told_eq (ht : Ended g log t) (ht' : Ended g log' t') :
    log.map Prod.fst = log'.map Prod.fst := by
  have hends := Graph.Line.after_eq_of_waiting_eq_nil
    (congrArg Graph.Line.waiting ht.line_eq) (congrArg Graph.Line.waiting ht'.line_eq)
  rw [ht.line_eq, ht'.line_eq] at hends
  simpa [Log.told] using hends

/-- Where nothing fails, nothing is skipped, so the order of installation is that of the reports. -/
theorem Ended.told_eq_installOrder (ht : Ended g log t) (hs : g.HasSource) :
    log.map Prod.fst = g.installOrder := by
  obtain ⟨order, u, hend, hhistory⟩ := Graph.installOrder_log hs
  have hskips : ∀ e ∈ order, e.2 ≠ .skipped := by
    intro e he ho
    obtain ⟨f, hf, _⟩ := hend.blamed e he ho
    have hfailure : (f, false) ∈ order.history := Log.mem_history.mpr hf
    simp [hhistory] at hfailure
  have hall : order.filter (·.2 ≠ .skipped) = order := by
    simpa [List.filter_eq_self] using hskips
  calc log.map Prod.fst = order.map Prod.fst := ht.told_eq hend
    _ = order.history.map Prod.fst := by rw [Log.map_fst_history, hall]
    _ = g.installOrder := by simp [hhistory, Function.comp_def]

private theorem eq_filter_of_sublist {l l' : List String} (h : l.Sublist l') (hn : l'.Nodup) :
    l = l'.filter (· ∈ l) := by
  have hself : l.filter (· ∈ l) = l := by simp [List.filter_eq_self]
  have hsub := h.filter (· ∈ l)
  rw [hself] at hsub
  have hsubset : l'.filter (· ∈ l) ⊆ l := fun n hn => by simpa using (List.mem_filter.mp hn).2
  exact hsub.eq_of_length_le ((hn.filter _).subperm hsubset).length_le

/-- The visits are what has reported without what was left out. -/
theorem Ended.visited_eq_filter (ht : Ended g log t) :
    t.visited = (log.map Prod.fst).filter (· ∉ unvisited g t) := by
  have hmem {n : String} (hn : n ∈ log.map Prod.fst) : n ∈ t.released log :=
    List.mem_append_left _ hn
  have hnodup : (log.map Prod.fst).Nodup := (List.nodup_append.mp ht.nodup).1
  have hsub : t.visited.Sublist (log.map Prod.fst) := by
    rw [ht.visited, Log.map_fst_history]
    exact List.filter_sublist.map _
  refine (eq_filter_of_sublist hsub hnodup).trans (List.filter_congr fun n hn => ?_)
  have hnames := ((ht.released n).mp (hmem hn)).1
  simp [mem_unvisited, hnames]

/-- Failures take targets out of the order of installation and leave the others as they are. -/
theorem visits_eq_filter_installOrder (hs : g.HasSource) (flags : Nat → Bool) :
    ∃ visits unvisited,
      answers g (start g) ((List.range (visits.length + 1)).map flags) =
        visits.map .visit ++ [.done unvisited] ∧
      visits = g.installOrder.filter (· ∉ unvisited) := by
  obtain ⟨visits, log, t, hanswers, hend, hlog⟩ := (Sound.start hs).run_log hs flags
  have hvisits : t.visited = visits := by
    rw [hend.visited, hlog]
    simpa using map_fst_reported flags visits
  refine ⟨visits, unvisited g t, hanswers, ?_⟩
  rw [← hend.told_eq_installOrder hs, ← hend.visited_eq_filter, hvisits]

/-- Two branches of different length that come together. -/
def branches : Graph :=
  (Graph.Draft.ofCalls [.edge "a" "b", .edge "a" "c", .edge "b" "d", .edge "d" "e", .edge "c" "f",
    .edge "e" "f", .edge "c" "g"]).build

/-- The longer branch breaks at its start. -/
theorem visits_branches :
    branches.HasSource ∧ ∃ visits unvisited,
      answers branches (start branches)
          ((List.range (visits.length + 1)).map fun i => decide (i ≠ 2)) =
        visits.map .visit ++ [.done unvisited] ∧
      visits = branches.installOrder.filter (· ∉ unvisited) := by
  have hs : branches.HasSource := by
    refine Graph.Draft.hasSource_build fun p => ?_
    simp [Graph.Draft.mem_edges_ofCalls, Graph.root]
  exact ⟨hs, visits_eq_filter_installOrder hs _⟩

end Traversal

namespace Graph

variable {g : Graph} {σ : Type}

/-- What each visit keeps holds at the end of a walk, whose visits are the order of installation
without what is left out. -/
theorem walk_induct (hs : g.HasSource) (visit : σ → String → Bool × σ) {I : History → σ → Prop}
    {s : σ} (hstart : I [] s)
    (hstep : ∀ h s n, I h s → g.Schedule (h ++ [(n, (visit s n).1)]) →
      I (h ++ [(n, (visit s n).1)]) (visit s n).2) :
    ∃ h, I h (g.walk visit s).2 ∧ g.Finished h (g.walk visit s).1 ∧
      h.map Prod.fst = g.installOrder.filter (· ∉ (g.walk visit s).1) := by
  obtain ⟨log, t, hend, hI, hunvisited⟩ := walk_log hs visit hstart hstep
  rw [hunvisited]
  refine ⟨log.history, hI, hend.finished, ?_⟩
  rw [← hend.visited, hend.visited_eq_filter, hend.told_eq_installOrder hs]

/-- The search for a cycle and the order of installation agree on what a cycle keeps back. -/
theorem acyclic_iff_findCycle_and_perm (hs : g.HasSource) :
    (g.findCycle = none ↔ g.Acyclic) ∧ (g.Acyclic ↔ g.installOrder.Perm g.names) ∧
    ∀ n, n ∈ g.installOrder ↔
      n ∈ g.names ∧ ¬ g.Reaches n n ∧ ∀ c, g.Reaches c c → ¬ g.Reaches c n := by
  refine ⟨findCycle_eq_none_iff hs, ⟨fun ha => ?_, fun hp => ?_⟩, fun n => ?_⟩
  · rw [List.perm_ext_iff_of_nodup (nodup_installOrder hs) g.nodup_names]
    exact fun n => mem_installOrder_iff hs ha
  · exact acyclic_of_installOrder hs fun n hn => hp.mem_iff.mpr hn
  · rw [mem_installOrder hs]
    constructor
    · rintro ⟨hn, hclear⟩
      exact ⟨hn, fun hr => hclear n hr hr, hclear⟩
    · rintro ⟨hn, _, hclear⟩
      exact ⟨hn, hclear⟩

/-- A cycle of two, with one target before it and one behind it. -/
def looped : Graph :=
  (Draft.ofCalls [.edge "a" "b", .edge "b" "c", .edge "c" "b", .edge "c" "d", .node "e"]).build

theorem findCycle_looped :
    looped.HasSource ∧ (looped.findCycle = none ↔ looped.Acyclic) ∧
    (looped.Acyclic ↔ looped.installOrder.Perm looped.names) ∧
    ∀ n, n ∈ looped.installOrder ↔
      n ∈ looped.names ∧ ¬ looped.Reaches n n ∧
        ∀ c, looped.Reaches c c → ¬ looped.Reaches c n := by
  have hs : looped.HasSource := by
    refine Draft.hasSource_build fun p => ?_
    simp [Draft.mem_edges_ofCalls, root]
  exact ⟨hs, acyclic_iff_findCycle_and_perm hs⟩

/-- The start node waits for a target that waits for itself. -/
def tangled : Graph :=
  (Draft.ofCalls [.edge "knot" "knot", .edge "knot" root, .node "free"]).build

/-- The start node counts as done from the beginning, so what hangs on it is in the order even where
the start node itself is behind a cycle. -/
theorem installOrder_tangled :
    ¬ ∀ n, n ∈ tangled.installOrder ↔
      n ∈ tangled.names ∧ ¬ tangled.Reaches n n ∧
        ∀ c, tangled.Reaches c c → ¬ tangled.Reaches c n := by
  intro h
  have hfree : "free" ∈ tangled.installOrder := by decide +kernel
  have hknot : tangled.Edge "knot" "knot" := by
    simp [tangled, Draft.edge_build, Draft.mem_edges_ofCalls]
  have hroot : tangled.Edge "knot" root := by
    simp [tangled, Draft.edge_build, Draft.mem_edges_ofCalls]
  have horphan : tangled.Edge root "free" := by
    simp [tangled, Draft.edge_build, Draft.mem_orphans, Draft.mem_edges_ofCalls,
      Draft.mem_names_ofCalls, Call.names, root]
  obtain ⟨_, _, hclear⟩ := (h "free").mp hfree
  exact hclear "knot" (.edge hknot) (.step hroot (.edge horphan))

end Graph

end Provision
