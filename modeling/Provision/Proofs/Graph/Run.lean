import Mathlib.Data.String.Basic
import Provision.Proofs.Graph.Construction
import Provision.Proofs.Graph.Traversal

namespace Provision

namespace Traversal

variable {g : Graph} {log : Log} {t : Traversal}

theorem mem_unvisited {n : String} : n ∈ unvisited g t ↔ n ∈ g.names ∧ n ∉ t.visited := by
  simp [unvisited]

theorem nodup_unvisited (g : Graph) (t : Traversal) : (unvisited g t).Nodup :=
  (List.mergeSort_perm _ _).nodup_iff.mpr (g.nodup_names.filter _)

theorem pairwise_unvisited (g : Graph) (t : Traversal) : (unvisited g t).Pairwise (· < ·) := by
  have hle : (unvisited g t).Pairwise fun a b => decide (a ≤ b) = true :=
    List.pairwise_mergeSort (fun a b c => by simpa using le_trans)
      (fun a b => by simpa using le_total a b) _
  have hboth := hle.and (nodup_unvisited g t)
  exact hboth.imp fun h => lt_of_le_of_ne (by simpa using h.1) h.2

/-- Once the queue is empty and no visit is under way, no target is left that is ready. -/
theorem Consistent.exhausted (hc : Consistent g log t) (hcurrent : t.current = none)
    (hqueue : t.queue = []) : g.Exhausted log.history := by
  have hplaces : t.released log = log.map Prod.fst := by
    simp [Traversal.released, hcurrent, hqueue]
  have hnodup : (log.map Prod.fst).Nodup := hplaces ▸ hc.nodup
  intro n hn hr
  have hpending : t.pending n = 0 := by
    rw [hc.pending n, List.countP_eq_zero]
    intro p hp
    rcases hr p (Graph.Draft.mem_parents.mp hp) with rfl | hp
    · simp [Log.told]
    · have := List.mem_map_of_mem (f := Prod.fst) (Log.mem_history.mp hp)
      simp only [Log.told, List.mem_cons, not_not, decide_eq_true_eq]
      exact .inr this
  have hlog := (hc.released n).mpr ⟨hn, hpending⟩
  rw [hplaces] at hlog
  obtain ⟨⟨n, o⟩, he, rfl⟩ := List.mem_map.mp hlog
  have hskipped : o ≠ .skipped := by
    intro ho
    obtain ⟨e, hemem, hne, hedge⟩ := (hc.doomed n).mp ((hc.judged _ he).mp ho)
    have hname := List.mem_map_of_mem (f := Prod.fst) hemem
    rcases hr e.1 hedge with hroot | hsuccess
    · exact hc.root_not_mem (by rw [hplaces, ← hroot]; exact hname)
    · have hsame := List.inj_on_of_nodup_map hnodup hemem (Log.mem_history.mp hsuccess) rfl
      exact hne (congrArg Prod.snd hsame)
  cases o with
  | skipped => exact absurd rfl hskipped
  | success => exact List.mem_map.mpr ⟨(n, true), Log.mem_history.mpr he, rfl⟩
  | failure => exact List.mem_map.mpr ⟨(n, false), Log.mem_history.mpr he, rfl⟩

/-- A walk that has come to its end, with the log that it leaves. -/
structure Ended (g : Graph) (log : Log) (t : Traversal) : Prop extends Sound g log t where
  current_eq_none : t.current = none
  queue_eq_nil : t.queue = []

theorem Ended.finished (ht : Ended g log t) : g.Finished log.history (unvisited g t) := by
  refine ⟨ht.schedule, ht.exhausted ht.current_eq_none ht.queue_eq_nil, ?_,
    pairwise_unvisited g t⟩
  intro n
  rw [mem_unvisited, ht.visited]

/-- The visits with what is reported of them. The report of a visit comes with the next question. -/
def reported (flags : Nat → Bool) (visits : List String) : Graph.History :=
  visits.mapIdx fun i n => (n, flags (i + 1))

theorem reported_cons (flags : Nat → Bool) (n : String) (visits : List String) :
    reported flags (n :: visits) = (n, flags 1) :: reported (fun i => flags (i + 1)) visits := by
  simp [reported, List.mapIdx_cons]

theorem map_fst_reported (flags : Nat → Bool) (visits : List String) :
    (reported flags visits).map Prod.fst = visits := by
  induction visits generalizing flags with
  | nil => rfl
  | cons n visits ih => rw [reported_cons, List.map_cons, ih]

theorem getElem?_reported (flags : Nat → Bool) (visits : List String) (i : Nat) :
    (reported flags visits)[i]? = visits[i]?.map (·, flags (i + 1)) := by
  simp [reported]

/-- From any sound traversal on, the answers are visits and then the list of what is left out. -/
theorem Sound.run_log (ht : Sound g log t) (hs : g.HasSource) (flags : Nat → Bool) :
    ∃ visits log' t', answers g t ((List.range (visits.length + 1)).map flags) =
        visits.map .visit ++ [.done (unvisited g t')] ∧ Ended g log' t' ∧
      log'.history = log.history ++ t.current.toList.map (·, flags 0) ++ reported flags visits := by
  induction hk : t.load g using Nat.strong_induction_on generalizing t log flags with
  | _ k ih =>
    obtain ⟨more, ht', hhistory, hanswer⟩ := ht.advance hs (flags 0)
    rcases hanswer with ⟨n, hn, hcurrent⟩ | ⟨hdone, hcurrent, hqueue⟩
    · have hlt : (t.advance g (flags 0)).2.load g < k := by
        rw [← hk]
        exact load_advance_lt (Prod.ext hn rfl)
      obtain ⟨visits, log', t', ha, hend, hlog⟩ := ih _ hlt ht' (fun i => flags (i + 1)) rfl
      refine ⟨n :: visits, log', t', ?_, hend, ?_⟩
      · rw [List.length_cons, List.range_succ_eq_map, List.map_cons, List.map_map, answers]
        simpa [hn, Function.comp_def] using ha
      · rw [reported_cons]
        simpa [hhistory, hcurrent] using hlog
    · refine ⟨[], log ++ more, (t.advance g (flags 0)).2, ?_, ⟨ht', hcurrent, hqueue⟩, ?_⟩
      · simp [answers, hdone]
      · simpa [reported] using hhistory

theorem Sound.run (ht : Sound g log t) (hs : g.HasSource) (flags : Nat → Bool) :
    ∃ visits unvisited, answers g t ((List.range (visits.length + 1)).map flags) =
        visits.map .visit ++ [.done unvisited] ∧
      g.Finished (log.history ++ t.current.toList.map (·, flags 0) ++ reported flags visits)
        unvisited := by
  obtain ⟨visits, _, t', ha, hend, hlog⟩ := ht.run_log hs flags
  exact ⟨visits, unvisited g t', ha, hlog ▸ hend.finished⟩

/-- What a caller sees who goes through a graph and answers each visit with a flag. -/
structure CompleteRun (g : Graph) (flags : Nat → Bool) (visits unvisited : List String) : Prop where
  /-- The first flag is for no visit, and each of the others for the visit before it. -/
  answers : answers g (start g) ((List.range (visits.length + 1)).map flags) =
    visits.map .visit ++ [.done unvisited]
  length_le : visits.length ≤ g.size
  nodup : visits.Nodup
  root_not_mem : Graph.root ∉ visits
  after_dependencies : ∀ (i : Nat) (n p : String), visits[i]? = some n → g.Edge p n →
    p = Graph.root ∨ ∃ j < i, visits[j]? = some p ∧ flags (j + 1) = true
  /-- The visited targets are the least set that holds each target all of whose dependencies are in
  it and were a success. -/
  least : ∀ n, n ∈ visits ↔
    g.Visitable (fun p => ∃ j, visits[j]? = some p ∧ flags (j + 1) = true) n
  others : ∀ n, n ∈ unvisited ↔ n ∈ g.names ∧ n ∉ visits
  sorted : unvisited.Pairwise (· < ·)

/-- Every walk over a graph that calls have made comes to its end, whatever is reported. -/
theorem calls_completeRun (calls : List Graph.Call)
    (hroot : ∀ p, Graph.Call.edge p Graph.root ∉ calls) (flags : Nat → Bool) :
    ∃ visits unvisited, CompleteRun (Graph.Draft.ofCalls calls).build flags visits unvisited := by
  have hs : (Graph.Draft.ofCalls calls).build.HasSource :=
    Graph.Draft.hasSource_build fun p => Graph.Draft.mem_edges_ofCalls.not.mpr (hroot p)
  obtain ⟨visits, unvisited, hanswers, hf⟩ := (Sound.start hs).run hs flags
  have hstart : (start (Graph.Draft.ofCalls calls).build).current = none := by
    rw [start, release_eq]
  simp only [hstart, Log.history_nil, Option.toList_none, List.map_nil, List.nil_append] at hf
  have hnames := map_fst_reported flags visits
  have hnodup := hf.schedule.nodup
  have hunvisited := hf.mem_unvisited
  rw [hnames] at hnodup
  simp only [hnames] at hunvisited
  have hsuccess (p : String) :
      (p, true) ∈ reported flags visits ↔ ∃ j, visits[j]? = some p ∧ flags (j + 1) = true := by
    simp [List.mem_iff_getElem?, getElem?_reported]
  refine ⟨visits, unvisited, hanswers, ?_, hnodup, ?_, ?_, ?_, hunvisited, hf.sorted⟩
  · simpa [reported] using hf.schedule.length_le
  · exact fun h => Graph.Draft.root_not_mem _ (hf.schedule.mem_names (hnames.symm ▸ h))
  · intro i n p hn hp
    have hi : (reported flags visits)[i]? = some (n, flags (i + 1)) := by
      rw [getElem?_reported, hn]
      rfl
    simpa [getElem?_reported] using hf.schedule.ready_at hi hp
  · intro n
    have hiff : n ∈ (reported flags visits).map Prod.fst ↔
        Graph.Visitable _ (fun p => (p, true) ∈ reported flags visits) n :=
      ⟨hf.schedule.visitable, hf.exhausted.visited⟩
    simpa only [hnames, hsuccess] using hiff

/-- A diamond with a failure on one side, beside a target that depends on itself. -/
theorem diamond_completeRun :
    (∀ p, Graph.Call.edge p Graph.root ∉
      [.edge "a" "b", .edge "a" "c", .edge "b" "d", .edge "c" "d", .edge "x" "x"]) ∧
    ∃ visits unvisited, CompleteRun (Graph.Draft.ofCalls
      [.edge "a" "b", .edge "a" "c", .edge "b" "d", .edge "c" "d", .edge "x" "x"]).build
      (fun i => decide (i ≠ 2)) visits unvisited := by
  have hroot : ∀ p, Graph.Call.edge p Graph.root ∉
      [.edge "a" "b", .edge "a" "c", .edge "b" "d", .edge "c" "d", .edge "x" "x"] := by
    simp [Graph.root]
  exact ⟨hroot, calls_completeRun _ hroot _⟩

end Traversal

end Provision
