import Mathlib.Logic.Relation
import Provision.Proofs.Graph.Schedule
import Provision.Proofs.OrderedMap

namespace Provision

namespace Graph

/-- One step in the making of a graph. -/
inductive Call
  | node (name : String)
  | edge (dependency dependent : String)
  deriving DecidableEq, Repr

/-- The names that a call mentions. -/
def Call.names : Call → List String
  | .node name => [name]
  | .edge dependency dependent => [dependency, dependent]

/-- The edge that a call adds. -/
def Call.edge? : Call → Option (String × String)
  | .node _ => none
  | .edge dependency dependent => some (dependency, dependent)

namespace Draft

def call (d : Draft) : Call → Draft
  | .node name => d.addNode name
  | .edge dependency dependent => d.addEdge dependency dependent

/-- The draft that calls make from nothing. -/
def ofCalls (calls : List Call) : Draft := calls.foldl call empty

theorem mem_edges_link {d : Draft} {a b : String} (ha : a ∈ d.nodes) (hb : b ∈ d.nodes)
    {e : String × String} : e ∈ (d.link a b ha hb).edges ↔ e ∈ d.edges ∨ e = (a, b) := by
  unfold link
  split
  · next h =>
    constructor
    · exact Or.inl
    · rintro (he | rfl)
      · exact he
      · exact h
  · simp

theorem nodes_link {d : Draft} {a b : String} (ha : a ∈ d.nodes) (hb : b ∈ d.nodes) :
    (d.link a b ha hb).nodes = d.nodes := by
  unfold link
  split <;> rfl

theorem mem_edges_call {d : Draft} {c : Call} {a b : String} :
    (a, b) ∈ (d.call c).edges ↔ (a, b) ∈ d.edges ∨ .edge a b = c := by
  cases c with
  | node name => simp [call]
  | edge x y => simp [call, addEdge, mem_edges_link]

theorem mem_nodes_call {d : Draft} {c : Call} {n : String} :
    n ∈ (d.call c).nodes ↔ n ∈ d.nodes ∨ n ∈ c.names := by
  cases c with
  | node name => simp [call, mem_nodes_addNode, Call.names]
  | edge x y => simp [call, addEdge, nodes_link, mem_nodes_addNode, Call.names, or_assoc]

private theorem mem_edges_foldl {d : Draft} {calls : List Call} {a b : String} :
    (a, b) ∈ (calls.foldl call d).edges ↔ (a, b) ∈ d.edges ∨ .edge a b ∈ calls := by
  induction calls generalizing d with
  | nil => simp
  | cons c calls ih => rw [List.foldl_cons, ih, mem_edges_call, List.mem_cons, or_assoc]

private theorem mem_nodes_foldl {d : Draft} {calls : List Call} {n : String} :
    n ∈ (calls.foldl call d).nodes ↔ n ∈ d.nodes ∨ ∃ c ∈ calls, n ∈ c.names := by
  induction calls generalizing d with
  | nil => simp
  | cons c calls ih => simp [ih, mem_nodes_call, or_assoc]

/-- The edges of a draft are those that were asked for. -/
theorem mem_edges_ofCalls {calls : List Call} {a b : String} :
    (a, b) ∈ (ofCalls calls).edges ↔ .edge a b ∈ calls := by
  simp [ofCalls, mem_edges_foldl, empty]

/-- The targets of a draft are the names that were mentioned. -/
theorem mem_names_ofCalls {calls : List Call} {n : String} :
    n ∈ (ofCalls calls).names ↔ n ≠ root ∧ ∃ c ∈ calls, n ∈ c.names := by
  have hnodes : n ∈ (ofCalls calls).nodes ↔ n = root ∨ ∃ c ∈ calls, n ∈ c.names := by
    rw [ofCalls, mem_nodes_foldl]
    simp [nodes, empty]
  have hroot := (ofCalls calls).root_not_mem
  rw [nodes, List.mem_cons] at hnodes
  by_cases hn : n = root
  · simp [hn, hroot]
  · simpa [hn] using hnodes

theorem mem_orphans {d : Draft} {n : String} :
    n ∈ d.orphans ↔ n ∈ d.names ∧ ∀ p, (p, n) ∉ d.edges := by
  simp [orphans, List.eq_nil_iff_forall_not_mem]

/-- In the finished graph the targets without a dependency hang on the start node. -/
theorem edge_build {d : Draft} {p n : String} :
    d.build.Edge p n ↔ (p, n) ∈ d.edges ∨ p = root ∧ n ∈ d.orphans := by
  simp [build, Edge, and_comm, eq_comm]

theorem names_build (d : Draft) : d.build.names = d.names := rfl

theorem hasSource_build {d : Draft} (h : ∀ p, (p, root) ∉ d.edges) : d.build.HasSource := by
  intro p he
  rcases edge_build.mp he with he | ⟨_, ho⟩
  · exact h p he
  · exact d.root_not_mem (mem_orphans.mp ho).1

/-! ## The order of the calls -/

theorem ofCalls_concat (calls : List Call) (c : Call) :
    ofCalls (calls ++ [c]) = (ofCalls calls).call c := by
  simp [ofCalls]

theorem edges_call_edge (d : Draft) (a b : String) : (d.call (.edge a b)).edges =
    if (a, b) ∈ d.edges then d.edges else d.edges ++ [(a, b)] := by
  simp only [call, addEdge, link, edges_addNode]
  split <;> simp

theorem edges_ofCalls (calls : List Call) :
    (ofCalls calls).edges = (calls.filterMap Call.edge?).eraseDups := by
  induction calls using List.reverseRecOn with
  | nil => rfl
  | append_singleton calls c ih =>
    rw [ofCalls_concat, List.filterMap_append]
    cases c with
    | node name =>
      have hlast : [Call.node name].filterMap Call.edge? = [] := rfl
      simpa [call, hlast] using ih
    | edge a b =>
      have hlast : [Call.edge a b].filterMap Call.edge? = [(a, b)] := rfl
      have hold : (a, b) ∈ (ofCalls calls).edges ↔ (a, b) ∈ calls.filterMap Call.edge? := by
        rw [ih, List.mem_eraseDups]
      rw [edges_call_edge, hlast, eraseDups_concat, ← ih]
      simp only [hold]

private theorem eraseDups_filter_map (es : List (String × String)) (a : String) :
    (es.eraseDups.filter (·.1 == a)).map Prod.snd =
      ((es.filter (·.1 == a)).map Prod.snd).eraseDups := by
  induction es using List.reverseRecOn with
  | nil => rfl
  | append_singleton es e ih =>
    obtain ⟨x, y⟩ := e
    by_cases hx : x = a
    · subst hx
      have hold : y ∈ (es.filter (·.1 == x)).map Prod.snd ↔ (x, y) ∈ es := by simp
      have hlast : [(x, y)].filter (·.1 == x) = [(x, y)] := by simp
      rw [List.filter_append, hlast, List.map_append, List.map_singleton, eraseDups_concat,
        eraseDups_concat, ← ih]
      simp only [hold]
      split
      · rfl
      · simp
    · rw [eraseDups_concat, List.filter_append]
      split
      · simp [hx, ih]
      · simp [hx, ih]

/-- The dependents of a node stand in the order of the calls that first named them. -/
theorem children_ofCalls (calls : List Call) (a : String) : (ofCalls calls).children a =
    (((calls.filterMap Call.edge?).filter (·.1 == a)).map Prod.snd).eraseDups := by
  rw [children, edges_ofCalls, eraseDups_filter_map]

theorem names_addNode (d : Draft) (name : String) :
    (d.addNode name).names = if name ∈ root :: d.names then d.names else d.names ++ [name] := by
  unfold addNode
  split <;> rfl

theorem names_call_edge (d : Draft) (a b : String) :
    (d.call (.edge a b)).names = ((d.addNode a).addNode b).names := by
  simp only [call, addEdge, link]
  split <;> rfl

/-- The targets stand in the order in which the calls first mention them. -/
theorem names_ofCalls (calls : List Call) :
    (ofCalls calls).names = ((calls.flatMap Call.names).filter (· ≠ root)).eraseDups := by
  have hadd {d : Draft} {mentioned : List String} (name : String)
      (hd : d.names = (mentioned.filter (· ≠ root)).eraseDups) :
      (d.addNode name).names = ((mentioned ++ [name]).filter (· ≠ root)).eraseDups := by
    rw [names_addNode, List.filter_append]
    by_cases hroot : name = root
    · simp [hroot, hd]
    · have hold : name ∈ root :: d.names ↔ name ∈ mentioned.filter (· ≠ root) := by
        rw [List.mem_cons, or_iff_right hroot, hd, List.mem_eraseDups]
      have hone : [name].filter (· ≠ root) = [name] := by simp [hroot]
      rw [hone, eraseDups_concat, ← hd]
      simp only [hold]
  induction calls using List.reverseRecOn with
  | nil => rfl
  | append_singleton calls c ih =>
    rw [ofCalls_concat, List.flatMap_append, List.flatMap_singleton]
    cases c with
    | node name => exact hadd name ih
    | edge x y =>
      rw [names_call_edge, hadd y (hadd x ih)]
      simp [Call.names]

theorem orphans_ofCalls (calls : List Call) : (ofCalls calls).orphans =
    (ofCalls calls).names.filter (· ∉ (calls.filterMap Call.edge?).map Prod.snd) := by
  refine List.filter_congr fun n _ => ?_
  rw [Bool.eq_iff_iff, List.isEmpty_iff, List.eq_nil_iff_forall_not_mem]
  simp [edges_ofCalls]

/-- The start node has the targets without a dependency behind those that calls have put there. -/
theorem children_build (d : Draft) (a : String) :
    d.build.children a = d.children a ++ if a = root then d.orphans else [] := by
  simp only [build, children, List.filter_append, List.map_append]
  congr 1
  by_cases ha : a = root
  · simp [ha, List.filter_map, Function.comp_def]
  · simp [ha, Ne.symm ha]

end Draft

end Graph

namespace DependencyIndex

/-- A target requires what is in its list. -/
def Requires (index : DependencyIndex) (target dependency : String) : Prop :=
  ∃ dependencies, index.get? target = some dependencies ∧ dependency ∈ dependencies

/-- Each target, followed by its dependencies. -/
def calls (index : DependencyIndex) : List Graph.Call :=
  index.entries.flatMap fun (target, dependencies) =>
    .node target :: dependencies.map (.edge · target)

theorem ofIndex_eq (index : DependencyIndex) :
    Graph.ofIndex index = (Graph.Draft.ofCalls index.calls).build := by
  rw [Graph.ofIndex, Graph.Draft.ofIndex, Graph.Draft.ofCalls, calls, List.foldl_flatMap]
  simp [List.foldl_map, Graph.Draft.call]

theorem edge_mem_calls {index : DependencyIndex} {p n : String} :
    .edge p n ∈ index.calls ↔ index.Requires n p := by
  simp only [calls, List.mem_flatMap, List.mem_cons, reduceCtorEq, List.mem_map, false_or,
    Graph.Call.edge.injEq, Requires, OrderedMap.get?_eq_some_iff]
  constructor
  · rintro ⟨⟨target, dependencies⟩, he, dependency, hd, rfl, rfl⟩
    exact ⟨dependencies, he, hd⟩
  · rintro ⟨dependencies, he, hd⟩
    exact ⟨_, he, p, hd, rfl, rfl⟩

end DependencyIndex

namespace Graph

variable {index : DependencyIndex}

theorem mem_names_ofIndex {n : String} :
    n ∈ (ofIndex index).names ↔
      n ≠ root ∧ (n ∈ index.keys ∨ ∃ target, index.Requires target n) := by
  rw [index.ofIndex_eq, Draft.names_build, Draft.mem_names_ofCalls]
  refine and_congr_right fun _ => ?_
  constructor
  · rintro ⟨c, hc, hn⟩
    obtain ⟨⟨target, dependencies⟩, he, hc⟩ := List.mem_flatMap.mp hc
    have hkey : target ∈ index.keys := List.mem_map.mpr ⟨_, he, rfl⟩
    rcases List.mem_cons.mp hc with rfl | hc
    · have hn : n = target := by simpa [Call.names] using hn
      exact .inl (hn ▸ hkey)
    · obtain ⟨dependency, hd, rfl⟩ := List.mem_map.mp hc
      rcases List.mem_cons.mp hn with rfl | hn
      · exact .inr ⟨target, dependencies, index.get?_eq_some_iff.mpr he, hd⟩
      · have hn : n = target := by simpa using hn
        exact .inl (hn ▸ hkey)
  · rintro (hk | ⟨target, hr⟩)
    · obtain ⟨⟨n, dependencies⟩, he, rfl⟩ := List.mem_map.mp hk
      exact ⟨.node n, List.mem_flatMap.mpr ⟨_, he, by simp⟩, by simp [Call.names]⟩
    · exact ⟨.edge n target, DependencyIndex.edge_mem_calls.mpr hr, by simp [Call.names]⟩

/-- Between targets the edges of the graph are the requirements of the index. -/
theorem edge_ofIndex {p n : String} (hp : p ≠ root) :
    (ofIndex index).Edge p n ↔ index.Requires n p := by
  rw [index.ofIndex_eq, Draft.edge_build, Draft.mem_edges_ofCalls,
    DependencyIndex.edge_mem_calls]
  simp [hp]

theorem edge_of_requires {p n : String} (h : index.Requires n p) : (ofIndex index).Edge p n := by
  rw [index.ofIndex_eq, Draft.edge_build, Draft.mem_edges_ofCalls,
    DependencyIndex.edge_mem_calls]
  exact .inl h

theorem hasSource_ofIndex (h : ∀ p, ¬ index.Requires root p) : (ofIndex index).HasSource := by
  rw [index.ofIndex_eq]
  refine Draft.hasSource_build fun p he => h p ?_
  exact DependencyIndex.edge_mem_calls.mp (Draft.mem_edges_ofCalls.mp he)

/-- The graph has no cycle just if no chain of requirements comes back to where it began. -/
theorem acyclic_ofIndex (h : ∀ p, ¬ index.Requires root p) :
    (ofIndex index).Acyclic ↔ ∀ n, ¬ Relation.TransGen index.Requires n n := by
  have hs := hasSource_ofIndex h
  have hne {a b : String} (hr : (ofIndex index).Reaches a b) : b ≠ root := by
    rintro rfl
    exact (ofIndex index).root_not_mem (hr.target hs)
  constructor
  · intro ha n hn
    have hr {a b : String} (hab : Relation.TransGen index.Requires a b) :
        (ofIndex index).Reaches b a := by
      induction hab with
      | single h => exact .edge (edge_of_requires h)
      | tail _ h ih => exact .step (edge_of_requires h) ih
    exact ha n (hr hn)
  · intro hc n hn
    have ht {a b : String} (hr : (ofIndex index).Reaches a b) (hroot : a ≠ root) :
        Relation.TransGen index.Requires b a := by
      induction hr with
      | edge he => exact .single ((edge_ofIndex hroot).mp he)
      | step he _ ih => exact (ih (hne (.edge he))).tail ((edge_ofIndex hroot).mp he)
    exact hc n (ht hn (hne hn))

end Graph

end Provision
