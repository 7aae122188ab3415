import Provision.Index.Basic

namespace Provision

namespace Graph

/-- The name of the start node, on which the targets without a dependency hang. -/
def root : String := "__START__"

/-- Targets and edges, each of which leads from a dependency to a dependent, as they were added. -/
structure Draft where
  names : List String
  edges : List (String × String)
  nodup_names : names.Nodup
  root_not_mem : root ∉ names
  nodup_edges : edges.Nodup
  ends_mem : ∀ e ∈ edges, e.1 ∈ root :: names ∧ e.2 ∈ root :: names

namespace Draft

def empty : Draft := ⟨[], [], List.nodup_nil, by simp, List.nodup_nil, by simp⟩

/-- The start node and the targets. -/
def nodes (d : Draft) : List String := root :: d.names

/-- The direct dependents of a node, in the order in which their edges were added. -/
def children (d : Draft) (name : String) : List String :=
  (d.edges.filter (·.1 == name)).map Prod.snd

/-- The direct dependencies of a node. -/
def parents (d : Draft) (name : String) : List String :=
  (d.edges.filter (·.2 == name)).map Prod.fst

@[simp] theorem mem_children {d : Draft} {a b : String} : b ∈ d.children a ↔ (a, b) ∈ d.edges := by
  simp [children]

@[simp] theorem mem_parents {d : Draft} {a b : String} : a ∈ d.parents b ↔ (a, b) ∈ d.edges := by
  simp [parents]

theorem mem_nodes_of_mem_children {d : Draft} {a b : String} (h : b ∈ d.children a) :
    b ∈ d.nodes :=
  (d.ends_mem _ (mem_children.1 h)).2

def addNode (d : Draft) (name : String) : Draft :=
  if h : name ∈ root :: d.names then d
  else
    { names := d.names ++ [name]
      edges := d.edges
      nodup_names := by
        refine List.nodup_append.2 ⟨d.nodup_names, by simp, fun a ha b hb => ?_⟩
        rw [List.mem_singleton.1 hb]
        rintro rfl
        exact h (List.mem_cons_of_mem _ ha)
      root_not_mem := by
        simp only [List.mem_cons, not_or] at h
        simpa [d.root_not_mem] using Ne.symm h.1
      nodup_edges := d.nodup_edges
      ends_mem := fun e he => by
        have := d.ends_mem e he
        simp only [List.mem_cons, List.mem_append] at this ⊢
        exact ⟨this.1.imp_right Or.inl, this.2.imp_right Or.inl⟩ }

theorem mem_nodes_addNode {d : Draft} {name n : String} :
    n ∈ (d.addNode name).nodes ↔ n ∈ d.nodes ∨ n = name := by
  unfold addNode nodes
  split
  · next h =>
    constructor
    · exact Or.inl
    · rintro (hn | rfl)
      · exact hn
      · exact h
  · simp [or_assoc]

@[simp] theorem edges_addNode (d : Draft) (name : String) : (d.addNode name).edges = d.edges := by
  unfold addNode; split <;> rfl

/-- Links two nodes that are present. -/
def link (d : Draft) (dependency dependent : String) (h₁ : dependency ∈ d.nodes)
    (h₂ : dependent ∈ d.nodes) : Draft :=
  if h : (dependency, dependent) ∈ d.edges then d
  else
    { d with
      edges := d.edges ++ [(dependency, dependent)]
      nodup_edges := by
        refine List.nodup_append.2 ⟨d.nodup_edges, by simp, fun a ha b hb => ?_⟩
        rw [List.mem_singleton.1 hb]
        rintro rfl
        exact h ha
      ends_mem := fun e he => by
        rcases List.mem_append.1 he with he | he
        · exact d.ends_mem e he
        · rw [List.mem_singleton.1 he]
          exact ⟨h₁, h₂⟩ }

/-- Adds an edge, and its ends if they are new. -/
def addEdge (d : Draft) (dependency dependent : String) : Draft :=
  ((d.addNode dependency).addNode dependent).link dependency dependent
    (by simp [mem_nodes_addNode]) (by simp [mem_nodes_addNode])

/-- Each target with its dependencies, in the order of the index. -/
def ofIndex (index : DependencyIndex) : Draft :=
  index.entries.foldl
    (fun d (target, dependencies) =>
      dependencies.foldl (fun d dependency => d.addEdge dependency target) (d.addNode target))
    empty

/-- The targets that depend on nothing, not even explicitly on the start node. -/
def orphans (d : Draft) : List String :=
  d.names.filter fun n => (d.parents n).isEmpty

end Draft

end Graph

/-- A finished graph: every target depends on another node, if only on the start node. -/
structure Graph extends Graph.Draft where
  parents_ne_nil : ∀ n ∈ names, toDraft.parents n ≠ []

namespace Graph

/-- Hangs the targets that depend on nothing on the start node. -/
def Draft.build (d : Draft) : Graph where
  names := d.names
  edges := d.edges ++ d.orphans.map (root, ·)
  nodup_names := d.nodup_names
  root_not_mem := d.root_not_mem
  nodup_edges := by
    refine List.nodup_append.2 ⟨d.nodup_edges, ?_, ?_⟩
    · exact List.Pairwise.map _ (fun a b h => by simpa using h)
        (d.nodup_names.sublist List.filter_sublist)
    · rintro a ha b hb rfl
      obtain ⟨n, hn, rfl⟩ := List.mem_map.1 hb
      have := (List.mem_filter.1 hn).2
      rw [List.isEmpty_iff, List.eq_nil_iff_forall_not_mem] at this
      exact this root (mem_parents.2 ha)
  ends_mem := fun e he => by
    rcases List.mem_append.1 he with he | he
    · exact d.ends_mem e he
    · obtain ⟨n, hn, rfl⟩ := List.mem_map.1 he
      exact ⟨by simp, List.mem_cons_of_mem _ (List.mem_filter.1 hn).1⟩
  parents_ne_nil := fun n hn h => by
    rw [List.eq_nil_iff_forall_not_mem] at h
    by_cases hp : (d.parents n).isEmpty
    · refine h root ?_
      simp only [Draft.mem_parents, List.mem_append, List.mem_map]
      exact Or.inr ⟨n, List.mem_filter.2 ⟨hn, hp⟩, rfl⟩
    · obtain ⟨p, hp⟩ := List.exists_mem_of_ne_nil _ (by simpa using hp)
      refine h p ?_
      simp only [Draft.mem_parents, List.mem_append]
      exact Or.inl (Draft.mem_parents.1 hp)

def ofIndex (index : DependencyIndex) : Graph := (Draft.ofIndex index).build

def size (g : Graph) : Nat := g.names.length

def contains (g : Graph) (name : String) : Bool := g.names.contains name

/-- What a search has found: a cycle at the end of a path, or no cycle and the nodes that it has
left for good. -/
inductive Search
  | cycle (path : List String)
  | finished (nodes : List String)
  deriving DecidableEq, Repr

/-- Searches depth first below the children that are left of the last node of `path`. The nodes in
`free` are those that are not on the path, and below the finished ones there is no cycle. -/
def search (g : Graph) (free path finished : List String) : List String → Search
  | [] => .finished finished
  | child :: rest =>
    if child ∈ finished then search g free path finished rest
    else if _h : child ∈ free then
      match search g (free.erase child) (path ++ [child]) finished (g.children child) with
      | .cycle found => .cycle found
      | .finished finished => search g free path (child :: finished) rest
    else .cycle (path ++ [child])
termination_by children => (free.length, children.length)
decreasing_by
  · exact Prod.Lex.right _ (by simp)
  · exact Prod.Lex.left _ _ (by
      have := List.length_pos_of_mem ‹child ∈ free›
      rw [List.length_erase_of_mem ‹child ∈ free›]
      omega)
  · exact Prod.Lex.right _ (by simp)

/-- The first cycle that a search from each target in turn comes upon: the path from that target to
a node that repeats one of the path. -/
def findCycle (g : Graph) : Option (List String) :=
  match g.search g.nodes [] [] g.names with
  | .cycle path => some path
  | .finished _ => none

end Graph

end Provision
