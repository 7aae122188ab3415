import Provision.Proofs.Graph.Construction
import Provision.Proofs.Graph.Traversal

namespace Provision

/-- A list has the elements of another one, each of them once, in the order in which they come first
there. -/
structure IsFirsts {α : Type} [BEq α] (all l : List α) : Prop where
  nodup : l.Nodup
  mem_iff : ∀ a, a ∈ l ↔ a ∈ all
  sorted : l.Pairwise fun a b => all.idxOf a < all.idxOf b

theorem isFirsts_eraseDups {α : Type} [BEq α] [LawfulBEq α] (l : List α) :
    IsFirsts l l.eraseDups where
  nodup := nodup_eraseDups l
  mem_iff a := List.mem_eraseDups
  sorted := by
    induction l using List.reverseRecOn with
    | nil => exact .nil
    | append_singleton l a ih =>
      have hkept : ∀ b ∈ l, (l ++ [a]).idxOf b = l.idxOf b := fun b hb =>
        List.idxOf_append_of_mem hb
      have hold : l.eraseDups.Pairwise fun b c => (l ++ [a]).idxOf b < (l ++ [a]).idxOf c := by
        refine ih.imp_of_mem fun {b c} hb hc hlt => ?_
        rwa [hkept b (List.mem_eraseDups.mp hb), hkept c (List.mem_eraseDups.mp hc)]
      rw [eraseDups_concat]
      split
      · exact hold
      · next ha =>
        refine List.pairwise_append.mpr ⟨hold, List.pairwise_singleton .., fun b hb c hc => ?_⟩
        obtain rfl := List.mem_singleton.mp hc
        rw [hkept b (List.mem_eraseDups.mp hb), List.idxOf_append_of_notMem ha]
        exact Nat.lt_add_right _ (List.idxOf_lt_length_of_mem (List.mem_eraseDups.mp hb))

namespace Graph

/-! ## Nodes by numbers -/

/-- What a table says of a node. Its neighbours are given by their numbers. -/
structure Row where
  name : String
  children : List Nat
  parents : List Nat
  deriving DecidableEq, Repr

/-- The rows of nodes, each of which has its place for a number, and the number of each name. -/
structure Table where
  rows : List Row
  numbers : OrderedMap String Nat

namespace Table

/-- Looks a name up. A name that is new gets the next number and a row. -/
def intern (t : Table) (name : String) : Nat × Table :=
  match t.numbers.get? name with
  | some i => (i, t)
  | none =>
    (t.rows.length, ⟨t.rows ++ [⟨name, [], []⟩], t.numbers.insert name t.rows.length⟩)

/-- Makes one node a child of another one, and that a parent of the first. -/
def join (t : Table) (i j : Nat) : Table :=
  let rows := t.rows.modify i fun row => { row with children := row.children ++ [j] }
  { t with rows := rows.modify j fun row => { row with parents := row.parents ++ [i] } }

/-- Joins two nodes, unless the second one is among the children of the first. Parents are not
looked at. There is no result where a number has no row. -/
def link? (t : Table) (i j : Nat) : Option Table :=
  match t.rows[i]?, t.rows[j]? with
  | some row, some _ => some (if j ∈ row.children then t else t.join i j)
  | _, _ => none

def call? (t : Table) : Call → Option Table
  | .node name => some (t.intern name).2
  | .edge dependency dependent =>
    let (i, t) := t.intern dependency
    let (j, t) := t.intern dependent
    t.link? i j

/-- The table of the start node, which has the number zero. -/
def start : Table := (intern ⟨[], ∅⟩ root).2

/-- The numbers of the targets without a parent. -/
def orphans (t : Table) : List Nat :=
  (List.range' 1 (t.rows.length - 1)).filter fun i => t.rows[i]?.any (·.parents.isEmpty)

/-- Hangs the targets without a parent on the start node. -/
def build? (t : Table) : Option Table := t.orphans.foldlM (link? · 0 ·) t

/-- The finished table that calls make from nothing. -/
def ofCalls? (calls : List Call) : Option Table := do (← calls.foldlM call? start).build?

def names (t : Table) : List String := t.rows.tail.map Row.name

/-- The names of the neighbours of a node, which a name without a number does not have. There is no
result where a number has no row. -/
def neighbours? (t : Table) (neighbours : Row → List Nat) (name : String) : Option (List String) :=
  match t.numbers.get? name with
  | none => some []
  | some i => do (neighbours (← t.rows[i]?)).mapM fun j => (t.rows[j]?).map Row.name

def children? (t : Table) (name : String) : Option (List String) := t.neighbours? Row.children name

def parents? (t : Table) (name : String) : Option (List String) := t.neighbours? Row.parents name

end Table

namespace Draft

variable {d d' : Draft} {is : List Nat} {ns : List String} {i j : Nat} {a b : String}

theorem nodup_nodes (d : Draft) : d.nodes.Nodup :=
  List.nodup_cons.mpr ⟨d.root_not_mem, d.nodup_names⟩

/-- The numbers of names are their places among the nodes. -/
def Numbers (d : Draft) : List Nat → List String → Prop :=
  List.Forall₂ fun i n => d.nodes[i]? = some n

/-- Nodes that are added leave the numbers of the others alone. -/
theorem number_mono (hnodes : d.nodes <+: d'.nodes) (hi : d.nodes[i]? = some a) :
    d'.nodes[i]? = some a := by
  obtain ⟨more, hmore⟩ := hnodes
  obtain ⟨hlt, -⟩ := List.getElem?_eq_some_iff.mp hi
  rw [← hmore, List.getElem?_append_left hlt, hi]

theorem Numbers.mono (hnodes : d.nodes <+: d'.nodes) (h : d.Numbers is ns) : d'.Numbers is ns :=
  h.imp fun _ _ => number_mono hnodes

theorem Numbers.concat (h : d.Numbers is ns) (hi : d.nodes[i]? = some a) :
    d.Numbers (is ++ [i]) (ns ++ [a]) :=
  List.rel_append h (.cons hi .nil)

theorem number_inj (hi : d.nodes[i]? = some a) (hj : d.nodes[j]? = some a) : i = j := by
  obtain ⟨hlt, -⟩ := List.getElem?_eq_some_iff.mp hi
  exact (List.getElem?_inj hlt d.nodup_nodes).mp (hi.trans hj.symm)

theorem Numbers.mem_iff (h : d.Numbers is ns) (hi : d.nodes[i]? = some a) : i ∈ is ↔ a ∈ ns := by
  induction h with
  | nil => simp
  | @cons j b is ns hj _ ih =>
    have hhead : i = j ↔ a = b := by
      constructor
      · rintro rfl
        exact Option.some.inj (hi.symm.trans hj)
      · rintro rfl
        exact number_inj hi hj
    rw [List.mem_cons, List.mem_cons, hhead, ih]

theorem nodes_addNode (d : Draft) (name : String) :
    (d.addNode name).nodes = if name ∈ d.nodes then d.nodes else d.nodes ++ [name] := by
  unfold addNode nodes
  split <;> rfl

theorem prefix_nodes_addNode (d : Draft) (name : String) : d.nodes <+: (d.addNode name).nodes := by
  rw [nodes_addNode]
  split
  · exact List.prefix_rfl
  · exact List.prefix_append ..

theorem prefix_nodes_call (d : Draft) (c : Call) : d.nodes <+: (d.call c).nodes := by
  cases c with
  | node name => exact d.prefix_nodes_addNode name
  | edge a b =>
    have hnodes : (d.call (.edge a b)).nodes = ((d.addNode a).addNode b).nodes := by
      rw [nodes, names_call_edge, nodes]
    rw [hnodes]
    exact (d.prefix_nodes_addNode a).trans (prefix_nodes_addNode _ b)

theorem children_addNode (d : Draft) (name a : String) :
    (d.addNode name).children a = d.children a := by
  rw [children, edges_addNode, children]

theorem parents_addNode (d : Draft) (name a : String) :
    (d.addNode name).parents a = d.parents a := by
  rw [parents, edges_addNode, parents]

theorem children_eq_nil (h : a ∉ d.nodes) : d.children a = [] :=
  List.eq_nil_iff_forall_not_mem.mpr fun _ hb => h (d.ends_mem _ (mem_children.mp hb)).1

theorem parents_eq_nil (h : a ∉ d.nodes) : d.parents a = [] :=
  List.eq_nil_iff_forall_not_mem.mpr fun _ hb => h (d.ends_mem _ (mem_parents.mp hb)).2

theorem edges_link (ha : a ∈ d.nodes) (hb : b ∈ d.nodes) :
    (d.link a b ha hb).edges = if (a, b) ∈ d.edges then d.edges else d.edges ++ [(a, b)] := by
  unfold link
  split <;> rfl

theorem children_link (ha : a ∈ d.nodes) (hb : b ∈ d.nodes) (hnew : (a, b) ∉ d.edges)
    (n : String) : (d.link a b ha hb).children n =
      if a = n then d.children n ++ [b] else d.children n := by
  rw [children, edges_link, if_neg hnew, List.filter_append, List.map_append]
  by_cases hn : a = n <;> simp [hn, children]

theorem parents_link (ha : a ∈ d.nodes) (hb : b ∈ d.nodes) (hnew : (a, b) ∉ d.edges)
    (n : String) : (d.link a b ha hb).parents n =
      if b = n then d.parents n ++ [a] else d.parents n := by
  rw [parents, edges_link, if_neg hnew, List.filter_append, List.map_append]
  by_cases hn : b = n <;> simp [hn, parents]

theorem eq_of_names_of_edges (hnames : d.names = d'.names) (hedges : d.edges = d'.edges) :
    d = d' := by
  cases d
  cases d'
  simp_all

/-- Calls that hang targets on the start node add their edges, none of which is there yet. -/
theorem foldl_call_root {ns : List String} (hmem : ns ⊆ d.names) (hnodup : ns.Nodup)
    (hnew : ∀ n ∈ ns, (root, n) ∉ d.edges) :
    ((ns.map (Call.edge root ·)).foldl call d).names = d.names ∧
      ((ns.map (Call.edge root ·)).foldl call d).edges = d.edges ++ ns.map (root, ·) := by
  induction ns generalizing d with
  | nil => simp
  | cons n ns ih =>
    obtain ⟨hn, hns⟩ := List.nodup_cons.mp hnodup
    obtain ⟨hmemn, hmems⟩ := List.cons_subset.mp hmem
    have hnames : (d.call (.edge root n)).names = d.names := by
      rw [names_call_edge, names_addNode, names_addNode]
      simp [hmemn]
    have hedges : (d.call (.edge root n)).edges = d.edges ++ [(root, n)] := by
      rw [edges_call_edge, if_neg (hnew n List.mem_cons_self)]
    have hstill : ∀ m ∈ ns, (root, m) ∉ (d.call (.edge root n)).edges := fun m hm => by
      have hne : m ≠ n := fun heq => hn (heq ▸ hm)
      simpa [hedges, hne] using hnew m (List.mem_cons_of_mem n hm)
    have hrest := ih (by rwa [hnames]) hns hstill
    rw [hnames, hedges] at hrest
    simpa using hrest

/-- To hang the targets without a dependency on the start node is to call for their edges. -/
theorem build_eq_foldl (d : Draft) :
    d.build.toDraft = (d.orphans.map (Call.edge root ·)).foldl call d := by
  obtain ⟨hnames, hedges⟩ := foldl_call_root (List.filter_subset_self _)
    (d.nodup_names.filter _) fun n hn => (mem_orphans.mp hn).2 root
  exact eq_of_names_of_edges hnames.symm hedges.symm

end Draft

variable {t : Table} {d : Draft} {i j : Nat} {a b : String}

namespace Row

/-- A row tells the neighbours that its node has in a draft, in their order. -/
structure Tells (row : Row) (d : Draft) : Prop where
  children : d.Numbers row.children (d.children row.name)
  parents : d.Numbers row.parents (d.parents row.name)

theorem Tells.addNode {row : Row} (h : row.Tells d) (name : String) :
    row.Tells (d.addNode name) where
  children := by
    rw [Draft.children_addNode]
    exact .mono (d.prefix_nodes_addNode name) h.children
  parents := by
    rw [Draft.parents_addNode]
    exact .mono (d.prefix_nodes_addNode name) h.parents

theorem tells_new (h : a ∉ d.nodes) : (⟨a, [], []⟩ : Row).Tells (d.addNode a) where
  children := by
    rw [Draft.children_addNode, Draft.children_eq_nil h]
    exact .nil
  parents := by
    rw [Draft.parents_addNode, Draft.parents_eq_nil h]
    exact .nil

end Row

namespace Table

/-- A table tells the nodes of a draft in their order, and of each its neighbours. -/
structure Presents (t : Table) (d : Draft) : Prop where
  names : t.rows.map Row.name = d.nodes
  numbers : ∀ n i, t.numbers.get? n = some i ↔ d.nodes[i]? = some n
  tells : ∀ row ∈ t.rows, row.Tells d

theorem Presents.exists_row (h : t.Presents d) (hi : d.nodes[i]? = some a) :
    ∃ row, t.rows[i]? = some row ∧ row.name = a := by
  rw [← h.names, List.getElem?_map] at hi
  exact Option.map_eq_some_iff.mp hi

theorem Presents.name_of_row (h : t.Presents d) {row : Row} (hi : t.rows[i]? = some row) :
    d.nodes[i]? = some row.name := by
  rw [← h.names, List.getElem?_map, hi]
  rfl

theorem Presents.length_rows (h : t.Presents d) : t.rows.length = d.nodes.length := by
  rw [← h.names, List.length_map]

theorem Presents.get?_eq_none (h : t.Presents d) :
    t.numbers.get? a = none ↔ a ∉ d.nodes := by
  rw [List.mem_iff_getElem?, Option.eq_none_iff_forall_ne_some]
  simp [h.numbers]

/-- A name that is looked up has the number that it gets. -/
theorem Presents.intern (h : t.Presents d) (name : String) :
    (t.intern name).2.Presents (d.addNode name) ∧
      (d.addNode name).nodes[(t.intern name).1]? = some name := by
  rw [Table.intern]
  cases hnumber : t.numbers.get? name with
  | some i =>
    have hi := (h.numbers name i).mp hnumber
    have hadd : d.addNode name = d := dif_pos (List.mem_of_getElem? hi)
    rw [hadd]
    exact ⟨h, hi⟩
  | none =>
    have hnew : name ∉ d.nodes := h.get?_eq_none.mp hnumber
    have hnodes : (d.addNode name).nodes = d.nodes ++ [name] := by
      rw [Draft.nodes_addNode, if_neg hnew]
    have hlast : (d.addNode name).nodes[t.rows.length]? = some name := by
      rw [hnodes, h.length_rows, List.getElem?_concat_length]
    refine ⟨⟨?_, fun n i => ?_, fun row hrow => ?_⟩, hlast⟩
    · rw [List.map_append, h.names, hnodes]
      rfl
    · rw [OrderedMap.get?_insert]
      split
      · next hn =>
        subst hn
        rw [Option.some_inj]
        exact ⟨fun hi => hi ▸ hlast, fun hi => Draft.number_inj hlast hi⟩
      · next hn =>
        rw [h.numbers, hnodes, List.getElem?_append]
        split
        · rfl
        · next hlt =>
          rw [List.getElem?_eq_none (by omega), List.getElem?_singleton]
          split <;> simp [Ne.symm hn]
    · rcases List.mem_append.mp hrow with hrow | hrow
      · exact (h.tells row hrow).addNode name
      · obtain rfl := List.mem_singleton.mp hrow
        exact Row.tells_new hnew

theorem getElem?_join (t : Table) (i j k : Nat) :
    (t.join i j).rows[k]? = (t.rows[k]?).map fun row =>
      { row with
        children := if i = k then row.children ++ [j] else row.children
        parents := if j = k then row.parents ++ [i] else row.parents } := by
  simp only [join, List.getElem?_modify, Option.map_eq_map, Option.map_map]
  congr 1
  funext row
  by_cases hi : i = k <;> by_cases hj : j = k <;> simp [hi, hj]

/-- Two names are the same if their numbers are. -/
theorem Presents.number_eq_iff (h : t.Presents d) {row : Row} (hi : d.nodes[i]? = some a)
    (hj : t.rows[j]? = some row) : i = j ↔ a = row.name := by
  have hname := h.name_of_row hj
  constructor
  · rintro rfl
    exact Option.some.inj (hi.symm.trans hname)
  · rintro rfl
    exact Draft.number_inj hi hname

theorem Presents.join (h : t.Presents d) (hi : d.nodes[i]? = some a) (hj : d.nodes[j]? = some b)
    (ha : a ∈ d.nodes) (hb : b ∈ d.nodes) (hnew : (a, b) ∉ d.edges) :
    (t.join i j).Presents (d.link a b ha hb) := by
  have hnodes : (d.link a b ha hb).nodes = d.nodes := Draft.nodes_link ha hb
  have hkept {is : List Nat} {ns : List String} (hns : d.Numbers is ns) :
      (d.link a b ha hb).Numbers is ns := .mono (by rw [hnodes]) hns
  refine ⟨?_, fun n k => ?_, fun row hrow => ?_⟩
  · rw [hnodes, ← h.names]
    refine List.ext_getElem? fun k => ?_
    rw [List.getElem?_map, List.getElem?_map, getElem?_join, Option.map_map]
    rfl
  · rw [hnodes]
    exact h.numbers n k
  · obtain ⟨k, hk⟩ := List.mem_iff_getElem?.mp hrow
    rw [getElem?_join] at hk
    obtain ⟨old, hold, rfl⟩ := Option.map_eq_some_iff.mp hk
    obtain ⟨hchildren, hparents⟩ := h.tells old (List.mem_of_getElem? hold)
    constructor
    · rw [Draft.children_link ha hb hnew]
      simp only [h.number_eq_iff hi hold]
      split
      · exact hkept (hchildren.concat hj)
      · exact hkept hchildren
    · rw [Draft.parents_link ha hb hnew]
      simp only [h.number_eq_iff hj hold]
      split
      · exact hkept (hparents.concat hi)
      · exact hkept hparents

/-- That the edge is looked for among the children only is enough. -/
theorem Presents.link? (h : t.Presents d) (hi : d.nodes[i]? = some a) (hj : d.nodes[j]? = some b)
    (ha : a ∈ d.nodes) (hb : b ∈ d.nodes) :
    ∃ t', t.link? i j = some t' ∧ t'.Presents (d.link a b ha hb) := by
  obtain ⟨source, hsource, rfl⟩ := h.exists_row hi
  obtain ⟨target, htarget, rfl⟩ := h.exists_row hj
  have hmem : j ∈ source.children ↔ (source.name, target.name) ∈ d.edges := by
    rw [(h.tells source (List.mem_of_getElem? hsource)).children.mem_iff hj, Draft.mem_children]
  have hlink : t.link? i j = some (if j ∈ source.children then t else t.join i j) := by
    rw [Table.link?, hsource, htarget]
  by_cases hedge : (source.name, target.name) ∈ d.edges
  · have hsame : d.link source.name target.name ha hb = d := dif_pos hedge
    rw [hsame]
    exact ⟨t, by rw [hlink, if_pos (hmem.mpr hedge)], h⟩
  · exact ⟨_, by rw [hlink, if_neg (mt hmem.mp hedge)], h.join hi hj ha hb hedge⟩

theorem Presents.call? (h : t.Presents d) (c : Call) :
    ∃ t', t.call? c = some t' ∧ t'.Presents (d.call c) := by
  cases c with
  | node name => exact ⟨_, rfl, (h.intern name).1⟩
  | edge a b =>
    obtain ⟨ha, hi⟩ := h.intern a
    obtain ⟨hb, hj⟩ := ha.intern b
    have hi := Draft.number_mono ((d.addNode a).prefix_nodes_addNode b) hi
    exact hb.link? hi hj (List.mem_of_getElem? hi) (List.mem_of_getElem? hj)

theorem presents_start : start.Presents Draft.empty where
  names := rfl
  numbers n i := by
    have hget : start.numbers.get? n = if n = root then some 0 else none :=
      OrderedMap.get?_insert ∅ root n 0
    have hnodes : Draft.empty.nodes[i]? = if i = 0 then some root else none :=
      List.getElem?_singleton
    rw [hget, hnodes]
    by_cases hn : n = root <;> by_cases hi : i = 0 <;> simp [hn, hi, eq_comm]
  tells row hrow := by
    obtain rfl := List.mem_singleton.mp hrow
    exact ⟨.nil, .nil⟩

theorem Presents.foldlM_call? (h : t.Presents d) (calls : List Call) :
    ∃ t', calls.foldlM Table.call? t = some t' ∧ t'.Presents (calls.foldl Draft.call d) := by
  induction calls generalizing t d with
  | nil => exact ⟨t, rfl, h⟩
  | cons c calls ih =>
    obtain ⟨t', hcall, h'⟩ := h.call? c
    rw [List.foldlM_cons, hcall]
    exact ih h'

/-- To link a node to the start node is to add the edge. -/
theorem Presents.call?_root (h : t.Presents d) (hi : d.nodes[i]? = some a) :
    t.call? (.edge root a) = t.link? 0 i := by
  have hroot : t.numbers.get? root = some 0 := (h.numbers _ _).mpr rfl
  have ha : t.numbers.get? a = some i := (h.numbers _ _).mpr hi
  simp only [Table.call?, Table.intern, hroot, ha]

theorem Presents.foldlM_link? (h : t.Presents d) {is : List Nat} {ns : List String}
    (hns : d.Numbers is ns) : ∃ t', is.foldlM (Table.link? · 0 ·) t = some t' ∧
      t'.Presents ((ns.map (Call.edge root ·)).foldl Draft.call d) := by
  induction is generalizing t d ns with
  | nil =>
    obtain rfl := List.forall₂_nil_left_iff.mp hns
    exact ⟨t, rfl, h⟩
  | cons i is ih =>
    -- The numbers that remain are still those of their names, since calls only add nodes.
    obtain ⟨n, ns, hi, hrest, rfl⟩ := List.forall₂_cons_left_iff.mp hns
    obtain ⟨t', hcall, h'⟩ := h.call? (.edge root n)
    rw [h.call?_root hi] at hcall
    rw [List.foldlM_cons, hcall]
    exact ih h' (.mono (d.prefix_nodes_call _) hrest)

theorem Presents.orphans (h : t.Presents d) : d.Numbers t.orphans d.orphans := by
  have htargets : d.Numbers (List.range' 1 (t.rows.length - 1)) d.names := by
    have hlength : t.rows.length - 1 = d.names.length := by
      rw [h.length_rows, Draft.nodes]
      simp
    refine List.forall₂_iff_get.mpr ⟨by simp [hlength], fun i _ hi => ?_⟩
    simp [Draft.nodes, Nat.add_comm 1]
  refine List.rel_filter (fun i n hi => ?_) htargets
  obtain ⟨row, hrow, rfl⟩ := h.exists_row hi
  have hlength := (h.tells row (List.mem_of_getElem? hrow)).parents.length_eq
  simp only [hrow, Option.any_some, List.isEmpty_iff, ← List.length_eq_zero_iff, hlength]

theorem Presents.build? (h : t.Presents d) : ∃ t', t.build? = some t' ∧
    t'.Presents d.build.toDraft := by
  rw [d.build_eq_foldl]
  exact h.foldlM_link? h.orphans

theorem exists_ofCalls? (calls : List Call) : ∃ t, ofCalls? calls = some t ∧
    t.Presents (Draft.ofCalls calls).build.toDraft := by
  obtain ⟨t, hcalls, h⟩ := presents_start.foldlM_call? calls
  rw [ofCalls?, hcalls]
  exact h.build?

/-! ## What a table shows -/

/-- A table shows the names and the neighbours of a graph in their order. -/
structure Shows (t : Table) (g : Graph) : Prop where
  names : t.names = g.names
  children : ∀ n, t.children? n = some (g.children n)
  parents : ∀ n, t.parents? n = some (g.parents n)

theorem Presents.mapM_name (h : t.Presents d) {is : List Nat} {ns : List String}
    (hns : d.Numbers is ns) : is.mapM (fun i => (t.rows[i]?).map Row.name) = some ns := by
  induction hns with
  | nil => rfl
  | cons hi _ ih =>
    rw [← h.names, List.getElem?_map] at hi
    rw [List.mapM_cons, hi, ih]
    rfl

theorem Presents.neighbours?_eq (h : t.Presents d) {f : Row → List Nat}
    {g : String → List String} (hf : ∀ row ∈ t.rows, d.Numbers (f row) (g row.name))
    (hnone : ∀ n, n ∉ d.nodes → g n = []) (n : String) : t.neighbours? f n = some (g n) := by
  rw [neighbours?]
  cases hnumber : t.numbers.get? n with
  | none => rw [hnone n (h.get?_eq_none.mp hnumber)]
  | some i =>
    obtain ⟨row, hrow, rfl⟩ := h.exists_row ((h.numbers n i).mp hnumber)
    simp only [hrow, Option.bind_eq_bind, Option.bind_some]
    exact h.mapM_name (hf row (List.mem_of_getElem? hrow))

theorem Presents.shows {g : Graph} (h : t.Presents g.toDraft) : t.Shows g where
  names := by
    rw [Table.names, List.map_tail, h.names]
    rfl
  children n := h.neighbours?_eq (fun row hrow => (h.tells row hrow).children)
    (fun _ => Draft.children_eq_nil) n
  parents n := h.neighbours?_eq (fun row hrow => (h.tells row hrow).parents)
    (fun _ => Draft.parents_eq_nil) n

end Table

/-- How a graph comes of calls. Its targets stand in the order in which the calls mention them
first, and the dependents of a node in the order of the calls for their edges. Parents and children
are each other's inverse, and the start node is the parent of the targets that depend on nothing
else. -/
structure Records (calls : List Call) (g : Graph) : Prop where
  names : IsFirsts ((calls.flatMap Call.names).filter (· ≠ root)) g.names
  count_children : ∀ u v, u ≠ root → v ≠ root → ((g.children u).count v = 1 ↔ .edge u v ∈ calls)
  children : ∀ u, u ≠ root →
    IsFirsts (((calls.filterMap Call.edge?).filter (·.1 == u)).map Prod.snd) (g.children u)
  nodup_children : ∀ u, (g.children u).Nodup
  nodup_parents : ∀ v, (g.parents v).Nodup
  mem_parents_iff : ∀ u v, u ∈ g.parents v ↔ v ∈ g.children u
  exists_parent : ∀ v ∈ g.names, ∃ u, u ∈ g.parents v
  root_mem_parents_iff : ∀ v ∈ g.names,
    (root ∈ g.parents v ↔ .edge root v ∈ calls ∨ ∀ u, .edge u v ∉ calls)

theorem records_build (calls : List Call) : Records calls (Draft.ofCalls calls).build where
  names := by
    rw [Draft.names_build, Draft.names_ofCalls]
    exact isFirsts_eraseDups _
  count_children u v hu hv := by
    have hedge : v ∈ (Draft.ofCalls calls).build.children u ↔ .edge u v ∈ calls := by
      rw [Draft.children_build, if_neg hu, List.append_nil, Draft.mem_children,
        Draft.mem_edges_ofCalls]
    rw [(nodup_children _ u).count, ← hedge]
    simp
  children u hu := by
    rw [Draft.children_build, if_neg hu, List.append_nil, Draft.children_ofCalls]
    exact isFirsts_eraseDups _
  nodup_children := nodup_children _
  nodup_parents := nodup_parents _
  mem_parents_iff u v := Draft.mem_parents.trans Draft.mem_children.symm
  exists_parent v hv := List.exists_mem_of_ne_nil _ (parents_ne_nil _ v hv)
  root_mem_parents_iff v hv := by
    have hv : v ∈ (Draft.ofCalls calls).names := hv
    have hedge := Draft.edge_build (d := Draft.ofCalls calls) (p := root) (n := v)
    simp only [Draft.mem_orphans, Draft.mem_edges_ofCalls, true_and, and_iff_right hv] at hedge
    exact Draft.mem_parents.trans hedge

/-- Whatever the calls are, the graph that they make records them. The table that they make shows
that graph, and it has a row for each number that is used on the way. -/
theorem records_ofCalls (calls : List Call) :
    (∃ t, Table.ofCalls? calls = some t ∧ t.Shows (Draft.ofCalls calls).build) ∧
      Records calls (Draft.ofCalls calls).build := by
  obtain ⟨t, hcalls, h⟩ := Table.exists_ofCalls? calls
  exact ⟨⟨t, hcalls, h.shows⟩, records_build calls⟩

example : (Table.ofCalls? [.edge "a" "b", .edge "b" "b", .node "c", .edge "a" "b"]).map Table.rows =
    some [⟨root, [1, 3], []⟩, ⟨"a", [2], [0]⟩, ⟨"b", [2], [1, 2]⟩, ⟨"c", [], [0]⟩] := by
  decide +kernel

end Graph

end Provision
