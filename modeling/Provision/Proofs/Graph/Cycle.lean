import Mathlib.Data.List.Chain
import Provision.Proofs.Graph.Construction

namespace Provision.Graph

variable {g : Graph}

/-- The node is on a cycle, or one lies ahead of it. -/
def LeadsToCycle (g : Graph) (n : String) : Prop := ∃ c, g.Reaches c c ∧ (n = c ∨ g.Reaches n c)

/-- The nodes of a list lead only to one another, and none of them is on a cycle. -/
structure Cleared (g : Graph) (nodes : List String) : Prop where
  closed : ∀ n ∈ nodes, ∀ c, g.Edge n c → c ∈ nodes
  acyclic : ∀ n ∈ nodes, ¬ g.Reaches n n

namespace Cleared

theorem nil : g.Cleared [] := ⟨by simp, by simp⟩

theorem reaches {nodes : List String} (hc : g.Cleared nodes) {n m : String} (hn : n ∈ nodes)
    (hr : g.Reaches n m) : m ∈ nodes := by
  induction hr with
  | edge he => exact hc.closed _ hn _ he
  | step he _ ih => exact ih (hc.closed _ hn _ he)

theorem not_leadsToCycle {nodes : List String} (hc : g.Cleared nodes) {n : String}
    (hn : n ∈ nodes) : ¬ g.LeadsToCycle n := by
  rintro ⟨c, hcycle, hway⟩
  have hmem : c ∈ nodes := by
    rcases hway with rfl | hr
    · exact hn
    · exact hc.reaches hn hr
  exact hc.acyclic c hmem hcycle

/-- A node is cleared as soon as all its dependents are. -/
theorem cons {nodes : List String} (hc : g.Cleared nodes) {n : String}
    (hn : ∀ c, g.Edge n c → c ∈ nodes) : g.Cleared (n :: nodes) := by
  refine ⟨?_, ?_⟩
  · intro m hm c he
    rcases List.mem_cons.mp hm with rfl | hm
    · exact List.mem_cons_of_mem _ (hn c he)
    · exact List.mem_cons_of_mem _ (hc.closed m hm c he)
  · intro m hm hr
    rcases List.mem_cons.mp hm with rfl | hm
    · have hback : m ∈ nodes := by
        cases hr with
        | edge he => exact hn m he
        | step he hr => exact hc.reaches (hn _ he) hr
      exact hc.acyclic m hback hr
    · exact hc.acyclic m hm hr

end Cleared

/-- A way without repetition, but for its last node, which is one of those before it. -/
structure Lasso (g : Graph) (path : List String) : Prop where
  way : path.IsChain g.Edge
  nodup : path.dropLast.Nodup
  back : ∀ n, path.getLast? = some n → n ∈ path.dropLast
  ne_nil : path ≠ []

theorem isChain_reaches {a b : String} {between : List String}
    (h : (a :: between ++ [b]).IsChain g.Edge) : g.Reaches a b := by
  induction between generalizing a with
  | nil => exact .edge (by simpa using h)
  | cons c between ih =>
    rw [List.cons_append, List.cons_append, List.isChain_cons_cons] at h
    exact .step h.1 (ih h.2)

/-- A lasso runs from its first node into a cycle. -/
theorem Lasso.exists_leadsToCycle {path : List String} (hl : g.Lasso path) :
    ∃ start, path.head? = some start ∧ g.LeadsToCycle start := by
  obtain ⟨stem, n, rfl⟩ := List.eq_nil_or_concat path |>.resolve_left hl.ne_nil
  have hn : n ∈ stem := by simpa using hl.back n (by simp)
  obtain ⟨before, after, rfl⟩ := List.append_of_mem hn
  have hway := hl.way
  rw [List.concat_eq_append, List.append_assoc] at hway
  have hcycle : g.Reaches n n := isChain_reaches hway.right_of_append
  cases before with
  | nil => exact ⟨n, by simp, n, hcycle, .inl rfl⟩
  | cons start before =>
    have hstem : (start :: before ++ [n]).IsChain g.Edge := by
      have hsplit : start :: before ++ (n :: after ++ [n]) =
          start :: before ++ [n] ++ (after ++ [n]) := by simp
      rw [hsplit] at hway
      exact hway.left_of_append
    exact ⟨start, by simp, n, hcycle, .inr (isChain_reaches hstem)⟩

theorem Lasso.not_acyclic {path : List String} (hl : g.Lasso path) : ¬ g.Acyclic := by
  intro ha
  obtain ⟨-, -, c, hcycle, -⟩ := hl.exists_leadsToCycle
  exact ha c hcycle

theorem Lasso.two_le_length {path : List String} (hl : g.Lasso path) : 2 ≤ path.length := by
  obtain ⟨stem, n, rfl⟩ := List.eq_nil_or_concat path |>.resolve_left hl.ne_nil
  have hn : n ∈ stem := by simpa using hl.back n (by simp)
  have hpos := List.length_pos_of_mem hn
  simp only [List.concat_eq_append, List.length_append, List.length_singleton]
  omega

/-- A search that ends without a cycle has cleared all that it was to look at. -/
theorem search_cleared {free path finished children nodes : List String}
    (h : g.search free path finished children = .finished nodes) (hc : g.Cleared finished) :
    g.Cleared nodes ∧ finished ⊆ nodes ∧ ∀ c ∈ children, c ∈ nodes := by
  fun_induction search g free path finished children generalizing nodes with
  | case1 _ _ finished =>
    obtain rfl : finished = nodes := by simpa using h
    exact ⟨hc, fun _ hn => hn, by simp⟩
  | case2 _ _ finished child rest hfinished ih =>
    obtain ⟨hcleared, hsub, hrest⟩ := ih h hc
    exact ⟨hcleared, hsub, by simpa using ⟨hsub hfinished, hrest⟩⟩
  | case3 => simp at h
  | case4 _ _ finished child rest _ _ finished' hfound ih₁ ih₂ =>
    obtain ⟨hcleared, hsub, hchildren⟩ := ih₁ hfound hc
    have hcons := hcleared.cons fun c he => hchildren c (Draft.mem_children.mpr he)
    obtain ⟨hcleared', hsub', hrest⟩ := ih₂ h hcons
    refine ⟨hcleared', fun n hn => hsub' (List.mem_cons_of_mem _ (hsub hn)), ?_⟩
    simpa using ⟨hsub' (List.mem_cons_self ..), hrest⟩
  | case5 => simp at h

/-- What a search finds is a way from the start of its path that comes back to itself. -/
theorem search_lasso {free path finished children found : List String}
    (h : g.search free path finished children = .cycle found) (hpath : path.Nodup)
    (hfree : free.Nodup) (hcover : ∀ n ∈ g.nodes, n ∈ free ↔ n ∉ path)
    (hnodes : ∀ c ∈ children, c ∈ g.nodes)
    (hway : ∀ c ∈ children, (path ++ [c]).IsChain g.Edge) : g.Lasso found := by
  fun_induction search g free path finished children generalizing found with
  | case1 => simp at h
  | case2 _ _ finished child rest _ ih =>
    exact ih h hpath hfree hcover (fun c hc => hnodes c (List.mem_cons_of_mem _ hc))
      (fun c hc => hway c (List.mem_cons_of_mem _ hc))
  | case3 free path finished child rest _ hin found' hfound ih =>
    obtain rfl : found' = found := by simpa using h
    have hnot : child ∉ path := (hcover child (hnodes child (by simp))).mp hin
    refine ih hfound ?_ (hfree.erase child) ?_ ?_ ?_
    · exact List.nodup_append.mpr ⟨hpath, by simp, by rintro a ha b hb rfl; simp_all⟩
    · intro n hn
      rw [hfree.mem_erase_iff, hcover n hn]
      simp [and_comm]
    · exact fun c hc => Draft.mem_nodes_of_mem_children hc
    · intro c hc
      refine List.isChain_append.mpr ⟨hway child (by simp), by simp, ?_⟩
      rintro x hx y hy
      obtain rfl : child = x := by simpa using hx
      obtain rfl : c = y := by simpa using hy
      exact Draft.mem_children.mp hc
  | case4 _ _ finished child rest _ _ finished' _ _ ih =>
    exact ih h hpath hfree hcover (fun c hc => hnodes c (List.mem_cons_of_mem _ hc))
      (fun c hc => hway c (List.mem_cons_of_mem _ hc))
  | case5 free path finished child rest _ hin =>
    obtain rfl : path ++ [child] = found := by simpa using h
    have hmem : child ∈ path := by
      by_contra hnot
      exact hin ((hcover child (hnodes child (by simp))).mpr hnot)
    refine ⟨hway child (by simp), by simpa using hpath, ?_, by simp⟩
    intro n hn
    obtain rfl : child = n := by simpa using hn
    simpa using hmem

/-- A search that finds a cycle has turned off from its path at the first child from which one can
be reached. -/
theorem exists_first_of_search {free path finished children found : List String}
    (h : g.search free path finished children = .cycle found) (hc : g.Cleared finished) :
    ∃ before child after, children = before ++ child :: after ∧ path ++ [child] <+: found ∧
      ∀ n ∈ before, ¬ g.LeadsToCycle n := by
  fun_induction search g free path finished children generalizing found with
  | case1 => simp at h
  | case2 _ _ finished child rest hfinished ih =>
    obtain ⟨before, first, after, rfl, hfound, hbefore⟩ := ih h hc
    refine ⟨child :: before, first, after, rfl, hfound, ?_⟩
    simpa using ⟨hc.not_leadsToCycle hfinished, hbefore⟩
  | case3 _ path finished child rest _ _ found' hfound ih =>
    obtain rfl : found' = found := by simpa using h
    obtain ⟨-, next, -, -, hprefix, -⟩ := ih hfound hc
    exact ⟨[], child, rest, rfl, (List.prefix_append _ [next]).trans hprefix, by simp⟩
  | case4 _ _ finished child rest _ _ finished' hfinished ih₁ ih₂ =>
    obtain ⟨hcleared, -, hchildren⟩ := search_cleared hfinished hc
    have hcons := hcleared.cons fun c he => hchildren c (Draft.mem_children.mpr he)
    obtain ⟨before, first, after, rfl, hfound, hbefore⟩ := ih₂ h hcons
    refine ⟨child :: before, first, after, rfl, hfound, ?_⟩
    simpa using ⟨hcons.not_leadsToCycle (by simp), hbefore⟩
  | case5 _ path _ child rest _ _ =>
    obtain rfl : path ++ [child] = found := by simpa using h
    exact ⟨[], child, rest, rfl, List.prefix_rfl, by simp⟩

theorem findCycle_eq_some_iff {path : List String} :
    g.findCycle = some path ↔ g.search g.nodes [] [] g.names = .cycle path := by
  unfold findCycle
  split <;> simp_all

theorem findCycle_eq_none_iff_finished :
    g.findCycle = none ↔ ∃ nodes, g.search g.nodes [] [] g.names = .finished nodes := by
  unfold findCycle
  split <;> simp_all

theorem findCycle_lasso {path : List String} (h : g.findCycle = some path) : g.Lasso path := by
  refine search_lasso (findCycle_eq_some_iff.mp h) List.nodup_nil ?_ (by simp) ?_ (by simp)
  · exact List.nodup_cons.mpr ⟨g.root_not_mem, g.nodup_names⟩
  · exact fun n hn => List.mem_cons_of_mem _ hn

/-- The search comes upon a cycle just if there is one. -/
theorem findCycle_eq_none_iff (hs : g.HasSource) : g.findCycle = none ↔ g.Acyclic := by
  constructor
  · intro h n hr
    obtain ⟨nodes, hfinished⟩ := findCycle_eq_none_iff_finished.mp h
    obtain ⟨hcleared, _, hnames⟩ := search_cleared hfinished .nil
    exact hcleared.acyclic n (hnames n (hr.target hs)) hr
  · intro ha
    by_contra h
    obtain ⟨path, hpath⟩ := Option.ne_none_iff_exists'.mp h
    exact (findCycle_lasso hpath).not_acyclic ha

/-- A search finds a cycle just if one can be reached from a target. The path that it finds leads
from child to child, from the first such target on and into a node that is on it already. -/
theorem findCycle_first (g : Graph) :
    (g.findCycle.isSome ↔ ∃ n ∈ g.names, g.LeadsToCycle n) ∧
    ∀ path, g.findCycle = some path →
      2 ≤ path.length ∧ path.IsChain (fun a b => b ∈ g.children a) ∧ path.dropLast.Nodup ∧
      (∃ last ∈ path.dropLast, path.getLast? = some last) ∧
      ∃ before start after, g.names = before ++ start :: after ∧ path.head? = some start ∧
        g.LeadsToCycle start ∧ ∀ n ∈ before, ¬ g.LeadsToCycle n := by
  have hfirst {path : List String} (h : g.findCycle = some path) :
      ∃ before start after, g.names = before ++ start :: after ∧ path.head? = some start ∧
        g.LeadsToCycle start ∧ ∀ n ∈ before, ¬ g.LeadsToCycle n := by
    obtain ⟨before, start, after, hnames, ⟨rest, hpath⟩, hbefore⟩ :=
      exists_first_of_search (findCycle_eq_some_iff.mp h) .nil
    obtain ⟨start', hhead, hleads⟩ := (findCycle_lasso h).exists_leadsToCycle
    obtain rfl : start = start' := by simpa [← hpath] using hhead
    exact ⟨before, start, after, hnames, hhead, hleads, hbefore⟩
  refine ⟨⟨fun h => ?_, fun ⟨n, hn, hleads⟩ => ?_⟩, fun path h => ?_⟩
  · obtain ⟨path, hpath⟩ := Option.isSome_iff_exists.mp h
    obtain ⟨before, start, after, hnames, -, hleads, -⟩ := hfirst hpath
    exact ⟨start, by simp [hnames], hleads⟩
  · by_contra hnone
    obtain ⟨nodes, hnodes⟩ := findCycle_eq_none_iff_finished.mp (by simpa using hnone)
    obtain ⟨hcleared, -, hnames⟩ := search_cleared hnodes .nil
    exact hcleared.not_leadsToCycle (hnames n hn) hleads
  · have hl := findCycle_lasso h
    obtain ⟨last, hlast⟩ := Option.isSome_iff_exists.mp (List.getLast?_isSome.mpr hl.ne_nil)
    refine ⟨hl.two_le_length, ?_, hl.nodup, ⟨last, hl.back last hlast, hlast⟩, hfirst h⟩
    exact hl.way.imp fun a b he => Draft.mem_children.mpr he

/-- A cycle of two behind a target that has a harmless one before it and another one beside it. -/
def stemmed : Graph :=
  (Draft.ofCalls [.edge "a" "b", .edge "c" "a", .edge "c" "d", .edge "d" "e", .edge "e" "d"]).build

theorem findCycle_stemmed :
    stemmed.findCycle = some ["c", "d", "e", "d"] ∧
      2 ≤ ["c", "d", "e", "d"].length ∧
      ["c", "d", "e", "d"].IsChain (fun a b => b ∈ stemmed.children a) ∧
      ["c", "d", "e", "d"].dropLast.Nodup ∧
      (∃ last ∈ ["c", "d", "e", "d"].dropLast, ["c", "d", "e", "d"].getLast? = some last) ∧
      ∃ before start after, stemmed.names = before ++ start :: after ∧
        ["c", "d", "e", "d"].head? = some start ∧ stemmed.LeadsToCycle start ∧
        ∀ n ∈ before, ¬ stemmed.LeadsToCycle n := by
  have hnodes : stemmed.nodes = [root, "a", "b", "c", "d", "e"] := by decide +kernel
  have hnames : stemmed.names = ["a", "b", "c", "d", "e"] := by decide +kernel
  have hchildren : stemmed.children "a" = ["b"] ∧ stemmed.children "b" = [] ∧
      stemmed.children "c" = ["a", "d"] ∧ stemmed.children "d" = ["e"] ∧
      stemmed.children "e" = ["d"] := by decide +kernel
  have hfound : stemmed.findCycle = some ["c", "d", "e", "d"] := by
    simp [findCycle, search, hnodes, hnames, hchildren, root]
  exact ⟨hfound, (findCycle_first stemmed).2 _ hfound⟩

end Provision.Graph
