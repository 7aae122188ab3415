import Provision.Proofs.Graph.InstallOrder

namespace Provision.Graph

variable {g : Graph} {order : List String}

/-- The dependency of a target that comes latest in an order. The start node comes before all
others. -/
def latest (g : Graph) (order : List String) (n : String) : String :=
  (order.filter (· ∈ g.parents n)).getLast?.getD root

/-- The place of a node in an order that the start node begins. -/
def place (order : List String) (n : String) : Nat := (root :: order).idxOf n

/-- The first of two targets is released before the second: by an earlier dependency, or by the
same one, which has it first among its dependents. -/
def Sooner (g : Graph) (order : List String) (u v : String) : Prop :=
  place order (g.latest order u) < place order (g.latest order v) ∨
    g.latest order u = g.latest order v ∧
      (g.children (g.latest order u)).idxOf u < (g.children (g.latest order u)).idxOf v

/-- The dependency that releases a target decides when its turn comes. -/
structure Ruled (g : Graph) (order : List String) : Prop where
  of_latest : ∀ u ∈ order, ∀ v ∈ order,
    place order (g.latest order u) < place order (g.latest order v) → order.idxOf u < order.idxOf v
  siblings : ∀ u ∈ order, ∀ v ∈ order, g.latest order u = g.latest order v →
    (order.idxOf u < order.idxOf v ↔
      (g.children (g.latest order u)).idxOf u < (g.children (g.latest order u)).idxOf v)

/-! ## Turns -/

/-- A target that has been released, with the nodes that had reported when it was: the last of them
is the latest of its dependencies. -/
structure Released (g : Graph) (told : List String) (a n : String) : Prop where
  edge : g.Edge a n
  parents : ∀ p, g.Edge p n → p ∈ told ++ [a]

theorem mem_freed {told : List String} {a n : String} :
    n ∈ g.freed (told ++ [a]) a ↔ g.Released told a n := by
  simp only [freed, List.mem_filter, Draft.mem_children, List.all_eq_true, Draft.mem_parents,
    decide_eq_true_eq]
  exact ⟨fun h => ⟨h.1, h.2⟩, fun h => ⟨h.edge, h.parents⟩⟩

theorem place_of_prefix {told : List String} {a : String} (hfirst : told ++ [a] <+: root :: order)
    (hnodup : (root :: order).Nodup) : place order a = told.length := by
  have ha : a ∉ told := by
    have hn := hnodup.sublist hfirst.sublist
    simpa using (List.nodup_append.mp hn).2.2 a
  rw [place, ← hfirst.idxOf_eq_of_mem (by simp), List.idxOf_append_of_notMem ha]
  simp

theorem Released.latest_eq {told : List String} {a n : String} (h : g.Released told a n)
    (hfirst : told ++ [a] <+: root :: order) (hnodup : (root :: order).Nodup) :
    g.latest order n = a := by
  obtain ⟨rest, hrest⟩ := hfirst
  have hlater : rest.filter (· ∈ g.parents n) = [] := by
    rw [List.filter_eq_nil_iff]
    intro p hp hparent
    have hedge : g.Edge p n := Draft.mem_parents.mp (of_decide_eq_true hparent)
    rw [← hrest] at hnodup
    exact (List.nodup_append.mp hnodup).2.2 p (h.parents p hedge) p hp rfl
  cases told with
  | nil =>
    obtain ⟨rfl, rfl⟩ : root = a ∧ order = rest := by simpa [eq_comm] using hrest
    rw [latest, hlater]
    rfl
  | cons b told =>
    obtain ⟨rfl, rfl⟩ : b = root ∧ told ++ a :: rest = order := by simpa using hrest
    have ha : a ∈ g.parents n := Draft.mem_parents.mpr h.edge
    rw [latest, List.filter_append, List.filter_cons, if_pos (by simpa using ha), hlater]
    simp

theorem pairwise_idxOf {l : List String} (h : l.Nodup) :
    l.Pairwise fun u v => l.idxOf u < l.idxOf v := by
  rw [List.pairwise_iff_getElem]
  intro i j hi hj hij
  rwa [h.idxOf_getElem i hi, h.idxOf_getElem j hj]

namespace Line

theorem prefix_turn (l : Line) :
    l.told ++ l.waiting <+: (turn g l).told ++ (turn g l).waiting := by
  unfold turn
  split
  · exact List.prefix_rfl
  · next a rest hw => simp [hw]

theorem prefix_after {k m : Nat} (h : k ≤ m) : (after g k).told ++ (after g k).waiting <+:
    (after g m).told ++ (after g m).waiting := by
  induction h with
  | refl => exact List.prefix_rfl
  | step _ ih =>
    rw [after_succ]
    exact ih.trans (prefix_turn _)

/-- Those who come into the line later are released later. -/
theorem released_after {m : Nat} (hend : after g m = ⟨root :: order, []⟩)
    (hnodup : (root :: order).Nodup) {k : Nat} (hk : k ≤ m) :
    ∃ out, (after g k).told ++ (after g k).waiting = root :: out ∧
      (∀ n ∈ out, ∃ told a, g.Released told a n ∧ told ++ [a] <+: (after g k).told) ∧
      out.Pairwise (g.Sooner order) := by
  -- In each turn the node that reports puts those that it releases at the end of the line.
  induction k with
  | zero => exact ⟨[], rfl, by simp, .nil⟩
  | succ k ih =>
    obtain ⟨out, hline, hout, hpairwise⟩ := ih (by omega)
    have hfirst := prefix_after (g := g) hk
    rw [hend, List.append_nil] at hfirst
    rw [after_succ] at hfirst ⊢
    generalize after g k = l at hline hout hfirst
    obtain ⟨told, waiting⟩ := l
    cases waiting with
    | nil => exact ⟨out, hline, hout, hpairwise⟩
    | cons a rest =>
      have htold : told ++ [a] <+: root :: order := by
        refine List.IsPrefix.trans ?_ hfirst
        simp [turn]
      have hnew {n : String} (hn : n ∈ g.freed (told ++ [a]) a) : g.latest order n = a :=
        (mem_freed.mp hn).latest_eq htold hnodup
      refine ⟨out ++ g.freed (told ++ [a]) a, ?_, ?_, ?_⟩
      · simpa [turn] using congrArg (· ++ g.freed (told ++ [a]) a) hline
      · intro n hn
        rcases List.mem_append.mp hn with hn | hn
        · obtain ⟨before, b, hr, hb⟩ := hout n hn
          exact ⟨before, b, hr, hb.trans (List.prefix_append _ _)⟩
        · exact ⟨told, a, mem_freed.mp hn, List.prefix_rfl⟩
      · refine List.pairwise_append.mpr ⟨hpairwise, ?_, ?_⟩
        · have hchildren := (pairwise_idxOf (g.nodup_children a)).sublist
            (List.filter_sublist (p := fun n => (g.parents n).all (· ∈ told ++ [a])))
          refine List.Pairwise.imp_of_mem (fun hu hv huv => .inr ?_) hchildren
          rw [hnew hu, hnew hv]
          exact ⟨rfl, huv⟩
        · intro u hu v hv
          obtain ⟨before, b, hr, hb⟩ := hout u hu
          have hbefore : before ++ [b] <+: root :: order :=
            hb.trans ((List.prefix_append _ _).trans htold)
          refine .inl ?_
          rw [hr.latest_eq hbefore hnodup, hnew hv, place_of_prefix hbefore hnodup,
            place_of_prefix htold hnodup]
          have hlength := hb.length_le
          simp only [List.length_append, List.length_singleton] at hlength
          omega

end Line

theorem nodup_root_installOrder (hs : g.HasSource) : (root :: g.installOrder).Nodup :=
  List.nodup_cons.mpr ⟨fun h => g.root_not_mem (mem_names_of_mem_installOrder hs h),
    nodup_installOrder hs⟩

/-- Every target of the order has been released by the latest of its dependencies, and the order is
that in which they were released. -/
theorem installOrder_released (hs : g.HasSource) :
    (∀ n ∈ g.installOrder, ∃ told, g.Released told (g.latest g.installOrder n) n ∧
      told ++ [g.latest g.installOrder n] <+: root :: g.installOrder) ∧
    g.installOrder.Pairwise (g.Sooner g.installOrder) := by
  obtain ⟨log, t, hend, _⟩ := installOrder_log hs
  have hline := hend.line_eq
  rw [Traversal.Log.told, hend.told_eq_installOrder hs] at hline
  obtain ⟨out, hout, hreleased, hpairwise⟩ :=
    Line.released_after hline (nodup_root_installOrder hs) le_rfl
  rw [hline] at hout hreleased
  obtain rfl : g.installOrder = out := by simpa using hout
  refine ⟨fun n hn => ?_, hpairwise⟩
  obtain ⟨told, a, hr, hfirst⟩ := hreleased n hn
  rw [hr.latest_eq hfirst (nodup_root_installOrder hs)]
  exact ⟨told, hr, hfirst⟩

/-! ## The rule -/

theorem Sooner.not_sooner {u v : String} (h : g.Sooner order u v) : ¬ g.Sooner order v u := by
  rintro (hplace | ⟨hlatest, hchild⟩)
  · rcases h with h | ⟨h, _⟩
    · omega
    · rw [h] at hplace
      omega
  · rcases h with h | ⟨_, h⟩
    · rw [hlatest] at h
      omega
    · rw [hlatest] at hchild
      omega

theorem idxOf_lt_iff_sooner (hpairwise : order.Pairwise (g.Sooner order))
    {u v : String} (hu : u ∈ order) (hv : v ∈ order) :
    order.idxOf u < order.idxOf v ↔ g.Sooner order u v := by
  have hsooner {x y : String} (hx : x ∈ order) (hy : y ∈ order)
      (h : order.idxOf x < order.idxOf y) : g.Sooner order x y := by
    have hget := List.pairwise_iff_getElem.mp hpairwise _ _ (List.idxOf_lt_length_of_mem hx)
      (List.idxOf_lt_length_of_mem hy) h
    simpa using hget
  refine ⟨hsooner hu hv, fun h => ?_⟩
  rcases Nat.lt_trichotomy (order.idxOf u) (order.idxOf v) with hlt | heq | hgt
  · exact hlt
  · obtain rfl : u = v := (List.idxOf_inj hu).mp heq
    exact absurd h h.not_sooner
  · exact absurd (hsooner hv hu hgt) h.not_sooner

theorem ruled_of_pairwise (hpairwise : order.Pairwise (g.Sooner order)) : g.Ruled order where
  of_latest u hu v hv h := (idxOf_lt_iff_sooner hpairwise hu hv).mpr (.inl h)
  siblings u hu v hv h := by
    rw [idxOf_lt_iff_sooner hpairwise hu hv, Sooner, h]
    simp

/-! ## Only one order keeps the rule -/

theorem place_of_mem {n : String} (hnodup : (root :: order).Nodup) (hn : n ∈ order) :
    place order n = order.idxOf n + 1 := by
  have hne : root ≠ n := fun h => (List.nodup_cons.mp hnodup).1 (h ▸ hn)
  rw [place, List.idxOf_cons_ne _ hne]

theorem place_root (order : List String) : place order root = 0 := List.idxOf_cons_self

theorem latest_eq_root_or (g : Graph) (order : List String) (n : String) :
    g.latest order n = root ∨ g.latest order n ∈ order ∧ g.Edge (g.latest order n) n := by
  cases h : (order.filter (· ∈ g.parents n)).getLast? with
  | none => exact .inl (by rw [latest, h]; rfl)
  | some a =>
    have hlatest : g.latest order n = a := by rw [latest, h]; rfl
    obtain ⟨ha, hparent⟩ := List.mem_filter.mp (List.mem_of_getLast? h)
    rw [hlatest]
    exact .inr ⟨ha, Draft.mem_parents.mp (of_decide_eq_true hparent)⟩

/-- No dependency comes later than the latest. -/
theorem place_le_latest (hnodup : (root :: order).Nodup) {p n : String} (hp : p ∈ order)
    (he : g.Edge p n) : place order p ≤ place order (g.latest order n) := by
  have hmem : p ∈ order.filter (· ∈ g.parents n) :=
    List.mem_filter.mpr ⟨hp, decide_eq_true (Draft.mem_parents.mpr he)⟩
  rcases List.eq_nil_or_concat (order.filter (· ∈ g.parents n)) with hnil | ⟨init, a, hconcat⟩
  · rw [hnil] at hmem
    exact absurd hmem List.not_mem_nil
  · have hlatest : g.latest order n = a := by rw [latest, hconcat]; simp
    have hpairwise := (pairwise_idxOf hnodup.of_cons).sublist
      (List.filter_sublist (p := (· ∈ g.parents n)))
    have ha : a ∈ order := by
      have hlast : a ∈ order.filter (· ∈ g.parents n) := by rw [hconcat]; simp
      exact List.mem_of_mem_filter hlast
    rw [hconcat, List.concat_eq_append] at hmem hpairwise
    rw [hlatest, place_of_mem hnodup hp, place_of_mem hnodup ha]
    rcases List.mem_append.mp hmem with hp | hp
    · have := (List.pairwise_append.mp hpairwise).2.2 p hp a (by simp)
      omega
    · rw [List.mem_singleton.mp hp]

/-- Under the rule no target comes before a dependency: its latest dependency would come before a
dependency of its own, and so on without end. -/
theorem Ruled.place_latest_lt (hr : g.Ruled order) (hnodup : (root :: order).Nodup)
    (hself : ∀ n ∈ order, ¬ g.Edge n n) {n : String} (hn : n ∈ order) :
    place order (g.latest order n) < place order n := by
  induction hk : order.length - order.idxOf n using Nat.strong_induction_on generalizing n with
  | _ k ih =>
    by_contra hlate
    have hplace := place_of_mem hnodup hn
    rcases latest_eq_root_or g order n with hroot | ⟨hmem, hedge⟩
    · rw [hroot, place_root] at hlate
      omega
    · have hne : g.latest order n ≠ n := fun h => hself n hn (by rwa [h] at hedge)
      have hlatest := place_of_mem hnodup hmem
      have hidx : order.idxOf (g.latest order n) ≠ order.idxOf n := fun h =>
        hne ((List.idxOf_inj hmem).mp h)
      have hlength := List.idxOf_lt_length_of_mem hmem
      have hbefore := hr.of_latest _ hmem n hn (ih _ (by omega) hmem rfl)
      omega

theorem Ruled.idxOf_lt (hr : g.Ruled order) (hnodup : (root :: order).Nodup)
    (hself : ∀ n ∈ order, ¬ g.Edge n n) {p n : String} (hp : p ∈ order) (hn : n ∈ order)
    (he : g.Edge p n) : order.idxOf p < order.idxOf n := by
  have hle := place_le_latest hnodup hp he
  have hlt := hr.place_latest_lt hnodup hself hn
  rw [place_of_mem hnodup hp] at hle
  rw [place_of_mem hnodup hn] at hlt
  omega

theorem latest_append {rest : List String} {n : String} (h : ∀ p ∈ rest, ¬ g.Edge p n) :
    g.latest (order ++ rest) n = g.latest order n := by
  have hnone : rest.filter (· ∈ g.parents n) = [] := by
    rw [List.filter_eq_nil_iff]
    exact fun p hp hparent => h p hp (Draft.mem_parents.mp (of_decide_eq_true hparent))
  rw [latest, List.filter_append, hnone, List.append_nil, latest]

theorem place_append {a : String} (rest : List String) (h : a ∈ root :: order) :
    place (order ++ rest) a = place order a := by
  rw [place, ← List.cons_append, List.idxOf_append_of_mem h, place]

/-- A target that comes next under the rule comes before every other one whose dependencies have
all come. -/
theorem Ruled.sooner_of_next {before rest : List String} {u v : String}
    (hr : g.Ruled (before ++ u :: rest)) (hnodup : (before ++ u :: rest).Nodup) (hv : v ∈ rest)
    (hdone : ∀ x, x = u ∨ x = v → ∀ p ∈ u :: rest, ¬ g.Edge p x) : g.Sooner before u v := by
  have hu : u ∈ before ++ u :: rest := by simp
  have hv' : v ∈ before ++ u :: rest := by simp [hv]
  have hlatest (x : String) (hx : x = u ∨ x = v) :
      g.latest (before ++ u :: rest) x = g.latest before x := latest_append (hdone x hx)
  have hplace (x : String) : place (before ++ u :: rest) (g.latest before x) =
      place before (g.latest before x) := by
    refine place_append _ ?_
    rcases latest_eq_root_or g before x with h | h
    · simp [h]
    · exact List.mem_cons_of_mem _ h.1
  have hlt : (before ++ u :: rest).idxOf u < (before ++ u :: rest).idxOf v :=
    (List.pairwise_cons.mp (List.pairwise_append.mp (pairwise_idxOf hnodup)).2.1).1 v hv
  rcases Nat.lt_trichotomy (place before (g.latest before u)) (place before (g.latest before v))
    with h | h | h
  · exact .inl h
  · have hsame : g.latest before u = g.latest before v := by
      refine (List.idxOf_inj ?_).mp h
      rcases latest_eq_root_or g before u with h | h
      · simp [h]
      · exact List.mem_cons_of_mem _ h.1
    have hsiblings := hr.siblings u hu v hv'
    rw [hlatest u (.inl rfl), hlatest v (.inr rfl)] at hsiblings
    exact .inr ⟨hsame, (hsiblings hsame).mp hlt⟩
  · have hback := hr.of_latest v hv' u hu
    rw [hlatest u (.inl rfl), hlatest v (.inr rfl), hplace, hplace] at hback
    have := hback h
    omega

theorem Ruled.not_edge_next {before rest : List String} {u : String}
    (hr : g.Ruled (before ++ u :: rest)) (hnodup : (root :: (before ++ u :: rest)).Nodup)
    (hself : ∀ n ∈ before ++ u :: rest, ¬ g.Edge n n) : ∀ p ∈ u :: rest, ¬ g.Edge p u := by
  intro p hp he
  have hlt := hr.idxOf_lt hnodup hself (List.mem_append_right before hp) (by simp) he
  rcases List.mem_cons.mp hp with rfl | hp
  · exact absurd hlt (lt_irrefl _)
  · have hpairwise := pairwise_idxOf hnodup.of_cons
    have hgt := (List.pairwise_cons.mp (List.pairwise_append.mp hpairwise).2.1).1 p hp
    omega

theorem Ruled.eq_of_perm {order' : List String} (hr : g.Ruled order) (hr' : g.Ruled order')
    (hperm : order.Perm order') (hnodup : (root :: order).Nodup)
    (hself : ∀ n ∈ order, ¬ g.Edge n n) : order = order' := by
  have hnodup' : (root :: order').Nodup := (hperm.cons root).nodup_iff.mp hnodup
  have hself' : ∀ n ∈ order', ¬ g.Edge n n := fun n hn => hself n (hperm.mem_iff.mpr hn)
  suffices hrest : ∀ rest before rest', order = before ++ rest → order' = before ++ rest' →
      rest = rest' from hrest order [] order' rfl rfl
  intro rest
  induction rest with
  | nil =>
    rintro before rest' rfl rfl
    simpa using hperm.length_eq
  | cons u rest ih =>
    rintro before rest' h h'
    have hpermrest : (u :: rest).Perm rest' := by
      rw [h, h'] at hperm
      exact (List.perm_append_left_iff before).mp hperm
    cases rest' with
    | nil => simp at hpermrest
    | cons v rest' =>
      by_cases huv : u = v
      · subst huv
        rw [ih (before ++ [u]) rest' (by simpa using h) (by simpa using h')]
      · -- The two orders agree so far, and each of them has its next target as the sooner one.
        subst h h'
        have hu : u ∈ rest' := (List.mem_cons.mp (hpermrest.mem_iff.mp (by simp))).resolve_left huv
        have hv : v ∈ rest :=
          (List.mem_cons.mp (hpermrest.mem_iff.mpr (by simp))).resolve_left (Ne.symm huv)
        have hnext := hr.not_edge_next hnodup hself
        have hnext' := hr'.not_edge_next hnodup' hself'
        have huv := hr.sooner_of_next hnodup.of_cons hv (by
          rintro x (rfl | rfl) p hp
          · exact hnext p hp
          · exact hnext' p (hpermrest.mem_iff.mp hp))
        have hvu := hr'.sooner_of_next hnodup'.of_cons hu (by
          rintro x (rfl | rfl) p hp
          · exact hnext' p hp
          · exact hnext p (hpermrest.mem_iff.mpr hp))
        exact absurd hvu huv.not_sooner

theorem not_edge_self (hs : g.HasSource) {n : String} (hn : n ∈ g.installOrder) : ¬ g.Edge n n :=
  fun he => ((mem_installOrder hs).mp hn).2 n (.edge he) (.edge he)

/-- What the calls that make a graph say about an order of its targets. -/
structure Decided (calls : List Call) (g : Graph) (order : List String) : Prop where
  nodup : (root :: order).Nodup
  ruled : g.Ruled order
  unique : ∀ other, other.Perm order → g.Ruled other → other = order
  edge_latest : ∀ n ∈ order, g.Edge (g.latest order n) n
  le_latest : ∀ n ∈ order, ∀ p, g.Edge p n →
    p ∈ root :: order ∧ place order p ≤ place order (g.latest order n)
  /-- The dependents of a node stand in the order of the calls; those that depend on nothing follow
  the others on the start node. -/
  children : ∀ a, g.children a =
    (((calls.filterMap Call.edge?).filter (·.1 == a)).map Prod.snd).eraseDups ++
      if a = root then
        ((calls.flatMap Call.names).filter (· ≠ root)).eraseDups.filter
          (· ∉ (calls.filterMap Call.edge?).map Prod.snd)
      else []

/-- The order of installation is the only one that keeps the rule. -/
theorem installOrder_decided (calls : List Call) (hroot : ∀ p, Call.edge p root ∉ calls) :
    Decided calls (Draft.ofCalls calls).build (Draft.ofCalls calls).build.installOrder := by
  have hs : (Draft.ofCalls calls).build.HasSource :=
    Draft.hasSource_build fun p => Draft.mem_edges_ofCalls.not.mpr (hroot p)
  obtain ⟨hreleased, hpairwise⟩ := installOrder_released hs
  have hnodup := nodup_root_installOrder hs
  have hruled := ruled_of_pairwise hpairwise
  refine ⟨hnodup, hruled, ?_, ?_, ?_, ?_⟩
  · intro other hperm hother
    exact (hruled.eq_of_perm hother hperm.symm hnodup fun n hn => not_edge_self hs hn).symm
  · intro n hn
    obtain ⟨told, hr, _⟩ := hreleased n hn
    exact hr.edge
  · intro n hn p he
    obtain ⟨told, hr, hfirst⟩ := hreleased n hn
    have hp := hfirst.subset (hr.parents p he)
    refine ⟨hp, ?_⟩
    rcases List.mem_cons.mp hp with rfl | hp
    · simp [place_root]
    · exact place_le_latest hnodup hp he
  · intro a
    rw [Draft.children_build, Draft.children_ofCalls, Draft.orphans_ofCalls, Draft.names_ofCalls]

/-- A diamond with one long side, beside a target that a call hangs on the start node and one that
depends on nothing. -/
def kite : List Call :=
  [.node "z", .edge "a" "c", .edge "a" "b", .edge "b" "d", .edge "d" "e", .edge "c" "e",
    .edge "c" "f", .edge root "y"]

theorem installOrder_kite :
    (∀ p, Call.edge p root ∉ kite) ∧
    Decided kite (Draft.ofCalls kite).build (Draft.ofCalls kite).build.installOrder := by
  have hroot : ∀ p, Call.edge p root ∉ kite := by simp [kite, root]
  exact ⟨hroot, installOrder_decided kite hroot⟩

example : (Draft.ofCalls kite).build.installOrder = ["y", "z", "a", "c", "b", "f", "d", "e"] := by
  decide +kernel

end Provision.Graph
