import Provision.Proofs.Graph.InstallOrder

namespace Provision.Traversal

variable {g : Graph} {h : Graph.History} {log : Log} {t u : Traversal} {a : String}

/-- The traversals that reports lead to, each with the visits that have been reported on. -/
inductive Reached (g : Graph) : Graph.History → Traversal → Prop
  | start : Reached g [] (start g)
  | advance {h : Graph.History} {t : Traversal} (success : Bool) : Reached g h t →
    Reached g (h ++ t.current.toList.map (·, success)) (t.advance g success).2

/-! ## Counts that cannot go below zero -/

/-- Tells a node that one of its dependencies has reported. There is no result where the node does
not wait for any. -/
def notify? (success : Bool) (t : Traversal) (name : String) : Option Traversal :=
  if t.pending name = 0 then none else some (notify success t name)

def release? (g : Graph) (t : Traversal) (name : String) (success : Bool) : Option Traversal :=
  (g.children name).foldlM (notify? success) t

def start? (g : Graph) : Option Traversal :=
  release? g ⟨[], none, fun n => (g.parents n).length, fun _ => false, [], []⟩ Graph.root true

theorem eq_foldl_of_foldlM_notify? {success : Bool} {ns : List String}
    (h : ns.foldlM (notify? success) t = some u) : u = ns.foldl (notify success) t := by
  induction ns generalizing t with
  | nil => exact (Option.some.inj h).symm
  | cons n ns ih =>
    obtain ⟨t', ht', h⟩ := Option.bind_eq_some_iff.mp h
    rw [notify?] at ht'
    split at ht'
    · cases ht'
    · obtain rfl := Option.some.inj ht'
      exact ih h

def next? (g : Graph) (t : Traversal) : Option (Option String × Traversal) :=
  match _hq : t.queue with
  | [] => some (none, t)
  | name :: rest =>
    if t.doomed name then
      match _hr : release? g { t with queue := rest, skipped := t.skipped ++ [name] } name false with
      | none => none
      | some u => next? g u
    else some (some name, { t with queue := rest, current := some name })
termination_by load g t
decreasing_by
  rw [eq_foldl_of_foldlM_notify? _hr]
  refine Nat.lt_of_le_of_lt (load_release_le ..) ?_
  simp only [load, ‹t.queue = _›, List.length_cons]
  omega

def report? (g : Graph) (t : Traversal) (success : Bool) : Option Traversal :=
  match t.current with
  | none => some t
  | some name =>
    release? g { t with current := none, visited := t.visited ++ [name] } name success

def advance? (g : Graph) (t : Traversal) (success : Bool) : Option (Step × Traversal) := do
  match ← next? g (← report? g t success) with
  | (some name, t') => return (.visit name, t')
  | (none, t') => return (.done (unvisited g t'), t')

theorem foldlM_notify? (success : Bool) {ns : List String} (hn : ns.Nodup)
    (hpos : ∀ n ∈ ns, 0 < t.pending n) :
    ns.foldlM (notify? success) t = some (ns.foldl (notify success) t) := by
  induction ns generalizing t with
  | nil => rfl
  | cons m ns ih =>
    obtain ⟨hm, hns⟩ := List.nodup_cons.mp hn
    obtain ⟨hfirst, hrest⟩ := List.forall_mem_cons.mp hpos
    -- A report to one node leaves the counts of the others alone.
    have hkept (n : String) (h : n ∈ ns) : 0 < (notify success t m).pending n := by
      have hne : n ≠ m := fun he => hm (he ▸ h)
      simpa [notify, set, hne] using hrest n h
    rw [List.foldlM_cons, notify?, if_neg hfirst.ne']
    exact ih hns hkept

theorem release?_eq (hpos : ∀ n, g.Edge a n → 0 < t.pending n) (success : Bool) :
    release? g t a success = some (release g t a success) :=
  foldlM_notify? success (g.nodup_children a) fun n hn => hpos n (Graph.Draft.mem_children.mp hn)

theorem start?_eq (g : Graph) : start? g = some (start g) := by
  refine release?_eq (fun n he => ?_) true
  exact List.length_pos_of_mem (Graph.Draft.mem_parents.mpr he)

/-- Whoever depends on the target whose turn it is still counts it. -/
theorem Consistent.release?_eq (hc : Consistent g log t) (hs : g.HasSource) {rest : List String}
    (hout : t.current.toList ++ t.queue = a :: rest) (hpending : u.pending = t.pending)
    (success : Bool) : release? g u a success = some (release g u a success) := by
  refine Traversal.release?_eq (fun n he => ?_) success
  rw [hpending]
  exact (hc.pending_pos hs (hc.not_mem_told hout) he).2

theorem Consistent.next?_eq (hc : Consistent g log t) (hs : g.HasSource)
    (hcurrent : t.current = none) : next? g t = some (Traversal.next g t) := by
  fun_induction Traversal.next g t generalizing log with
  | case1 t hq =>
    rw [next?]
    split <;> simp_all
  | case2 t name rest hq t' hdoomed =>
    rename_i ih
    have hout : t.current.toList ++ t.queue = name :: rest := by simp [hcurrent, hq]
    have hreport := hc.report hs (u := { t' with skipped := t.skipped ++ [name] })
      (o := .skipped) (iff_of_true rfl hdoomed) hout hcurrent rfl rfl
      (by simpa [t', Log.history, Outcome.report?] using hc.visited)
      (by simp [Log.skips, hc.skipped])
    have hreleased := hc.release?_eq hs (u := { t' with skipped := t.skipped ++ [name] }) hout rfl
      false
    have hrest := ih hreport (by rw [release_eq]; exact hcurrent)
    rw [next?]
    split
    · simp_all
    · next name' rest' hq' =>
      obtain ⟨rfl, rfl⟩ : name = name' ∧ rest = rest' := by simpa [hq] using hq'
      simp only [hdoomed, if_true]
      split
      · next hr => cases hr.symm.trans hreleased
      · next v hr =>
        obtain rfl := Option.some.inj (hr.symm.trans hreleased)
        exact hrest
  | case3 t name rest hq t' =>
    rename_i hdoomed
    rw [next?]
    split
    · simp_all
    · next name' rest' hq' =>
      obtain ⟨rfl, rfl⟩ : name = name' ∧ rest = rest' := by simpa [hq] using hq'
      rw [if_neg hdoomed]

/-- No report finds a count at zero, so it does not matter how the counts are kept. -/
theorem Sound.advance?_eq (ht : Sound g log t) (hs : g.HasSource) (success : Bool) :
    advance? g t success = some (t.advance g success) := by
  obtain ⟨more, hc, -, hcurrent, -⟩ := ht.report hs success
  have hreport : report? g t success = some (Traversal.report g t success) := by
    cases hname : t.current with
    | none => simp [report?, Traversal.report, hname]
    | some name =>
      have hout : t.current.toList ++ t.queue = name :: t.queue := by simp [hname]
      have hreleased := ht.release?_eq hs hout
        (u := { t with current := none, visited := t.visited ++ [name] }) rfl success
      simpa [report?, Traversal.report, hname] using hreleased
  have hnext := hc.next?_eq hs hcurrent
  rw [advance?, hreport, Traversal.advance]
  simp only [Option.bind_eq_bind, Option.bind_some, hnext]
  split <;> simp_all

/-! ## The books of a traversal -/

/-- The nodes that have reported: the start node, the visited targets and the skipped ones. -/
def heard (t : Traversal) : List String := Graph.root :: (t.visited ++ t.skipped)

/-- What a traversal notes of the nodes is what has happened to them, by the visits that have been
reported on. -/
structure Balanced (g : Graph) (h : Graph.History) (t : Traversal) : Prop where
  visited : t.visited = h.map Prod.fst
  pending : ∀ n, t.pending n = (g.parents n).countP (· ∉ t.heard)
  nodup : (t.heard ++ t.current.toList ++ t.queue).Nodup
  /-- The targets that have been in the queue, be it that they have left it. -/
  queued : ∀ n, n ∈ t.queue ∨ t.current = some n ∨ n ∈ t.visited ∨ n ∈ t.skipped ↔
    n ∈ g.names ∧ t.pending n = 0
  doomed : ∀ n, t.doomed n = true ↔ ∃ p, g.Edge p n ∧ ((p, false) ∈ h ∨ p ∈ t.skipped)

/-- A target that has reported was either visited or skipped. -/
theorem Consistent.reported_perm (hc : Consistent g log t) :
    (t.visited ++ t.skipped).Perm (log.map Prod.fst) := by
  have hsplit := List.filter_append_perm (fun e : String × Outcome => e.2 ≠ .skipped) log
  rw [hc.visited, hc.skipped, Log.map_fst_history, Log.skips, ← List.map_append]
  simpa using hsplit.map Prod.fst

theorem Consistent.heard_perm (hc : Consistent g log t) : t.heard.Perm log.told :=
  hc.reported_perm.cons _

theorem Consistent.mem_skipped (hc : Consistent g log t) {n : String} :
    n ∈ t.skipped ↔ (n, .skipped) ∈ log := by
  rw [hc.skipped, Log.skips]
  simp

theorem Consistent.balanced (hc : Consistent g log t) : Balanced g log.history t where
  visited := hc.visited
  pending n := by
    rw [hc.pending n]
    exact List.countP_congr fun p _ => by simp [hc.heard_perm.mem_iff]
  nodup := by
    have hplaces : (Graph.root :: t.released log).Nodup :=
      List.nodup_cons.mpr ⟨hc.root_not_mem, hc.nodup⟩
    rw [List.append_assoc]
    exact ((hc.heard_perm.append_right _).nodup_iff).mpr hplaces
  queued n := by
    have hreported := hc.reported_perm.mem_iff (a := n)
    rw [← hc.released n, Traversal.released, List.mem_append, ← hreported]
    simp only [List.mem_append, Option.mem_toList]
    tauto
  doomed n := by
    rw [hc.doomed n]
    constructor
    · rintro ⟨⟨p, o⟩, he, hne, hedge⟩
      refine ⟨p, hedge, ?_⟩
      cases o with
      | success => exact absurd rfl hne
      | failure => exact .inl (Log.mem_history.mpr he)
      | skipped => exact .inr (hc.mem_skipped.mpr he)
    · rintro ⟨p, hedge, hp | hp⟩
      · exact ⟨_, Log.mem_history.mp hp, by simp [Outcome.ofReport], hedge⟩
      · exact ⟨_, hc.mem_skipped.mp hp, by simp, hedge⟩

theorem Reached.sound (ht : Reached g h t) (hs : g.HasSource) :
    ∃ log : Log, log.history = h ∧ Sound g log t := by
  induction ht with
  | start => exact ⟨[], rfl, .start hs⟩
  | advance success _ ih =>
    obtain ⟨log, rfl, ht⟩ := ih
    obtain ⟨more, ht', hhistory, -⟩ := ht.advance hs success
    exact ⟨log ++ more, hhistory, ht'⟩

/-- Once nothing is left to visit, reports change nothing. -/
theorem Sound.advance_done (ht : Sound g log t) (hs : g.HasSource) {success : Bool}
    {rest : List String} (hdone : t.advance g success = (.done rest, u)) (again : Bool) :
    u.advance g again = (.done rest, u) := by
  obtain ⟨more, -, -, hanswer⟩ := ht.advance hs success
  rw [hdone] at hanswer
  obtain ⟨n, hn, -⟩ | ⟨hrest, hcurrent, hqueue⟩ := hanswer
  · cases hn
  · obtain rfl : rest = unvisited g u := Step.done.inj hrest
    have hreport : Traversal.report g u again = u := by
      rw [Traversal.report, hcurrent]
    have hnext : Traversal.next g u = (none, u) := by
      rw [Traversal.next]
      split <;> simp_all
    rw [Traversal.advance, hreport, hnext]

/-- Whatever is reported, the books of a traversal are in balance. No count goes below zero on the
way, and the answer that all is done is the last one. -/
theorem balanced_of_reached (hs : g.HasSource) (ht : Reached g h t) :
    Balanced g h t ∧ start? g = some (start g) ∧
      ∀ success, advance? g t success = some (t.advance g success) ∧
        ∀ rest u, t.advance g success = (.done rest, u) →
          ∀ again, u.advance g again = (.done rest, u) := by
  obtain ⟨log, rfl, hsound⟩ := ht.sound hs
  exact ⟨hsound.balanced, start?_eq g, fun success =>
    ⟨hsound.advance?_eq hs success, fun rest u hdone => hsound.advance_done hs hdone⟩⟩

/-- The shorter branch is still on its way when the longer one has been skipped. -/
theorem balanced_branches :
    branches.HasSource ∧ ∃ t, Reached branches [("a", true), ("b", false), ("c", true)] t ∧
      (t.queue = ["e"] ∧ t.current = some "g" ∧ t.skipped = ["d"] ∧ t.pending "f" = 1) ∧
      Balanced branches [("a", true), ("b", false), ("c", true)] t ∧
      start? branches = some (start branches) ∧
      ∀ success, advance? branches t success = some (t.advance branches success) ∧
        ∀ rest u, t.advance branches success = (.done rest, u) →
          ∀ again, u.advance branches again = (.done rest, u) := by
  have hs : branches.HasSource := by
    refine Graph.Draft.hasSource_build fun p => ?_
    simp [Graph.Draft.mem_edges_ofCalls, Graph.root]
  let t := [true, true, false, true].foldl (fun t success => (t.advance branches success).2)
    (start branches)
  obtain ⟨h, rfl, ht⟩ : ∃ h, h = [("a", true), ("b", false), ("c", true)] ∧ Reached branches h t :=
    ⟨_, by decide +kernel, .advance true (.advance false (.advance true (.advance true .start)))⟩
  exact ⟨hs, t, ht, by decide +kernel, balanced_of_reached hs ht⟩

end Provision.Traversal
