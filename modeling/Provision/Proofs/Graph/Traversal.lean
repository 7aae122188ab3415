import Mathlib.Logic.Function.Iterate
import Provision.Proofs.Graph.Schedule

namespace Provision

namespace Graph

/-- The dependents of a node that wait for nothing once the nodes of `told` have reported. -/
def freed (g : Graph) (told : List String) (a : String) : List String :=
  (g.children a).filter fun n => (g.parents n).all (· ∈ told)

/-- The nodes that have reported and those whose turn comes, both in their order. -/
structure Line where
  told : List String
  waiting : List String

namespace Line

variable {g : Graph}

/-- The first node in the line reports. How it went has no influence on who comes next. -/
def turn (g : Graph) (l : Line) : Line :=
  match l.waiting with
  | [] => l
  | a :: rest => ⟨l.told ++ [a], rest ++ g.freed (l.told ++ [a]) a⟩

/-- The line after a number of turns, the first of which is that of the start node. -/
def after (g : Graph) (turns : Nat) : Line := (turn g)^[turns] ⟨[], [root]⟩

theorem after_succ (g : Graph) (turns : Nat) : after g (turns + 1) = turn g (after g turns) :=
  Function.iterate_succ_apply' ..

theorem after_stays {n m : Nat} (hn : (after g n).waiting = []) (hle : n ≤ m) :
    after g m = after g n := by
  have hfixed : turn g (after g n) = after g n := by simp [turn, hn]
  have hsplit : after g m = (turn g)^[m - n] (after g n) := by
    rw [after, after, ← Function.iterate_add_apply, Nat.sub_add_cancel hle]
  rw [hsplit, Function.iterate_fixed hfixed]

/-- There is only one way for a line to come to its end. -/
theorem after_eq_of_waiting_eq_nil {n m : Nat} (hn : (after g n).waiting = [])
    (hm : (after g m).waiting = []) : after g n = after g m := by
  rcases Nat.le_total n m with hle | hle
  · exact (after_stays hn hle).symm
  · exact after_stays hm hle

end Line

variable {g : Graph}

private theorem nodup_ends (g : Graph) {key other : String × String → String}
    (hinj : ∀ e e', key e = key e' → other e = other e' → e = e') (a : String) :
    ((g.edges.filter (key · == a)).map other).Nodup := by
  refine List.Nodup.map_on (fun e he e' he' heq => ?_) (g.nodup_edges.filter _)
  have hk : key e = a := by simpa using (List.mem_filter.mp he).2
  have hk' : key e' = a := by simpa using (List.mem_filter.mp he').2
  exact hinj e e' (hk.trans hk'.symm) heq

theorem nodup_children (g : Graph) (a : String) : (g.children a).Nodup :=
  g.nodup_ends (fun _ _ => Prod.ext) a

theorem nodup_parents (g : Graph) (b : String) : (g.parents b).Nodup :=
  g.nodup_ends (fun _ _ hb ha => Prod.ext ha hb) b

end Graph

namespace Traversal

/-- How a node came through a walk. -/
inductive Outcome
  | success
  | failure
  | skipped
  deriving DecidableEq, Repr

/-- What a visited target reports. -/
def Outcome.report? : Outcome → Option Bool
  | .success => some true
  | .failure => some false
  | .skipped => none

def Outcome.ofReport (success : Bool) : Outcome := if success then .success else .failure

@[simp] theorem Outcome.report?_ofReport (success : Bool) :
    (Outcome.ofReport success).report? = some success := by
  cases success <;> rfl

@[simp] theorem Outcome.ofReport_eq_success {success : Bool} :
    Outcome.ofReport success = .success ↔ success = true := by
  cases success <;> decide

/-- The targets that have reported, in the order in which they left the queue. -/
abbrev Log := List (String × Outcome)

/-- The visits among the entries of a log. -/
def Log.history (log : Log) : Graph.History :=
  log.filterMap fun e => e.2.report?.map (e.1, ·)

/-- The start node and all that have reported after it. -/
def Log.told (log : Log) : List String := Graph.root :: log.map Prod.fst

/-- The targets that have been skipped. -/
def Log.skips (log : Log) : List String := (log.filter (·.2 = .skipped)).map Prod.fst

namespace Log

@[simp] theorem history_nil : history [] = [] := rfl

theorem history_report (log : Log) (n : String) (success : Bool) :
    history (log ++ [(n, .ofReport success)]) = history log ++ [(n, success)] := by
  simp [history]

theorem history_skips (log : Log) (ns : List String) :
    history (log ++ ns.map (·, .skipped)) = history log := by
  induction ns generalizing log with
  | nil => simp
  | cons n ns ih => simp_all [history, Outcome.report?]

theorem mem_history {log : Log} {n : String} {success : Bool} :
    (n, success) ∈ history log ↔ (n, Outcome.ofReport success) ∈ log := by
  constructor
  · intro h
    obtain ⟨⟨m, o⟩, he, ho⟩ := List.mem_filterMap.mp h
    cases o <;> simp_all [Outcome.report?, Outcome.ofReport]
  · intro h
    exact List.mem_filterMap.mpr ⟨_, h, by simp⟩

theorem told_append (log : Log) (n : String) (o : Outcome) :
    told (log ++ [(n, o)]) = told log ++ [n] := by
  simp [told]

end Log

theorem Log.map_fst_history (log : Log) :
    log.history.map Prod.fst = (log.filter (·.2 ≠ .skipped)).map Prod.fst := by
  induction log with
  | nil => rfl
  | cons e log ih =>
    obtain ⟨n, o⟩ := e
    cases o <;> simpa [history, Outcome.report?] using ih

/-- One more report takes its name from those of a list that have yet to report. -/
theorem countP_not_mem_append {told ns : List String} {n : String} (hn : n ∉ told)
    (hnd : ns.Nodup) :
    ns.countP (· ∉ told) = ns.countP (· ∉ told ++ [n]) + if n ∈ ns then 1 else 0 := by
  induction ns with
  | nil => rfl
  | cons m ns ih =>
    obtain ⟨hm, hns⟩ := List.nodup_cons.mp hnd
    have ih := ih hns
    by_cases h : m = n
    · subst h
      simp [hm, hn] at ih ⊢
      exact ih
    · have h' : n ≠ m := Ne.symm h
      simp [List.countP_cons, h, h'] at ih ⊢
      omega

/-- The places that a target can be in once it has been released. -/
def released (log : Log) (t : Traversal) : List String :=
  log.map Prod.fst ++ (t.current.toList ++ t.queue)

/-- A target is freed by the report for which alone it was waiting. -/
theorem filter_pending_eq_freed {g : Graph} {told : List String} {a : String}
    {pending : String → Nat} (hnew : a ∉ told)
    (hpending : ∀ n, pending n = (g.parents n).countP (· ∉ told)) :
    (g.children a).filter (pending · = 1) = g.freed (told ++ [a]) a := by
  refine List.filter_congr fun n hn => ?_
  have hparent : a ∈ g.parents n := by simpa using hn
  have hcount := countP_not_mem_append hnew (g.nodup_parents n)
  rw [if_pos hparent, ← hpending n] at hcount
  have hall : (g.parents n).all (· ∈ told ++ [a]) = true ↔
      (g.parents n).countP (· ∉ told ++ [a]) = 0 := by
    simp only [List.all_eq_true, List.countP_eq_zero, decide_eq_true_eq, not_not]
  rw [Bool.eq_iff_iff, hall, decide_eq_true_eq]
  omega

/-- A traversal in which the targets of a log, and no others, have reported. -/
structure Consistent (g : Graph) (log : Log) (t : Traversal) : Prop where
  visited : t.visited = log.history.map Prod.fst
  skipped : t.skipped = log.skips
  pending : ∀ n, t.pending n = (g.parents n).countP (· ∉ log.told)
  doomed : ∀ n, t.doomed n = true ↔ ∃ e ∈ log, e.2 ≠ .success ∧ g.Edge e.1 n
  nodup : (t.released log).Nodup
  released : ∀ n, n ∈ t.released log ↔ n ∈ g.names ∧ t.pending n = 0
  judged : ∀ e ∈ log, e.2 = .skipped ↔ t.doomed e.1 = true
  blamed : ∀ e ∈ log, e.2 = .skipped → ∃ f, (f, .failure) ∈ log ∧ g.Reaches f e.1
  line : Graph.Line.after g (log.length + 1) = ⟨log.told, t.current.toList ++ t.queue⟩

/-- Reports to several nodes at once: each loses one pending dependency, and those that had but one
follow the queue. -/
theorem foldl_notify (success : Bool) {ns : List String} (hn : ns.Nodup) (t : Traversal) :
    ns.foldl (notify success) t =
      { t with
        pending := fun n => if n ∈ ns then t.pending n - 1 else t.pending n
        doomed := fun n => t.doomed n || (!success && decide (n ∈ ns))
        queue := t.queue ++ ns.filter (t.pending · = 1) } := by
  induction ns generalizing t with
  | nil => simp
  | cons m ns ih =>
    obtain ⟨hm, hns⟩ := List.nodup_cons.mp hn
    rw [List.foldl_cons, ih hns]
    have hpending (n : String) (h : n ∈ ns) : (notify success t m).pending n = t.pending n := by
      have : n ≠ m := fun he => hm (he ▸ h)
      simp [notify, set, this]
    have hqueue : ns.filter ((notify success t m).pending · = 1) =
        ns.filter (t.pending · = 1) :=
      List.filter_congr fun n h => by rw [hpending n h]
    rw [hqueue]
    congr 1
    · rw [List.filter_cons]
      by_cases h : t.pending m = 1 <;> simp [notify, h]
    · funext n
      by_cases h : n = m
      · subst h; simp [notify, set, hm]
      · simp [notify, set, h]
    · funext n
      by_cases h : n = m <;> cases success <;> simp [notify, set, h]

theorem release_eq (g : Graph) (t : Traversal) (a : String) (success : Bool) :
    release g t a success =
      { t with
        pending := fun n => if n ∈ g.children a then t.pending n - 1 else t.pending n
        doomed := fun n => t.doomed n || (!success && decide (n ∈ g.children a))
        queue := t.queue ++ (g.children a).filter (t.pending · = 1) } :=
  foldl_notify success (g.nodup_children a) t

@[simp] theorem current_start (g : Graph) : (start g).current = none := by
  rw [start, release_eq]

namespace Consistent

variable {g : Graph} {log : Log} {t : Traversal}

theorem root_not_mem (hc : Consistent g log t) : Graph.root ∉ t.released log :=
  fun h => g.root_not_mem ((hc.released _).mp h).1

/-- What has been released waits for nothing, so it depends on nothing that has yet to report. -/
theorem not_edge (hc : Consistent g log t) {a n : String} (ha : a ∉ log.told)
    (hn : n ∈ t.released log) : ¬ g.Edge a n := by
  intro he
  have hz : (g.parents n).countP (· ∉ log.told) = 0 :=
    (hc.pending n).symm.trans ((hc.released n).mp hn).2
  have := List.countP_eq_zero.mp hz a (Graph.Draft.mem_parents.mpr he)
  simp [ha] at this

theorem pending_pos (hc : Consistent g log t) (hs : g.HasSource) {a n : String}
    (ha : a ∉ log.told) (he : g.Edge a n) : n ∈ g.names ∧ 0 < t.pending n := by
  have hnames := he.target hs
  have hnot : n ∉ t.released log := fun h => hc.not_edge ha h he
  rw [hc.released] at hnot
  exact ⟨hnames, Nat.pos_of_ne_zero fun h => hnot ⟨hnames, h⟩⟩

/-- The target whose turn it is has yet to report. -/
theorem not_mem_told (hc : Consistent g log t) {a : String} {rest : List String}
    (hout : t.current.toList ++ t.queue = a :: rest) : a ∉ log.told := by
  have hmem : a ∈ t.released log := by simp [Traversal.released, hout]
  have hnd := hc.nodup
  rw [Traversal.released, hout] at hnd
  simp only [Log.told, List.mem_cons, not_or]
  exact ⟨fun h => hc.root_not_mem (h ▸ hmem),
    fun h => (List.nodup_append.mp hnd).2.2 a h a (by simp) rfl⟩

/-- A target that leaves the queue, or that has been visited, reports to its dependents. -/
theorem report (hc : Consistent g log t) (hs : g.HasSource) {u : Traversal} {a : String}
    {o : Outcome} (hj : o = .skipped ↔ t.doomed a = true)
    (hout : t.current.toList ++ t.queue = a :: u.queue) (hcurrent : u.current = none)
    (hpending : u.pending = t.pending) (hdoomed : u.doomed = t.doomed)
    (hvisited : u.visited = (Log.history (log ++ [(a, o)])).map Prod.fst)
    (hskipped : u.skipped = Log.skips (log ++ [(a, o)])) :
    Consistent g (log ++ [(a, o)]) (release g u a (decide (o = .success))) := by
  have hrel : t.released log = (log ++ [(a, o)]).map Prod.fst ++ u.queue := by
    simp [Traversal.released, hout]
  have hmem : a ∈ t.released log := by simp [hrel]
  have hnew := hc.not_mem_told hout
  have hold (n : String) (hn : n ∈ t.released log) : n ∉ g.children a :=
    fun h => hc.not_edge hnew hn (Graph.Draft.mem_children.mp h)
  rw [release_eq, hpending, hdoomed]
  refine ⟨hvisited, hskipped, ?_, ?_, ?_, ?_, ?_, ?_, ?_⟩
  · intro n
    have hcount := countP_not_mem_append hnew (g.nodup_parents n)
    rw [← hc.pending n, ← Log.told_append log a o] at hcount
    have hparent : a ∈ g.parents n ↔ n ∈ g.children a := by simp
    by_cases hn : n ∈ g.children a
    · simp only [hparent, hn, if_true] at hcount ⊢
      omega
    · simp only [hparent, hn, if_false] at hcount ⊢
      omega
  · intro n
    have hd := hc.doomed n
    simp only [Bool.or_eq_true, hd, Bool.and_eq_true, Bool.not_eq_true', decide_eq_true_eq,
      decide_eq_false_iff_not, Graph.Draft.mem_children, List.mem_append, List.mem_singleton,
      Graph.Edge]
    constructor
    · rintro (⟨e, he, hne, hed⟩ | ⟨hne, hed⟩)
      · exact ⟨e, .inl he, hne, hed⟩
      · exact ⟨(a, o), .inr rfl, hne, hed⟩
    · rintro ⟨e, he | rfl, hne, hed⟩
      · exact .inl ⟨e, he, hne, hed⟩
      · exact .inr ⟨hne, hed⟩
  · have hnd := hc.nodup
    rw [hrel] at hnd
    simp only [Traversal.released, hcurrent, Option.toList_none, List.nil_append]
    rw [← List.append_assoc, List.nodup_append]
    refine ⟨hnd, (g.nodup_children a).filter _, ?_⟩
    rintro n hn m hm rfl
    rw [← hrel] at hn
    exact hold n hn (List.mem_filter.mp hm).1
  · intro n
    have hr := hc.released n
    rw [hrel] at hr
    simp only [Traversal.released, hcurrent, Option.toList_none, List.nil_append]
    rw [← List.append_assoc, List.mem_append, hr, List.mem_filter]
    by_cases hn : n ∈ g.children a
    · obtain ⟨hnames, hpos⟩ := hc.pending_pos hs hnew (Graph.Draft.mem_children.mp hn)
      simp only [hn, hnames, true_and, if_true, decide_eq_true_eq]
      omega
    · simp [hn]
  · intro e he
    rcases List.mem_append.mp he with he | he
    · have hn : e.1 ∉ g.children a :=
        hold _ (List.mem_append_left _ (List.mem_map.mpr ⟨e, he, rfl⟩))
      simpa [hn] using hc.judged e he
    · obtain rfl : e = (a, o) := by simpa using he
      simpa [hold a hmem] using hj
  · intro e he ho
    rcases List.mem_append.mp he with he | he
    · obtain ⟨f, hf, hr⟩ := hc.blamed e he ho
      exact ⟨f, List.mem_append_left _ hf, hr⟩
    · obtain rfl : e = (a, o) := by simpa using he
      obtain ⟨⟨p, b⟩, hp, hne, hedge⟩ := (hc.doomed a).mp (hj.mp ho)
      cases b with
      | success => exact absurd rfl hne
      | failure => exact ⟨p, List.mem_append_left _ hp, .edge hedge⟩
      | skipped =>
        obtain ⟨f, hf, hr⟩ := hc.blamed _ hp rfl
        exact ⟨f, List.mem_append_left _ hf, hr.snoc hedge⟩
  · rw [List.length_append, List.length_singleton, Graph.Line.after_succ, hc.line, hout,
      Log.told_append, filter_pending_eq_freed hnew hc.pending, hcurrent]
    rfl

/-- When the start node has reported, those that depend on nothing else wait in the queue. -/
theorem start (hs : g.HasSource) : Consistent g [] (start g) := by
  have hcount (n : String) := countP_not_mem_append (List.not_mem_nil (a := Graph.root))
    (g.nodup_parents n)
  have hparent (n : String) : Graph.root ∈ g.parents n ↔ n ∈ g.children Graph.root := by simp
  rw [Traversal.start, release_eq]
  refine ⟨rfl, rfl, ?_, by simp, ?_, ?_, by simp, by simp, ?_⟩
  · intro n
    have := hcount n
    by_cases hn : n ∈ g.children Graph.root
    · simp [hparent, hn, Log.told] at this ⊢
      omega
    · simp [hparent, hn, Log.told] at this ⊢
      omega
  · simpa [Traversal.released] using (g.nodup_children _).filter _
  · intro n
    simp only [Traversal.released, List.map_nil, List.nil_append, Option.toList_none,
      List.mem_filter, decide_eq_true_eq]
    by_cases hn : n ∈ g.children Graph.root
    · have hnames := Graph.Edge.target hs (Graph.Draft.mem_children.mp hn)
      have hpos : 0 < (g.parents n).length :=
        List.length_pos_of_mem ((hparent n).mpr hn)
      simp only [hn, hnames, true_and, if_true]
      omega
    · simp only [hn, false_and, if_false, false_iff, not_and, List.length_eq_zero_iff]
      exact fun hnames => g.parents_ne_nil n hnames
  · rw [filter_pending_eq_freed (List.not_mem_nil (a := Graph.root)) (by simp)]
    rfl

/-- What has been released and is not doomed has only successes before it. -/
theorem ready (hc : Consistent g log t) {n : String} (hn : n ∈ t.released log)
    (hd : t.doomed n = false) : g.Ready log.history n := by
  intro p hp
  have htold : p ∈ log.told := by
    by_contra h
    exact hc.not_edge h hn hp
  rcases List.mem_cons.mp htold with hroot | hlog
  · exact .inl hroot
  · obtain ⟨⟨p, o⟩, he, rfl⟩ := List.mem_map.mp hlog
    have ho : o = .success := by
      by_contra h
      exact absurd ((hc.doomed n).mpr ⟨_, he, h, hp⟩) (by simp [hd])
    exact .inr (Log.mem_history.mpr (by simpa [ho, Outcome.ofReport] using he))

/-- Going on skips what is doomed and stops at what is not. -/
theorem next (hc : Consistent g log t) (hs : g.HasSource) (hcurrent : t.current = none) :
    ∃ skips : List String, Consistent g (log ++ skips.map (·, .skipped)) (next g t).2 ∧
      (next g t).2.current = (next g t).1 ∧
      (∀ n, (next g t).1 = some n → (next g t).2.doomed n = false) ∧
      ((next g t).1 = none → (next g t).2.queue = []) := by
  fun_induction Traversal.next g t generalizing log with
  | case1 t hq => exact ⟨[], by simpa using hc, hcurrent, by simp, fun _ => hq⟩
  | case2 t name rest hq t' hdoomed =>
    rename_i ih
    have hreport := hc.report hs (u := { t' with skipped := t.skipped ++ [name] })
      (o := .skipped) (iff_of_true rfl hdoomed) (by simp [t', hcurrent, hq]) hcurrent rfl rfl
      (by simpa [t', Log.history, Outcome.report?] using hc.visited)
      (by simp [Log.skips, hc.skipped])
    obtain ⟨skips, hskips⟩ := ih hreport (by rw [release_eq]; exact hcurrent)
    exact ⟨name :: skips, by simpa using hskips⟩
  | case3 t name rest hq t' =>
    rename_i hdoomed
    have hplaces : ({ t' with current := some name } : Traversal).released log =
        t.released log := by
      simp [Traversal.released, t', hcurrent, hq]
    refine ⟨[], ?_, rfl, ?_, by simp⟩
    · simp only [List.map_nil, List.append_nil]
      exact ⟨hc.visited, hc.skipped, hc.pending, hc.doomed, hplaces ▸ hc.nodup,
        hplaces ▸ hc.released, hc.judged, hc.blamed, by simpa [t', hcurrent, hq] using hc.line⟩
    · rintro n ⟨⟩
      simpa using hdoomed

end Consistent

/-- A consistent traversal in which visits come in order, the one that is under way included. -/
structure Sound (g : Graph) (log : Log) (t : Traversal) : Prop extends Consistent g log t where
  schedule : g.Schedule log.history
  healthy : ∀ n, t.current = some n → t.doomed n = false

namespace Sound

variable {g : Graph} {log : Log} {t : Traversal}

theorem start (hs : g.HasSource) : Sound g [] (start g) := by
  exact ⟨Consistent.start hs, .nil, by simp⟩

/-- The outcome of the current target is one more visit. -/
theorem report (ht : Sound g log t) (hs : g.HasSource) (success : Bool) :
    ∃ more, Consistent g (log ++ more) (report g t success) ∧
      g.Schedule (Log.history (log ++ more)) ∧ (report g t success).current = none ∧
      Log.history (log ++ more) = log.history ++ t.current.toList.map (·, success) := by
  cases hcurrent : t.current with
  | none =>
    refine ⟨[], ?_⟩
    simpa [Traversal.report, hcurrent] using ⟨ht.toConsistent, ht.schedule⟩
  | some a =>
    have hdoomed := ht.healthy a hcurrent
    have hmem : a ∈ t.released log := by simp [Traversal.released, hcurrent]
    have hnames := ((ht.released a).mp hmem).1
    have hhistory := Log.history_report log a success
    have hvisited : t.visited ++ [a] =
        (Log.history (log ++ [(a, .ofReport success)])).map Prod.fst := by
      rw [hhistory, ht.visited]
      simp
    have hnew : a ∉ log.history.map Prod.fst := by
      intro h
      obtain ⟨⟨a, b⟩, hb, rfl⟩ := List.mem_map.mp h
      have hlog := List.mem_map_of_mem (f := Prod.fst) (Log.mem_history.mp hb)
      have hout : t.current.toList ++ t.queue = a :: t.queue := by simp [hcurrent]
      exact ht.not_mem_told hout (List.mem_cons_of_mem _ hlog)
    have hreport := ht.toConsistent.report hs
      (u := { t with current := none, visited := t.visited ++ [a] })
      (o := .ofReport success) (by cases success <;> simp [Outcome.ofReport, hdoomed])
      (by simp [hcurrent]) rfl rfl rfl hvisited
      (by cases success <;> simp [Log.skips, Outcome.ofReport, ht.skipped])
    refine ⟨[(a, .ofReport success)], ?_, ?_, ?_, by simpa using hhistory⟩
    · simpa [Traversal.report, hcurrent] using hreport
    · rw [hhistory]
      exact .visit success ht.schedule hnames hnew (ht.ready hmem hdoomed)
    · simp [Traversal.report, hcurrent, release_eq]

/-- One step of the walk: it hands out a target, or it answers that nothing is left. -/
theorem advance (ht : Sound g log t) (hs : g.HasSource) (success : Bool) :
    ∃ more, Sound g (log ++ more) (t.advance g success).2 ∧
      Log.history (log ++ more) = log.history ++ t.current.toList.map (·, success) ∧
      ((∃ n, (t.advance g success).1 = .visit n ∧ (t.advance g success).2.current = some n) ∨
        ((t.advance g success).1 = .done (unvisited g (t.advance g success).2) ∧
          (t.advance g success).2.current = none ∧ (t.advance g success).2.queue = [])) := by
  obtain ⟨more, hc, hsched, hcurrent, hhistory⟩ := ht.report hs success
  obtain ⟨skips, hc', hcurrent', hhealthy, hqueue⟩ := hc.next hs hcurrent
  have hhistory' := (Log.history_skips (log ++ more) skips)
  have hsecond : (t.advance g success).2 = (Traversal.next g (Traversal.report g t success)).2 := by
    rw [Traversal.advance]
    split <;> simp_all
  refine ⟨more ++ skips.map (·, .skipped), ?_, ?_, ?_⟩
  · rw [← List.append_assoc, hsecond]
    exact ⟨hc', hhistory'.symm ▸ hsched, fun n hn => hhealthy n (hcurrent' ▸ hn)⟩
  · rw [← List.append_assoc, hhistory', hhistory]
  · rw [hsecond, hcurrent']
    cases hn : (Traversal.next g (Traversal.report g t success)).1 with
    | none =>
      refine .inr ⟨?_, rfl, hqueue hn⟩
      rw [Traversal.advance]
      split <;> simp_all
    | some n =>
      refine .inl ⟨n, ?_, rfl⟩
      rw [Traversal.advance]
      split <;> simp_all

end Sound

end Traversal

end Provision
