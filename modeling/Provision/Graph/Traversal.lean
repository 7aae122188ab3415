import Provision.Graph.Basic

namespace Provision

/-- A walk over a graph that hands out one target at a time and waits to hear how it went. `pending`
counts the dependencies of a node that have not reported, and `doomed` tells whether one of those
that did was a failure or was skipped. -/
structure Traversal where
  queue : List String
  current : Option String
  pending : String → Nat
  doomed : String → Bool
  visited : List String
  skipped : List String

/-- The answer of a traversal: a target to visit, or the names of all targets not visited. -/
inductive Step
  | visit (name : String)
  | done (unvisited : List String)
  deriving DecidableEq, Repr

namespace Traversal

/-- Replaces one value of a function on names. -/
def set {α : Type} (f : String → α) (name : String) (value : α) : String → α :=
  fun n => if n = name then value else f n

/-- Tells a node that one of its dependencies has reported. The last report puts it in the queue. -/
def notify (success : Bool) (t : Traversal) (name : String) : Traversal :=
  let left := t.pending name
  { t with
    pending := set t.pending name (left - 1)
    doomed := if success then t.doomed else set t.doomed name true
    queue := if left = 1 then t.queue ++ [name] else t.queue }

/-- Reports a node to all its dependents. -/
def release (g : Graph) (t : Traversal) (name : String) (success : Bool) : Traversal :=
  (g.children name).foldl (notify success) t

/-- The sum of a function over names. -/
def total (f : String → Nat) : List String → Nat
  | [] => 0
  | name :: names => f name + total f names

/-- The reports still to come and the nodes in the queue, which bound what is left of a walk. -/
def load (g : Graph) (t : Traversal) : Nat :=
  t.queue.length + total t.pending g.nodes

theorem set_pred_le (f : String → Nat) (name n : String) : set f name (f name - 1) n ≤ f n := by
  unfold set
  split
  · next h => subst h; omega
  · exact Nat.le_refl _

theorem total_set_pred_le (f : String → Nat) (name : String) (names : List String) :
    total (set f name (f name - 1)) names ≤ total f names := by
  induction names with
  | nil => exact Nat.le_refl _
  | cons n names ih => exact Nat.add_le_add (set_pred_le f name n) ih

theorem total_set_pred_lt {f : String → Nat} {name : String} {names : List String}
    (h : name ∈ names) (hf : 0 < f name) :
    total (set f name (f name - 1)) names < total f names := by
  induction names with
  | nil => simp at h
  | cons n names ih =>
    rcases List.mem_cons.1 h with rfl | h
    · have hn : set f name (f name - 1) name < f name := by simp only [set, if_true]; omega
      exact Nat.add_lt_add_of_lt_of_le hn (total_set_pred_le f name names)
    · exact Nat.add_lt_add_of_le_of_lt (set_pred_le f name n) (ih h)

theorem load_notify_le {g : Graph} {name : String} (h : name ∈ g.nodes) (success : Bool)
    (t : Traversal) : load g (notify success t name) ≤ load g t := by
  unfold load notify
  dsimp only
  rcases Nat.eq_zero_or_pos (t.pending name) with h0 | hpos
  · have : set t.pending name (t.pending name - 1) = t.pending := by
      funext n
      unfold set; split
      · next hn => subst hn; omega
      · rfl
    exact Nat.le_of_eq (by rw [this, if_neg (by omega)])
  · have := total_set_pred_lt h hpos
    split
    · simp only [List.length_append, List.length_singleton]; omega
    · omega

theorem load_release_le (g : Graph) (t : Traversal) (name : String) (success : Bool) :
    load g (release g t name success) ≤ load g t := by
  have : ∀ l : List String, (∀ n ∈ l, n ∈ g.nodes) → ∀ t : Traversal,
      load g (l.foldl (notify success) t) ≤ load g t := by
    intro l
    induction l with
    | nil => intro _ t; exact Nat.le_refl _
    | cons n l ih =>
      intro hl t
      exact Nat.le_trans (ih (fun m hm => hl m (List.mem_cons_of_mem _ hm)) _)
        (load_notify_le (hl n (List.mem_cons_self ..)) success t)
  exact this _ (fun n hn => Graph.Draft.mem_nodes_of_mem_children hn) t

/-- The start node has reported a success, and nothing else has happened. -/
def start (g : Graph) : Traversal :=
  release g ⟨[], none, fun n => (g.parents n).length, fun _ => false, [], []⟩ Graph.root true

/-- Takes the nodes from the queue up to one that no failure has doomed. The doomed ones are
skipped, which dooms their dependents too. -/
def next (g : Graph) (t : Traversal) : Option String × Traversal :=
  match _h : t.queue with
  | [] => (none, t)
  | name :: rest =>
    let t' := { t with queue := rest }
    if t.doomed name then
      next g (release g { t' with skipped := t.skipped ++ [name] } name false)
    else (some name, { t' with current := some name })
termination_by load g t
decreasing_by
  refine Nat.lt_of_le_of_lt (load_release_le ..) ?_
  simp only [load, ‹t.queue = _›, List.length_cons]
  omega

theorem load_next_lt {g : Graph} {t : Traversal} {name : String}
    (h : (next g t).1 = some name) : load g (next g t).2 < load g t := by
  fun_induction next g t with
  | case1 => simp at h
  | case2 t name' rest hq t' _ ih =>
    refine Nat.lt_of_lt_of_le (ih h) (Nat.le_trans (load_release_le ..) ?_)
    simp only [t', load, hq, List.length_cons]
    omega
  | case3 t name' rest hq t' _ =>
    simp only [t', load, hq, List.length_cons]
    omega

/-- Takes note of how the current target went, if there is one. -/
def report (g : Graph) (t : Traversal) (success : Bool) : Traversal :=
  match t.current with
  | none => t
  | some name =>
    release g { t with current := none, visited := t.visited ++ [name] } name success

theorem load_report_le (g : Graph) (t : Traversal) (success : Bool) :
    load g (report g t success) ≤ load g t := by
  unfold report
  split
  · exact Nat.le_refl _
  · exact load_release_le ..

/-- The names of the targets that were not visited, sorted. -/
def unvisited (g : Graph) (t : Traversal) : List String :=
  (g.names.filter (· ∉ t.visited)).mergeSort

/-- Reports how the current target went and asks for the next. -/
def advance (g : Graph) (t : Traversal) (success : Bool) : Step × Traversal :=
  match next g (report g t success) with
  | (some name, t') => (.visit name, t')
  | (none, t') => (.done (unvisited g t'), t')

theorem load_advance_lt {g : Graph} {t t' : Traversal} {success : Bool} {name : String}
    (h : advance g t success = (.visit name, t')) : load g t' < load g t := by
  unfold advance at h
  split at h
  · next heq =>
    simp only [Prod.mk.injEq, Step.visit.injEq] at h
    obtain ⟨rfl, rfl⟩ := h
    have := load_next_lt (g := g) (t := report g t success) (by rw [heq])
    rw [heq] at this
    exact Nat.lt_of_lt_of_le this (load_report_le ..)
  · simp at h

end Traversal

namespace Graph

variable {σ : Type}

/-- Goes on with a walk that passes a state through its visits. -/
def walkFrom (g : Graph) (visit : σ → String → Bool × σ) (s : σ) (t : Traversal) (success : Bool) :
    List String × σ :=
  match _h : t.advance g success with
  | (.visit name, t') =>
    let (success, s) := visit s name
    walkFrom g visit s t' success
  | (.done unvisited, _) => (unvisited, s)
termination_by t.load g
decreasing_by exact Traversal.load_advance_lt ‹_›

/-- Visits the targets one after the other; a visit tells whether it was a success. Answers the
sorted names of the targets that were not visited, and the last state. -/
def walk (g : Graph) (visit : σ → String → Bool × σ) (s : σ) : List String × σ :=
  g.walkFrom visit s (Traversal.start g) true

/-- The order in which the targets are visited if all goes well. -/
def installOrder (g : Graph) : List String :=
  (g.walk (fun order name => (true, order ++ [name])) []).2

end Graph

end Provision
