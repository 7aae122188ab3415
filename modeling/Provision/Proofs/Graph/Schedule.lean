import Mathlib.Data.Fintype.Card
import Mathlib.Data.Fintype.EquivFin
import Mathlib.Data.Fintype.Sets
import Mathlib.Order.WellFounded
import Provision.Graph.Traversal

namespace Provision

namespace Graph

/-- A node depends directly on another one. -/
def Edge (g : Graph) (dependency dependent : String) : Prop := (dependency, dependent) ∈ g.edges

/-- A way of at least one edge leads from one node to another. -/
inductive Reaches (g : Graph) : String → String → Prop
  | edge {a b : String} : g.Edge a b → Reaches g a b
  | step {a b c : String} : g.Edge a b → Reaches g b c → Reaches g a c

/-- No way leads from a node back to it. -/
def Acyclic (g : Graph) : Prop := ∀ n, ¬ g.Reaches n n

/-- The start node depends on nothing. -/
def HasSource (g : Graph) : Prop := ∀ n, ¬ g.Edge n root

/-- The targets that can be visited: all of their dependencies can be, and are a success. -/
inductive Visitable (g : Graph) (succeeds : String → Prop) : String → Prop
  | intro {n : String} : n ∈ g.names →
    (∀ p, g.Edge p n → p ≠ root → succeeds p) →
    (∀ p, g.Edge p n → p ≠ root → Visitable g succeeds p) → Visitable g succeeds n

end Graph

namespace Traversal

/-- The answers to a list of reports. -/
def answers (g : Graph) (t : Traversal) : List Bool → List Step
  | [] => []
  | success :: rest =>
    let (step, t) := t.advance g success
    step :: answers g t rest

end Traversal

end Provision

namespace Provision.Graph

/-- The visits of a walk in their order, each with whether it was a success. -/
abbrev History := List (String × Bool)

/-- All direct dependencies of a node have been visited with success. -/
def Ready (g : Graph) (h : History) (n : String) : Prop :=
  ∀ p, g.Edge p n → p = root ∨ (p, true) ∈ h

/-- The histories in which each visit finds its target ready, and no target comes twice. -/
inductive Schedule (g : Graph) : History → Prop
  | nil : Schedule g []
  | visit {h : History} {n : String} (success : Bool) : Schedule g h → n ∈ g.names →
    n ∉ h.map Prod.fst → g.Ready h n → Schedule g (h ++ [(n, success)])

/-- No target is ready that has not been visited. -/
def Exhausted (g : Graph) (h : History) : Prop :=
  ∀ n ∈ g.names, g.Ready h n → n ∈ h.map Prod.fst

variable {g : Graph} {h : History}

theorem Edge.target (hs : g.HasSource) {a b : String} (he : g.Edge a b) : b ∈ g.names := by
  rcases List.mem_cons.mp (g.ends_mem _ he).2 with hb | hb
  · exact absurd (hb ▸ he) (hs a)
  · exact hb

theorem Reaches.trans {a b c : String} (h₁ : g.Reaches a b) (h₂ : g.Reaches b c) :
    g.Reaches a c := by
  induction h₁ with
  | edge he => exact .step he h₂
  | step he _ ih => exact .step he (ih h₂)

theorem Reaches.snoc {a b c : String} (hr : g.Reaches a b) (he : g.Edge b c) : g.Reaches a c :=
  hr.trans (.edge he)

theorem Reaches.target (hs : g.HasSource) {a b : String} (hr : g.Reaches a b) : b ∈ g.names := by
  induction hr with
  | edge he => exact he.target hs
  | step _ _ ih => exact ih

/-- Above a node that is not behind a cycle the nodes can be gone through from dependencies to
dependents. -/
theorem acc_edge {n : String} (hn : ∀ c, g.Reaches c c → ¬ g.Reaches c n) : Acc g.Edge n := by
  let r (a b : {n // n ∈ g.nodes}) : Prop :=
    g.Reaches a b ∧ ∀ c, g.Reaches c c → ¬ g.Reaches c b
  have : IsTrans {n // n ∈ g.nodes} r := ⟨fun _ _ _ h₁ h₂ => ⟨h₁.1.trans h₂.1, h₂.2⟩⟩
  have : Std.Irrefl r := ⟨fun a h => h.2 a h.1 h.1⟩
  have : Finite {n // n ∈ g.nodes} := inferInstance
  have hw : WellFounded r := Finite.wellFounded_of_trans_of_irrefl r
  have habove {a b : String} (he : g.Edge a b) (hb : ∀ c, g.Reaches c c → ¬ g.Reaches c b) :
      ∀ c, g.Reaches c c → ¬ g.Reaches c a :=
    fun c hc hr => hb c hc (hr.trans (.edge he))
  have hacc (a : {n // n ∈ g.nodes}) (ha : ∀ c, g.Reaches c c → ¬ g.Reaches c a) :
      Acc g.Edge a := by
    induction a using hw.induction with
    | _ a ih =>
      exact .intro _ fun b he => ih ⟨b, (g.ends_mem _ he).1⟩ ⟨.edge he, ha⟩ (habove he ha)
  exact .intro _ fun a he => hacc ⟨a, (g.ends_mem _ he).1⟩ (habove he hn)

theorem Acyclic.wellFounded (ha : g.Acyclic) : WellFounded g.Edge :=
  ⟨fun _ => acc_edge fun c hc => absurd hc (ha c)⟩

theorem Visitable.mono {P Q : String → Prop} (himp : ∀ p, P p → Q p) {n : String}
    (hv : g.Visitable P n) : g.Visitable Q n := by
  induction hv with
  | intro hn hok _ ih => exact .intro hn (fun p hp hne => himp p (hok p hp hne)) ih

namespace Schedule

theorem nodup (hs : g.Schedule h) : (h.map Prod.fst).Nodup := by
  induction hs with
  | nil => exact List.nodup_nil
  | @visit h m success _ _ hm _ ih =>
    rw [List.map_append, List.nodup_append]
    refine ⟨ih, by simp, fun a ha b hb => ?_⟩
    have hb : b = m := by simpa using hb
    rintro rfl
    exact hm (hb ▸ ha)

theorem mem_names (hs : g.Schedule h) {n : String} (hn : n ∈ h.map Prod.fst) : n ∈ g.names := by
  induction hs with
  | nil => simp at hn
  | @visit h m success _ hm _ _ ih =>
    rw [List.map_append, List.mem_append] at hn
    rcases hn with hn | hn
    · exact ih hn
    · have hn : n = m := by simpa using hn
      exact hn ▸ hm

theorem length_le (hs : g.Schedule h) : h.length ≤ g.size := by
  have hsub : h.map Prod.fst ⊆ g.names := fun _ hn => hs.mem_names hn
  simpa [size] using (hs.nodup.subperm hsub).length_le

/-- What a target depends on was a success before the target was visited. -/
theorem ready_before (hs : g.Schedule h) {before after : History} {n : String} {b : Bool}
    (he : h = before ++ (n, b) :: after) : g.Ready before n := by
  induction hs generalizing after with
  | nil => simp at he
  | @visit h m success _ _ _ hr ih =>
    rcases List.eq_nil_or_concat after with rfl | ⟨after, last, rfl⟩
    · obtain ⟨rfl, hlast⟩ := List.append_inj' he rfl
      have hm : m = n := by simp at hlast; exact hlast.1
      exact hm ▸ hr
    · rw [List.concat_eq_append, ← List.cons_append, ← List.append_assoc] at he
      exact ih (List.append_inj' he rfl).1

theorem ready_at (hs : g.Schedule h) {i : Nat} {n p : String} {b : Bool}
    (hi : h[i]? = some (n, b)) (hp : g.Edge p n) :
    p = root ∨ ∃ j < i, h[j]? = some (p, true) := by
  obtain ⟨hlt, hget⟩ := List.getElem?_eq_some_iff.mp hi
  have hsplit : h = h.take i ++ (n, b) :: h.drop (i + 1) := by
    rw [← hget, ← List.drop_eq_getElem_cons hlt, List.take_append_drop]
  refine (hs.ready_before hsplit p hp).imp_right fun hmem => ?_
  obtain ⟨j, hj⟩ := List.mem_iff_getElem?.mp hmem
  rw [List.getElem?_take] at hj
  split at hj
  · next hlt => exact ⟨j, hlt, hj⟩
  · simp at hj

/-- What a target depends on, however indirectly, was a success before the target was visited. -/
theorem reaches_before (hs : g.Schedule h) (hg : g.HasSource) {p n : String}
    (hr : g.Reaches p n) {before after : History} {b : Bool}
    (he : h = before ++ (n, b) :: after) : p = root ∨ (p, true) ∈ before := by
  induction hr generalizing before after b with
  | edge hp => exact hs.ready_before he _ hp
  | @step a c n ha hr ih =>
    rcases ih he with rfl | hc
    · exact absurd ha (hg a)
    · obtain ⟨first, second, rfl⟩ := List.append_of_mem hc
      rw [List.append_assoc, List.cons_append] at he
      exact (hs.ready_before he a ha).imp_right fun hp => List.mem_append_left _ hp

/-- A visit has one outcome. -/
theorem outcome_unique (hs : g.Schedule h) {n : String} {a b : Bool} (ha : (n, a) ∈ h)
    (hb : (n, b) ∈ h) : a = b := by
  have hinj := List.inj_on_of_nodup_map hs.nodup ha hb rfl
  exact congrArg Prod.snd hinj

theorem visitable (hs : g.Schedule h) {n : String} (hn : n ∈ h.map Prod.fst) :
    g.Visitable (fun p => (p, true) ∈ h) n := by
  induction hs generalizing n with
  | nil => simp at hn
  | @visit h m success _ hm _ hr ih =>
    have hkeep {p : String} (hp : (p, true) ∈ h) : (p, true) ∈ h ++ [(m, success)] :=
      List.mem_append_left _ hp
    rw [List.map_append, List.mem_append] at hn
    rcases hn with hn | hn
    · exact (ih hn).mono (fun _ => hkeep)
    · have hn : n = m := by simpa using hn
      subst hn
      have hsuccess (p : String) (hp : g.Edge p n) (hne : p ≠ root) : (p, true) ∈ h :=
        (hr p hp).resolve_left hne
      refine .intro hm (fun p hp hne => hkeep (hsuccess p hp hne)) fun p hp hne => ?_
      exact (ih (List.mem_map.mpr ⟨_, hsuccess p hp hne, rfl⟩)).mono (fun _ => hkeep)

/-- Nothing on a cycle is ever visited. -/
theorem not_reaches_self (hs : g.Schedule h) (hg : g.HasSource) {n : String}
    (hn : n ∈ h.map Prod.fst) : ¬ g.Reaches n n := by
  intro hr
  obtain ⟨⟨n, b⟩, hm, rfl⟩ := List.mem_map.mp hn
  obtain ⟨before, after, he⟩ := List.append_of_mem hm
  rcases hs.reaches_before hg hr he with rfl | hbefore
  · exact g.root_not_mem (hs.mem_names hn)
  · have hnd := hs.nodup
    rw [he, List.map_append, List.map_cons] at hnd
    have hfst := List.mem_map_of_mem (f := Prod.fst) hbefore
    exact (List.nodup_append.mp hnd).2.2 n hfst n (by simp) rfl

end Schedule

/-- Where nothing is ready any more, all has been visited that could be. -/
theorem Exhausted.visited (he : g.Exhausted h) {n : String}
    (hv : g.Visitable (fun p => (p, true) ∈ h) n) : n ∈ h.map Prod.fst := by
  cases hv with
  | intro hn hok _ =>
    refine he n hn fun p hp => ?_
    by_cases hroot : p = root
    · exact .inl hroot
    · exact .inr (hok p hp hroot)

/-- The visits of a walk that has come to its end, and the targets that it has left out. -/
structure Finished (g : Graph) (h : History) (unvisited : List String) : Prop where
  schedule : g.Schedule h
  exhausted : g.Exhausted h
  mem_unvisited : ∀ n, n ∈ unvisited ↔ n ∈ g.names ∧ n ∉ h.map Prod.fst
  sorted : unvisited.Pairwise (· < ·)

theorem Finished.visited {unvisited : List String} (hf : g.Finished h unvisited) {n : String}
    {b : Bool} (hn : (n, b) ∈ h) : n ∈ g.names ∧ n ∉ unvisited := by
  have hmem : n ∈ h.map Prod.fst := List.mem_map.mpr ⟨_, hn, rfl⟩
  exact ⟨hf.schedule.mem_names hmem, fun hout => ((hf.mem_unvisited n).mp hout).2 hmem⟩

/-- In an acyclic graph the targets left out are those behind a failure. -/
theorem Finished.mem_unvisited_iff {unvisited : List String} (hf : g.Finished h unvisited)
    (hg : g.HasSource) (ha : g.Acyclic) {n : String} :
    n ∈ unvisited ↔ ∃ p, (p, false) ∈ h ∧ g.Reaches p n := by
  have hs := hf.schedule
  rw [hf.mem_unvisited]
  constructor
  · rintro ⟨hn, hv⟩
    induction n using ha.wellFounded.induction with
    | _ n ih =>
      have hr : ¬ g.Ready h n := fun hr => hv (hf.exhausted n hn hr)
      simp only [Ready, not_forall, not_or] at hr
      obtain ⟨p, hp, hroot, hfail⟩ := hr
      have hpn : p ∈ g.names := (List.mem_cons.mp (g.ends_mem _ hp).1).resolve_left hroot
      by_cases hpv : p ∈ h.map Prod.fst
      · obtain ⟨⟨p, b⟩, hm, rfl⟩ := List.mem_map.mp hpv
        cases b with
        | true => exact absurd hm hfail
        | false => exact ⟨p, hm, .edge hp⟩
      · obtain ⟨f, hf, hr⟩ := ih p hp hpn hpv
        exact ⟨f, hf, hr.snoc hp⟩
  · rintro ⟨p, hf, hr⟩
    refine ⟨hr.target hg, fun hv => ?_⟩
    obtain ⟨⟨n, b⟩, hm, rfl⟩ := List.mem_map.mp hv
    obtain ⟨before, after, hb⟩ := List.append_of_mem hm
    rcases hs.reaches_before hg hr hb with rfl | hp
    · exact g.root_not_mem (hs.mem_names (List.mem_map.mpr ⟨_, hf, rfl⟩))
    · have hp : (p, true) ∈ h := by rw [hb]; exact List.mem_append_left _ hp
      exact absurd (hs.outcome_unique hp hf) (by simp)

end Provision.Graph
