import Provision.Proofs.Recipe.Expansion

namespace Provision

theorem collect_congr {ε α β : Type} {f g : α → Except ε (List β)} {xs : List α}
    (h : ∀ x ∈ xs, f x = g x) : collect f xs = collect g xs := by
  induction xs with
  | nil => rfl
  | cons x xs ih =>
    obtain ⟨hx, hxs⟩ := List.forall_mem_cons.mp h
    rw [collect, collect, hx, ih hxs]

namespace RecipeIndex

variable {a b base user : RecipeIndex} {method : Method} {name : String} {call : Invocation}

/-- Wherever calls from a name on arrive, there is the same recipe in both places, or none. -/
def AgreesFrom (a b : RecipeIndex) (method : Method) (name : String) : Prop :=
  ∀ reached, a.Reaches method name reached → a.get? reached = b.get? reached

theorem nested_congr (h : a.get? name = b.get? name) :
    a.nested method name = b.nested method name := by
  rw [nested, nested, h]

theorem body_of_get? (h : a.get? call.name = b.get? call.name) :
    a.body method call = b.body method call := by
  rw [body, body, h]

namespace AgreesFrom

theorem get?_eq (h : a.AgreesFrom b method name) : a.get? name = b.get? name :=
  h name (.refl name)

theorem inner (h : a.AgreesFrom b method name) {inner : Invocation}
    (hinner : inner ∈ a.nested method name) : a.AgreesFrom b method inner.name :=
  fun reached hr => h reached (.step hinner hr)

/-- No recipe counts in an expansion but those at which its calls arrive. -/
theorem expandWithin_eq (call : Invocation) (h : a.AgreesFrom b method call.name) (room : Nat)
    (chain : List String) :
    a.expandWithin method room chain call = b.expandWithin method room chain call := by
  induction room generalizing call chain with
  | zero => rfl
  | succ room ih =>
    rw [expandWithin_succ, expandWithin_succ, ← body_of_get? h.get?_eq]
    cases hbody : a.body method call with
    | error e => rfl
    | ok found =>
      obtain ⟨recipe, actions⟩ := found
      refine collect_congr fun action haction => ?_
      cases action with
      | shell script => rfl
      | call inner =>
        have hinner : a.AgreesFrom b method inner.name := h.inner ((mem_nested hbody).mpr haction)
        exact ih (inner.forward recipe.parameters call.values) hinner (chain ++ [call.name])

theorem expandActions_eq {actions : List Action}
    (h : ∀ call, .call call ∈ actions → a.AgreesFrom b method call.name) :
    a.expandActions method actions = b.expandActions method actions := by
  refine collect_congr fun action haction => ?_
  cases action with
  | shell script => rfl
  | call call => exact (h call haction).expandWithin_eq call maxDepth []

end AgreesFrom

/-- A single name counts only where calls arrive at it. -/
theorem agreesFrom_of_unreached {start : String} (hagree : ∀ other, other ≠ name →
    a.get? other = b.get? other) (h : ¬ a.Reaches method start name) :
    a.AgreesFrom b method start := by
  intro reached hr
  refine hagree reached ?_
  rintro rfl
  exact h hr

/-- Where recipes differ at most at names of one kind, the first name of that kind on a way is
reached in both of them. -/
theorem Reaches.exists_first {p : String → Prop}
    (hagree : ∀ name, ¬ p name → a.get? name = b.get? name) {x y : String}
    (hr : a.Reaches method x y) (hy : p y) :
    ∃ z, p z ∧ a.Reaches method x z ∧ b.Reaches method x z := by
  induction hr with
  | refl name => exact ⟨name, hy, .refl name, .refl name⟩
  | @step x y call hcall _ ih =>
    by_cases hx : p x
    · exact ⟨x, hx, .refl x, .refl x⟩
    · obtain ⟨z, hz, ha, hb⟩ := ih hy
      exact ⟨z, hz, .step hcall ha, .step (nested_congr (hagree x hx) ▸ hcall) hb⟩

/-! ## Recipes over others -/

theorem get?_overlay_of_contains (h : user.contains name) :
    (base.overlay user).get? name = user.get? name := by
  obtain ⟨recipe, hrecipe⟩ := user.contains_iff.mp h
  rw [OrderedMap.get?_overlay, hrecipe]
  rfl

theorem get?_overlay_of_not_contains (h : ¬ user.contains name) :
    (base.overlay user).get? name = base.get? name := by
  have hnone : user.get? name = none := by simpa [OrderedMap.contains] using h
  rw [OrderedMap.get?_overlay, hnone]
  rfl

/-- If the actions of a target come out otherwise, then calls of theirs arrive at a name that the
upper recipes define, in the lower ones as well as in both together. -/
theorem exists_of_expandActions_ne {actions : List Action}
    (h : expandActions (base.overlay user) method actions ≠ base.expandActions method actions) :
    ∃ call name, .call call ∈ actions ∧ user.contains name ∧ base.Reaches method call.name name ∧
      Reaches (base.overlay user) method call.name name := by
  by_contra hnone
  refine h (AgreesFrom.expandActions_eq fun call hcall => ?_).symm
  intro reached hr
  have hagree : ∀ name, ¬ user.contains name → base.get? name = (base.overlay user).get? name :=
    fun name hname => (get?_overlay_of_not_contains hname).symm
  by_cases hreached : user.contains reached
  · obtain ⟨name, hname, hbase, hover⟩ := hr.exists_first hagree hreached
    exact absurd ⟨call, name, hcall, hname, hbase, hover⟩ hnone
  · exact hagree reached hreached

/-- A call by a name that the upper recipes define is one of their recipe. -/
theorem expandWithin_overlay (h : user.contains call.name) (room : Nat) (chain : List String) :
    expandWithin (base.overlay user) method (room + 1) chain call =
      match user.body method call with
      | .error e => .error e
      | .ok (recipe, actions) =>
        collect (expandAction (base.overlay user) method room chain recipe call) actions := by
  have hbody : body (base.overlay user) method call = user.body method call :=
    body_of_get? (get?_overlay_of_contains h)
  rw [← hbody]
  exact expandWithin_succ ..

/-- What the lower recipes hold under the names of the upper ones is never looked at. -/
theorem expandWithin_overlay_congr {other : RecipeIndex}
    (h : ∀ name, ¬ user.contains name → other.get? name = base.get? name) (room : Nat)
    (chain : List String) : expandWithin (other.overlay user) method room chain call =
      expandWithin (base.overlay user) method room chain call := by
  refine AgreesFrom.expandWithin_eq call (fun name _ => ?_) room chain
  by_cases hname : user.contains name
  · rw [get?_overlay_of_contains hname, get?_overlay_of_contains hname]
  · rw [get?_overlay_of_not_contains hname, get?_overlay_of_not_contains hname, h name hname]

/-- What a call comes to depends on no recipe but those at which it arrives. So recipes that are
laid over others change what becomes of a target only if one of its calls arrives at a name of
theirs; and at any depth, a call by such a name is one of the upper recipe alone, be it that this
lacks the method. -/
theorem expand_overlay (base user : RecipeIndex) (method : Method) :
    (∀ (other : RecipeIndex) (call : Invocation),
      (∀ name, base.Reaches method call.name name → base.get? name = other.get? name) →
        base.expand method call = other.expand method call) ∧
    (∀ target : Methods,
      commands (base.overlay user) target method ≠ base.commands target method →
        ∃ actions call name, target.actions? method = some actions ∧ .call call ∈ actions ∧
          user.contains name ∧ base.Reaches method call.name name ∧
            Reaches (base.overlay user) method call.name name) ∧
    (∀ (room : Nat) (chain : List String) (call : Invocation),
      (∀ other : RecipeIndex,
        (∀ name, ¬ user.contains name → other.get? name = base.get? name) →
          expandWithin (other.overlay user) method room chain call =
            expandWithin (base.overlay user) method room chain call) ∧
      (user.contains call.name →
        expandWithin (base.overlay user) method (room + 1) chain call =
          match user.body method call with
          | .error e => .error e
          | .ok (recipe, actions) =>
            collect (expandAction (base.overlay user) method room chain recipe call) actions) ∧
      ∀ recipe, user.get? call.name = some recipe →
        call.groups.length = recipe.parameters.length →
          recipe.methods.get? method.name = none →
            expandWithin (base.overlay user) method (room + 1) chain call =
              .error (.missingMethod recipe.name method)) := by
  refine ⟨fun other call h => AgreesFrom.expandWithin_eq call h maxDepth [], ?_, ?_⟩
  · intro target hne
    unfold commands at hne
    cases hactions : target.actions? method with
    | none => simp [hactions] at hne
    | some actions =>
      simp only [hactions] at hne
      obtain ⟨call, name, hcall, hname, hbase, hover⟩ := exists_of_expandActions_ne hne
      exact ⟨actions, call, name, rfl, hcall, hname, hbase, hover⟩
  · intro room chain call
    refine ⟨fun other h => expandWithin_overlay_congr h room chain,
      fun h => expandWithin_overlay h room chain, fun recipe hget hlength hmethod => ?_⟩
    have hcontains : user.contains call.name := user.contains_iff.mpr ⟨recipe, hget⟩
    have hbody : user.body method call = .error (.missingMethod recipe.name method) := by
      simp [body, hget, hlength, hmethod]
    rw [expandWithin_overlay hcontains, hbody]

/-- Three recipes, one of which calls another one. -/
def tools : RecipeIndex :=
  .ofList [("git", ⟨"git", ["repo"], .ofList [("setup", [.shell "git clone $((repo))"]),
      ("is_setup", [.shell "test -d $((repo))"])]⟩),
    ("dots", ⟨"dots", [], .ofList [("setup", [.call ⟨"git", [["dots"]]⟩]),
      ("is_setup", [.call ⟨"git", [["dots"]]⟩])]⟩),
    ("apt", ⟨"apt", ["name"], .ofList [("setup", [.shell "apt install $((name))"])]⟩)]

/-- A recipe that lacks a method of its namesake. -/
def ownGit : RecipeIndex :=
  .ofList [("git", ⟨"git", ["from"], .ofList [("setup", [.shell "fetch $((from))"])]⟩)]

/-- A target that makes one call. -/
def dots : Methods := .ofList [("recipe", [.call ⟨"dots", []⟩])]

/-- The call in the lower recipe finds the upper one, which has one of the methods only. -/
theorem expand_tools :
    let both : RecipeIndex := tools.overlay ownGit
    let other : RecipeIndex := tools.insert "git" ⟨"git", [], ∅⟩
    ((∀ name, tools.Reaches .setup "apt" name → tools.get? name = both.get? name) ∧
      tools.expand .setup ⟨"apt", [["jq"]]⟩ = both.expand .setup ⟨"apt", [["jq"]]⟩) ∧
    (both.commands dots .setup ≠ tools.commands dots .setup ∧
      ∃ name, ownGit.contains name ∧ tools.Reaches .setup "dots" name ∧
        both.Reaches .setup "dots" name) ∧
    ((∀ name, ¬ ownGit.contains name → other.get? name = tools.get? name) ∧
      expandWithin (other.overlay ownGit) .setup 64 [] ⟨"dots", []⟩ =
        both.expandWithin .setup 64 [] ⟨"dots", []⟩) ∧
    tools.expandWithin .isSetup 63 ["dots"] ⟨"git", [["dots"]]⟩ = .ok ["test -d dots"] ∧
      both.expandWithin .isSetup 63 ["dots"] ⟨"git", [["dots"]]⟩ =
        .error (.missingMethod "git" .isSetup) := by
  intro both other
  obtain ⟨hlocal, hcommands, hcalls⟩ := expand_overlay tools ownGit .setup
  have hapt (name : String) (hr : tools.Reaches .setup "apt" name) :
      tools.get? name = both.get? name := by
    have hnested : tools.nested .setup "apt" = [] := by decide +kernel
    cases hr with
    | refl => rfl
    | step hcall _ => simp [hnested] at hcall
  have hother (name : String) (hname : ¬ ownGit.contains name) :
      other.get? name = tools.get? name := by
    have hgit : name ≠ "git" := by
      rintro rfl
      exact hname (by decide +kernel)
    rw [OrderedMap.get?_insert, if_neg hgit]
  have hne : both.commands dots .setup ≠ tools.commands dots .setup := by decide +kernel
  refine ⟨⟨hapt, hlocal both _ hapt⟩, ⟨hne, ?_⟩, ⟨hother, (hcalls 64 [] _).1 other hother⟩,
    by decide +kernel, ?_⟩
  · obtain ⟨actions, call, name, hactions, hcall, hname, hbase, hover⟩ := hcommands dots hne
    have hdots : dots.actions? .setup = some [.call ⟨"dots", []⟩] := by decide +kernel
    obtain rfl : actions = [.call ⟨"dots", []⟩] := Option.some.inj (hactions.symm.trans hdots)
    obtain rfl : call = ⟨"dots", []⟩ := by simpa using hcall
    exact ⟨name, hname, hbase, hover⟩
  · obtain ⟨-, -, hmissing⟩ :=
      (expand_overlay tools ownGit .isSetup).2.2 62 ["dots"] ⟨"git", [["dots"]]⟩
    exact hmissing _ rfl rfl rfl

end RecipeIndex

end Provision
