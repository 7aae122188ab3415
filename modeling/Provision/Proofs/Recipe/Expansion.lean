import Mathlib.Data.List.Basic
import Mathlib.Data.List.Chain
import Mathlib.Data.List.Perm.Subperm
import Mathlib.Order.Lattice
import Provision.Proofs.OrderedMap
import Provision.Recipe.Basic
import Provision.Recipe.Expansion

namespace Provision

section Collect

variable {ε α β : Type} {f : α → Except ε (List β)} {xs : List α}

/-- There is a result for a list just if there is one for each of its entries. -/
theorem exists_collect : (∃ ys, collect f xs = .ok ys) ↔ ∀ x ∈ xs, ∃ ys, f x = .ok ys := by
  induction xs with
  | nil => simp [collect]
  | cons x xs ih =>
    rw [List.forall_mem_cons, ← ih, collect]
    cases f x with
    | error e => simp
    | ok ys => cases collect f xs <;> simp

theorem exists_of_collect_eq_error {e : ε} (h : collect f xs = .error e) :
    ∃ x ∈ xs, f x = .error e := by
  induction xs with
  | nil => simp [collect] at h
  | cons x xs ih =>
    rw [collect] at h
    cases hx : f x with
    | error e' => exact ⟨x, List.mem_cons_self .., by simpa [hx] using h⟩
    | ok ys =>
      cases hxs : collect f xs with
      | ok zs => simp [hx, hxs] at h
      | error e' =>
        obtain rfl : e' = e := by simpa [hx, hxs] using h
        obtain ⟨y, hy, hfy⟩ := ih hxs
        exact ⟨y, List.mem_cons_of_mem _ hy, hfy⟩

end Collect

namespace Invocation

@[simp] theorem name_forward (parameters values : List String) (call : Invocation) :
    (call.forward parameters values).name = call.name := rfl

@[simp] theorem length_groups_forward (parameters values : List String) (call : Invocation) :
    (call.forward parameters values).groups.length = call.groups.length := by
  simp [forward]

end Invocation

namespace RecipeIndex

variable {recipes : RecipeIndex} {method : Method} {call : Invocation}

/-- The recipe of a call and its actions, or why the call does not fit a recipe. -/
def body (recipes : RecipeIndex) (method : Method) (call : Invocation) :
    Except ExpandError (Recipe × List Action) :=
  match recipes.get? call.name with
  | none => .error (.unknownRecipe call.name)
  | some recipe =>
    if call.groups.length ≠ recipe.parameters.length then
      .error (.arity recipe.name recipe.parameters.length call.groups.length)
    else
      match recipe.methods.get? method.name with
      | none => .error (.missingMethod recipe.name method)
      | some actions => .ok (recipe, actions)

/-- The commands of one action of a recipe under a call, where `room` more calls fit. -/
def expandAction (recipes : RecipeIndex) (method : Method) (room : Nat) (chain : List String)
    (recipe : Recipe) (call : Invocation) : Action → Except ExpandError (List String)
  | .shell script => .ok [Template.substitute recipe.parameters call.values script]
  | .call nested =>
    recipes.expandWithin method room (chain ++ [call.name])
      (nested.forward recipe.parameters call.values)

theorem expandWithin_succ (room : Nat) (chain : List String) :
    recipes.expandWithin method (room + 1) chain call =
      match recipes.body method call with
      | .error e => .error e
      | .ok (recipe, actions) =>
        collect (recipes.expandAction method room chain recipe call) actions := by
  rw [expandWithin, body]
  cases recipes.get? call.name with
  | none => rfl
  | some recipe =>
    by_cases hlength : call.groups.length = recipe.parameters.length
    · simp only [hlength, ne_eq, not_true_eq_false, if_false]
      cases recipe.methods.get? method.name with
      | none => rfl
      | some actions =>
        exact congrArg (collect · actions) (funext fun action => by cases action <;> rfl)
    · simp only [hlength, ne_eq, not_false_eq_true, if_true]

/-- Whether a call fits a recipe shows in its name and in the number of its arguments. -/
theorem body_congr {a b : Invocation} (hname : a.name = b.name)
    (hlength : a.groups.length = b.groups.length) :
    recipes.body method a = recipes.body method b := by
  simp only [body, hname, hlength]

theorem body_eq_ok_iff {recipe : Recipe} {actions : List Action} :
    recipes.body method call = .ok (recipe, actions) ↔
      recipes.get? call.name = some recipe ∧
        call.groups.length = recipe.parameters.length ∧
        recipe.methods.get? method.name = some actions := by
  constructor
  · intro h
    unfold body at h
    split at h
    · simp at h
    · next found hget =>
      split at h
      · simp at h
      · next hlength =>
        split at h
        · simp at h
        · next bodies hactions =>
          obtain ⟨rfl, rfl⟩ : found = recipe ∧ bodies = actions := by simpa using h
          exact ⟨hget, not_not.mp hlength, hactions⟩
  · rintro ⟨hget, hlength, hactions⟩
    simp [body, hget, hlength, hactions]

/-- Of its arguments a call passes on no more than their values. -/
theorem expandWithin_congr {room : Nat} {chain : List String} {a b : Invocation}
    (hname : a.name = b.name) (hvalues : a.values = b.values) :
    recipes.expandWithin method room chain a = recipes.expandWithin method room chain b := by
  cases room with
  | zero => simp only [expandWithin, hname]
  | succ room =>
    have hlength : a.groups.length = b.groups.length := by
      rw [← a.length_values, hvalues, b.length_values]
    have haction (recipe : Recipe) : recipes.expandAction method room chain recipe a =
        recipes.expandAction method room chain recipe b := by
      funext action
      cases action <;> simp only [expandAction, hname, hvalues]
    simp only [expandWithin_succ, body_congr hname hlength, haction]

theorem accepts_iff :
    recipes.Accepts method call ↔
      ∃ recipe actions, recipes.body method call = .ok (recipe, actions) := by
  simp only [body_eq_ok_iff, Accepts, Option.isSome_iff_exists]
  constructor
  · rintro ⟨recipe, hget, hlength, actions, hactions⟩
    exact ⟨recipe, actions, hget, hlength, hactions⟩
  · rintro ⟨recipe, actions, hget, hlength, hactions⟩
    exact ⟨recipe, hget, hlength, actions, hactions⟩

/-- A call that does not fit is not too deep. -/
theorem body_ne_tooDeep (names : List String) :
    recipes.body method call ≠ .error (.tooDeep names) := by
  unfold body
  split
  · simp
  · split
    · simp
    · split <;> simp

/-- The calls in the recipe of a call that fits. -/
theorem mem_nested {recipe : Recipe} {actions : List Action}
    (hbody : recipes.body method call = .ok (recipe, actions)) {inner : Invocation} :
    inner ∈ recipes.nested method call.name ↔ .call inner ∈ actions := by
  obtain ⟨hget, _, hactions⟩ := body_eq_ok_iff.mp hbody
  simp only [nested, hget, hactions, Option.getD_some, List.mem_filterMap]
  constructor
  · rintro ⟨action, haction, hcall⟩
    cases action with
    | shell script => simp [Action.invocation?] at hcall
    | call invocation =>
      obtain rfl : invocation = inner := by simpa [Action.invocation?] using hcall
      exact haction
  · exact fun hinner => ⟨_, hinner, rfl⟩

/-- The calls that are accepted together with all calls below them, no more than `room` of which
stand inside one another. -/
inductive Fits (recipes : RecipeIndex) (method : Method) : Nat → Invocation → Prop
  | intro {room : Nat} {call : Invocation} : recipes.Accepts method call →
    (∀ inner ∈ recipes.nested method call.name, Fits recipes method room inner) →
    Fits recipes method (room + 1) call

namespace Fits

theorem congr {room : Nat} {a b : Invocation} (hname : a.name = b.name)
    (hlength : a.groups.length = b.groups.length) (h : recipes.Fits method room a) :
    recipes.Fits method room b := by
  cases h with
  | intro haccepts hinner =>
    refine .intro ?_ (hname ▸ hinner)
    rwa [accepts_iff, body_congr hname hlength, ← accepts_iff] at haccepts

theorem forward_iff {room : Nat} {parameters values : List String} :
    recipes.Fits method room (call.forward parameters values) ↔ recipes.Fits method room call :=
  ⟨congr rfl (by simp), congr rfl (by simp)⟩

theorem iff_chain {room : Nat} :
    recipes.Fits method room call ↔ ∀ chain, recipes.Chain method call chain →
      chain.length ≤ room ∧ ∀ c ∈ chain, recipes.Accepts method c := by
  constructor
  · intro h chain hchain
    induction hchain generalizing room with
    | single call =>
      obtain ⟨haccepts, _⟩ := h
      exact ⟨by simp, by simpa using haccepts⟩
    | cons hinner _ ih =>
      obtain ⟨haccepts, hbelow⟩ := h
      obtain ⟨hlength, hall⟩ := ih (hbelow _ hinner)
      exact ⟨by simpa using hlength, by simpa using ⟨haccepts, hall⟩⟩
  · intro h
    induction room generalizing call with
    | zero => simpa using (h [call] (.single call)).1
    | succ room ih =>
      refine .intro ((h [call] (.single call)).2 call (by simp)) fun inner hinner => ?_
      refine ih fun chain hchain => ?_
      obtain ⟨hlength, hall⟩ := h (call :: chain) (.cons hinner hchain)
      exact ⟨by simpa using hlength, fun c hc => hall c (List.mem_cons_of_mem _ hc)⟩

end Fits

/-- A call has commands just if there is room for all that is called below it. -/
theorem exists_expandWithin {room : Nat} {chain : List String} :
    (∃ commands, recipes.expandWithin method room chain call = .ok commands) ↔
      recipes.Fits method room call := by
  induction room generalizing chain call with
  | zero =>
    simp only [expandWithin, reduceCtorEq, exists_false, false_iff]
    rintro ⟨⟩
  | succ room ih =>
    rw [expandWithin_succ]
    cases hbody : recipes.body method call with
    | error e =>
      simp only [reduceCtorEq, exists_false, false_iff]
      rintro ⟨haccepts, _⟩
      obtain ⟨recipe, actions, hok⟩ := accepts_iff.mp haccepts
      simp [hbody] at hok
    | ok found =>
      obtain ⟨recipe, actions⟩ := found
      have hcalls : (∀ action ∈ actions, ∃ commands,
          recipes.expandAction method room chain recipe call action = .ok commands) ↔
            ∀ inner, .call inner ∈ actions → recipes.Fits method room inner := by
        constructor
        · exact fun h inner hinner => Fits.forward_iff.mp (ih.mp (h _ hinner))
        · intro h action haction
          cases action with
          | shell script => exact ⟨_, rfl⟩
          | call inner => exact ih.mpr (Fits.forward_iff.mpr (h inner haction))
      rw [exists_collect, hcalls]
      constructor
      · intro h
        exact .intro (accepts_iff.mpr ⟨_, _, hbody⟩)
          fun inner hinner => h inner ((mem_nested hbody).mp hinner)
      · rintro ⟨_, hbelow⟩
        exact fun inner hinner => hbelow inner ((mem_nested hbody).mpr hinner)

/-- The calls below a call are given by its name. -/
theorem Chain.rename {a b : Invocation} {chain : List Invocation} (hname : a.name = b.name)
    (h : recipes.Chain method a chain) :
    ∃ rest, chain = a :: rest ∧ recipes.Chain method b (b :: rest) := by
  cases h with
  | single => exact ⟨[], rfl, .single b⟩
  | cons hinner hchain => exact ⟨_, rfl, .cons (hname ▸ hinner) hchain⟩

/-- The names that are reported where calls go too deep are those of calls one inside the other, one
more than there was room for. -/
theorem chain_of_tooDeep {room : Nat} {chain names : List String}
    (h : recipes.expandWithin method room chain call = .error (.tooDeep names)) :
    ∃ below, recipes.Chain method call below ∧ below.length = room + 1 ∧
      names = chain ++ below.map Invocation.name := by
  induction room generalizing chain call with
  | zero =>
    obtain rfl : chain ++ [call.name] = names := by simpa [expandWithin] using h
    exact ⟨[call], .single call, rfl, rfl⟩
  | succ room ih =>
    rw [expandWithin_succ] at h
    cases hbody : recipes.body method call with
    | error e =>
      obtain rfl : e = .tooDeep names := by simpa [hbody] using h
      exact absurd hbody (body_ne_tooDeep names)
    | ok found =>
      obtain ⟨recipe, actions⟩ := found
      obtain ⟨action, haction, herror⟩ := exists_of_collect_eq_error (by simpa [hbody] using h)
      cases action with
      | shell script => simp [expandAction] at herror
      | call inner =>
        obtain ⟨below, hbelow, hlength, hnames⟩ := ih herror
        obtain ⟨rest, rfl, hchain⟩ := Chain.rename (Invocation.name_forward _ _ inner) hbelow
        refine ⟨call :: inner :: rest, .cons ((mem_nested hbody).mpr haction) hchain, ?_, ?_⟩
        · simpa using hlength
        · simpa using hnames

/-- A recipe that calls itself, directly or through others. -/
def Recursive (recipes : RecipeIndex) (method : Method) (name : String) : Prop :=
  ∃ inner ∈ recipes.nested method name, recipes.Reaches method inner.name name

private theorem exists_chain_of_reaches {a b : String} (hr : recipes.Reaches method a b) {n : Nat}
    (hb : ∀ y : Invocation, y.name = b → ∃ chain, recipes.Chain method y chain ∧ n ≤ chain.length)
    (x : Invocation) (hx : x.name = a) :
    ∃ chain, recipes.Chain method x chain ∧ n ≤ chain.length := by
  induction hr generalizing x with
  | refl name => exact hb x hx
  | step hcall _ ih =>
    obtain ⟨chain, hchain, hn⟩ := ih hb _ rfl
    exact ⟨x :: chain, .cons (hx ▸ hcall) hchain, by simpa using Nat.le_succ_of_le hn⟩

/-- Below a recursive recipe calls go as deep as one likes. -/
theorem Recursive.exists_chain {name : String} (h : recipes.Recursive method name) (n : Nat)
    (x : Invocation) (hx : x.name = name) :
    ∃ chain, recipes.Chain method x chain ∧ n ≤ chain.length := by
  induction n generalizing x with
  | zero => exact ⟨[x], .single x, Nat.zero_le _⟩
  | succ n ih =>
    obtain ⟨inner, hinner, hr⟩ := h
    obtain ⟨chain, hchain, hn⟩ := exists_chain_of_reaches hr ih inner rfl
    exact ⟨x :: chain, .cons (hx ▸ hinner) hchain, by simpa using hn⟩

/-- A call has commands just if all chains of calls from it on are short and all calls on them are
accepted. So no recursion has any, and calls side by side are never too deep. -/
theorem expand_ok_iff_chains (recipes : RecipeIndex) (method : Method) (call : Invocation) :
    ((∃ commands, recipes.expand method call = .ok commands) ↔
      ∀ chain, recipes.Chain method call chain →
        chain.length ≤ maxDepth ∧ ∀ c ∈ chain, recipes.Accepts method c) ∧
    (∀ name, recipes.Reaches method call.name name → recipes.Recursive method name →
      ∀ commands, recipes.expand method call ≠ .ok commands) ∧
    ((∀ chain, recipes.Chain method call chain → chain.length ≤ maxDepth) →
      ∀ names, recipes.expand method call ≠ .error (.tooDeep names)) := by
  have hiff : (∃ commands, recipes.expand method call = .ok commands) ↔
      ∀ chain, recipes.Chain method call chain →
        chain.length ≤ maxDepth ∧ ∀ c ∈ chain, recipes.Accepts method c :=
    exists_expandWithin.trans Fits.iff_chain
  refine ⟨hiff, ?_, ?_⟩
  · intro name hr hrecursive commands hok
    obtain ⟨chain, hchain, hn⟩ :=
      exists_chain_of_reaches hr (hrecursive.exists_chain (maxDepth + 1)) call rfl
    have hlength := (hiff.mp ⟨commands, hok⟩ chain hchain).1
    omega
  · intro hshort names hdeep
    obtain ⟨below, hchain, hlength, _⟩ := chain_of_tooDeep hdeep
    have := hshort below hchain
    omega

/-- A recipe in front of two that call each other. -/
def spiral : RecipeIndex :=
  .ofList [("start", ⟨"start", [], .ofList [("setup", [.shell "true", .call ⟨"turn", [["a"]]⟩])]⟩),
    ("turn", ⟨"turn", ["x"], .ofList [("setup", [.shell "echo $((x))", .call ⟨"back", []⟩])]⟩),
    ("back", ⟨"back", [], .ofList [("setup", [.call ⟨"turn", [["b", "c"]]⟩])]⟩)]

theorem expand_spiral :
    (spiral.Reaches .setup "start" "turn" ∧ spiral.Recursive .setup "turn") ∧
      ∀ commands, spiral.expand .setup ⟨"start", []⟩ ≠ .ok commands := by
  have hstart : ⟨"turn", [["a"]]⟩ ∈ spiral.nested .setup "start" := by decide
  have hturn : ⟨"back", []⟩ ∈ spiral.nested .setup "turn" := by decide
  have hback : ⟨"turn", [["b", "c"]]⟩ ∈ spiral.nested .setup "back" := by decide
  have hreaches : spiral.Reaches .setup "start" "turn" := .step hstart (.refl _)
  have hrecursive : spiral.Recursive .setup "turn" := ⟨_, hturn, .step hback (.refl _)⟩
  exact ⟨⟨hreaches, hrecursive⟩,
    (expand_ok_iff_chains spiral .setup ⟨"start", []⟩).2.1 "turn" hreaches hrecursive⟩

/-! ## How deep calls go -/

variable {chain : List Invocation}

/-- A call of the second recipe stands in the method of the first. -/
def Calls (recipes : RecipeIndex) (method : Method) (caller callee : String) : Prop :=
  ∃ inner ∈ recipes.nested method caller, inner.name = callee

/-- Whatever a recipe calls is there. -/
def Closed (recipes : RecipeIndex) (method : Method) : Prop :=
  ∀ name, ∀ inner ∈ recipes.nested method name, recipes.contains inner.name

theorem mem_keys_of_mem_nested {name : String} {inner : Invocation}
    (h : inner ∈ recipes.nested method name) : name ∈ recipes.keys := by
  rw [OrderedMap.mem_keys_iff]
  unfold nested at h
  split at h
  · simp at h
  · next recipe hget => exact ⟨recipe, hget⟩

theorem Closed.mem_keys (hc : recipes.Closed method) {name : String} {inner : Invocation}
    (h : inner ∈ recipes.nested method name) : inner.name ∈ recipes.keys := by
  rw [OrderedMap.mem_keys_iff]
  exact recipes.contains_iff.mp (hc name inner h)

namespace Chain

theorem head (h : recipes.Chain method call chain) : chain.head? = some call := by
  cases h <;> rfl

theorem isChain_calls (h : recipes.Chain method call chain) :
    (chain.map Invocation.name).IsChain (recipes.Calls method) := by
  induction h with
  | single call => simp
  | cons hinner hchain ih =>
    rw [List.map_cons, List.isChain_cons]
    refine ⟨?_, ih⟩
    rintro name hname
    obtain rfl : _ = name := by simpa [hchain.head] using hname
    exact ⟨_, hinner, rfl⟩

theorem reaches (h : recipes.Chain method call chain) :
    ∀ c ∈ chain, recipes.Reaches method call.name c.name := by
  induction h with
  | single call => simpa using .refl call.name
  | cons hinner _ ih =>
    exact List.forall_mem_cons.mpr ⟨.refl _, fun c hc => .step hinner (ih c hc)⟩

/-- Where nothing is recursive, no recipe comes twice. -/
theorem nodup_names (hacyclic : ∀ name, ¬ recipes.Recursive method name)
    (h : recipes.Chain method call chain) : (chain.map Invocation.name).Nodup := by
  induction h with
  | single call => simp
  | @cons outer inner chain hinner hchain ih =>
    rw [List.map_cons, List.nodup_cons]
    refine ⟨fun hmem => ?_, ih⟩
    obtain ⟨c, hc, hname⟩ := List.mem_map.mp hmem
    exact hacyclic outer.name ⟨inner, hinner, hname ▸ hchain.reaches c hc⟩

theorem subset_keys (hc : recipes.Closed method) (hcall : call.name ∈ recipes.keys)
    (h : recipes.Chain method call chain) : chain.map Invocation.name ⊆ recipes.keys := by
  induction h with
  | single call => simpa using hcall
  | cons hinner _ ih => exact List.cons_subset.mpr ⟨hcall, ih (hc.mem_keys hinner)⟩

/-- Without recursion there are no more calls one inside the other than there are recipes, unless a
single call is of none. -/
theorem length_le (hc : recipes.Closed method)
    (hacyclic : ∀ name, ¬ recipes.Recursive method name) (h : recipes.Chain method call chain) :
    chain.length ≤ max 1 recipes.size := by
  have hnodup := h.nodup_names hacyclic
  cases h with
  | single => simp
  | @cons _ _ rest hinner hrest =>
    have hsub := subset_keys hc (mem_keys_of_mem_nested hinner) (.cons hinner hrest)
    have hle := (hnodup.subperm hsub).length_le
    rw [List.length_map, OrderedMap.keys, List.length_map] at hle
    exact hle.trans (le_max_right ..)

end Chain

/-- Recipes of which each calls none but those of a lower rank are not recursive. -/
theorem not_recursive_of_rank (rank : String → Nat)
    (h : ∀ name, ∀ inner ∈ recipes.nested method name, rank inner.name < rank name)
    (name : String) : ¬ recipes.Recursive method name := by
  have hreaches {a b : String} (hr : recipes.Reaches method a b) : rank b ≤ rank a := by
    induction hr with
    | refl => exact le_rfl
    | step hcall _ ih => exact ih.trans (h _ _ hcall).le
  rintro ⟨inner, hinner, hr⟩
  exact (hreaches hr).not_gt (h name inner hinner)

/-- Where calls go too deep, the report names calls one inside the other, from the outermost on, and
the last of them is the first that does not fit. That cannot be without recursion, as long as there
are no more recipes than calls may stand inside one another and only those are called. -/
theorem expand_tooDeep (recipes : RecipeIndex) (method : Method) (call : Invocation) :
    (∀ names, recipes.expand method call = .error (.tooDeep names) →
      names.length = maxDepth + 1 ∧ names.head? = some call.name ∧
        names.IsChain (recipes.Calls method)) ∧
    (recipes.size ≤ maxDepth → recipes.Closed method →
      (∀ name, ¬ recipes.Recursive method name) →
      ∀ names, recipes.expand method call ≠ .error (.tooDeep names)) := by
  constructor
  · intro names h
    obtain ⟨below, hchain, hlength, rfl⟩ := chain_of_tooDeep h
    rw [List.nil_append]
    exact ⟨by simpa using hlength, by simp [hchain.head], hchain.isChain_calls⟩
  · intro hsize hclosed hacyclic names h
    obtain ⟨below, hchain, hlength, -⟩ := chain_of_tooDeep h
    have hle := hchain.length_le hclosed hacyclic
    have hlimit : 1 ≤ maxDepth := by decide
    omega

/-- A recipe that rests each time before it calls itself. -/
def spin : RecipeIndex :=
  .ofList [("rest", ⟨"rest", [], .ofList [("setup", [])]⟩),
    ("spin", ⟨"spin", [], .ofList [("setup", [.call ⟨"rest", []⟩, .call ⟨"spin", []⟩])]⟩)]

/-- Three recipes, two of which make the same call twice. -/
def kitchen : RecipeIndex :=
  .ofList [("tea", ⟨"tea", [], .ofList [("setup", [.call ⟨"boil", []⟩, .call ⟨"boil", []⟩])]⟩),
    ("boil", ⟨"boil", [],
      .ofList [("setup", [.call ⟨"turn", [["on"]]⟩, .call ⟨"turn", [["off"]]⟩])]⟩),
    ("turn", ⟨"turn", ["x"], .ofList [("setup", [.shell "switch $((x))"])]⟩)]

/-- The call that does not fit is the rest of the innermost turn, after as many finished ones. -/
theorem expand_spin_kitchen :
    (spin.expand .setup ⟨"spin", []⟩ = .error (.tooDeep (List.replicate 64 "spin" ++ ["rest"])) ∧
      (List.replicate 64 "spin" ++ ["rest"]).length = maxDepth + 1 ∧
      (List.replicate 64 "spin" ++ ["rest"]).head? = some "spin" ∧
      (List.replicate 64 "spin" ++ ["rest"]).IsChain (spin.Calls .setup)) ∧
    kitchen.size ≤ maxDepth ∧ kitchen.Closed .setup ∧
      (∀ name, ¬ kitchen.Recursive .setup name) ∧
      ∀ names, kitchen.expand .setup ⟨"tea", []⟩ ≠ .error (.tooDeep names) := by
  have hspin : spin.expand .setup ⟨"spin", []⟩ =
      .error (.tooDeep (List.replicate 64 "spin" ++ ["rest"])) := by decide +kernel
  have hsize : kitchen.size ≤ maxDepth := by decide +kernel
  have hclosed : kitchen.Closed .setup := by
    have hkeys : ∀ name ∈ kitchen.keys, ∀ inner ∈ kitchen.nested .setup name,
        kitchen.contains inner.name := by decide +kernel
    exact fun name inner hinner => hkeys name (mem_keys_of_mem_nested hinner) inner hinner
  have hacyclic : ∀ name, ¬ kitchen.Recursive .setup name := by
    let rank (name : String) : Nat := if name = "tea" then 2 else if name = "boil" then 1 else 0
    have hkeys : ∀ name ∈ kitchen.keys, ∀ inner ∈ kitchen.nested .setup name,
        rank inner.name < rank name := by decide +kernel
    exact not_recursive_of_rank rank fun name inner hinner =>
      hkeys name (mem_keys_of_mem_nested hinner) inner hinner
  exact ⟨⟨hspin, (expand_tooDeep spin .setup ⟨"spin", []⟩).1 _ hspin⟩, hsize, hclosed, hacyclic,
    (expand_tooDeep kitchen .setup ⟨"tea", []⟩).2 hsize hclosed hacyclic⟩

end RecipeIndex

end Provision
