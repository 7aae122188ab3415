import Provision.Configuration.Validation
import Provision.Proofs.Graph.Cycle
import Provision.Proofs.Graph.Walk

namespace Provision

namespace Methods

/-- There is at least one action under a name. -/
def Gives (ms : Methods) (name : String) : Prop :=
  ∃ actions, ms.get? name = some actions ∧ actions ≠ []

/-- A target can be installed and checked by a shortcut, or by two methods of its own. -/
def IsComplete (ms : Methods) : Prop :=
  ms.Gives shortcutName ∨ ms.Gives Method.setup.name ∧ ms.Gives Method.isSetup.name

theorem mem_invocations {ms : Methods} {call : Invocation} :
    call ∈ ms.invocations ↔ ∃ e ∈ ms.entries, .call call ∈ e.2 := by
  simp only [invocations, OrderedMap.values, List.flatMap_map, List.mem_flatMap,
    List.mem_filterMap]
  constructor
  · rintro ⟨e, he, action, haction, hcall⟩
    cases action with
    | shell script => simp [Action.invocation?] at hcall
    | call invocation =>
      obtain rfl : invocation = call := by simpa [Action.invocation?] using hcall
      exact ⟨e, he, haction⟩
  · rintro ⟨e, he, hcall⟩
    exact ⟨e, he, .call call, hcall, rfl⟩

end Methods

namespace Validation

variable {targets : TargetIndex} {recipes : RecipeIndex} {graph : Graph}

theorem isGiven_iff {ms : Methods} {name : String} : isGiven ms name = true ↔ ms.Gives name := by
  unfold isGiven Methods.Gives
  split
  · next actions h => simp [h]
  · next h => simp [h]

theorem gap?_eq_none_iff {ms : Methods} {m : Method} : gap? ms m = none ↔ ms.Gives m.name := by
  unfold gap?
  rw [← isGiven_iff]
  split
  · next h => simp [h]
  · next h => split <;> simp [h]

theorem definitionError?_eq_none_iff {target : String} :
    definitionError? targets target = none ↔
      ∃ ms, targets.get? target = some ms ∧ ms.IsComplete := by
  unfold definitionError?
  cases targets.get? target with
  | none => simp
  | some ms =>
    simp only [Option.some.injEq, exists_eq_left', Methods.IsComplete]
    by_cases hs : isGiven ms Methods.shortcutName = true
    · simp [hs, isGiven_iff.mp hs]
    · have hg : ¬ ms.Gives Methods.shortcutName := isGiven_iff.not.mp hs
      simp [hs, hg, gap?_eq_none_iff]

theorem callError?_eq_none_iff {check? : String → Invocation → Option ConfigurationError} :
    callError? check? targets = none ↔
      ∀ e ∈ targets.entries, ∀ f ∈ e.2.entries, ∀ call, .call call ∈ f.2 →
        check? e.1 call = none := by
  simp only [callError?, List.findSome?_eq_none_iff, Methods.mem_invocations]
  constructor
  · exact fun h e he f hf call hcall => h e he call ⟨f, hf, hcall⟩
  · rintro h e he call ⟨f, hf, hcall⟩
    exact h e he f hf call hcall

theorem recipeError?_eq_none_iff {target : String} {call : Invocation} :
    recipeError? recipes target call = none ↔
      ∃ recipe, recipes.get? call.name = some recipe := by
  rw [recipeError?, ← OrderedMap.contains_iff]
  split <;> simp_all

theorem arityError?_eq_none_iff {target : String} {call : Invocation} :
    arityError? recipes target call = none ↔
      ∀ recipe, recipes.get? call.name = some recipe →
        call.groups.length = recipe.parameters.length := by
  unfold arityError?
  cases recipes.get? call.name with
  | none => simp
  | some recipe => simp

theorem expansionError?_eq_none_iff :
    expansionError? recipes targets = none ↔
      ∀ e ∈ targets.entries, ∀ m, ∃ commands, recipes.commands e.2 m = .ok commands := by
  simp only [expansionError?, List.findSome?_eq_none_iff]
  constructor
  · intro h e he m
    have hm : m ∈ [Method.setup, .isSetup] := by cases m <;> simp
    have hcheck := h e he m hm
    cases hcommands : recipes.commands e.2 m with
    | ok commands => exact ⟨commands, rfl⟩
    | error e => simp [hcommands] at hcheck
  · intro h e he m _
    obtain ⟨commands, hcommands⟩ := h e he m
    simp [hcommands]

theorem validate_eq_ok_iff_errors :
    validate targets recipes graph = .ok () ↔
      graph.installOrder.findSome? (definitionError? targets) = none ∧ graph.findCycle = none ∧
      callError? (recipeError? recipes) targets = none ∧
      callError? (arityError? recipes) targets = none ∧
      expansionError? recipes targets = none := by
  have herror : validate targets recipes graph = .ok () ↔ error? targets recipes graph = none := by
    unfold validate
    cases error? targets recipes graph <;> simp
  rw [herror, error?]
  simp only [Option.or_eq_none_iff, Option.map_eq_none_iff, and_assoc]

theorem validate_eq_ok_iff :
    validate targets recipes graph = .ok () ↔
      (∀ n ∈ graph.installOrder, ∃ ms, targets.get? n = some ms ∧ ms.IsComplete) ∧
      graph.findCycle = none ∧
      (∀ e ∈ targets.entries, ∀ f ∈ e.2.entries, ∀ call, .call call ∈ f.2 →
        ∃ recipe, recipes.get? call.name = some recipe ∧
          call.groups.length = recipe.parameters.length) ∧
      ∀ e ∈ targets.entries, ∀ m, ∃ commands, recipes.commands e.2 m = .ok commands := by
  rw [validate_eq_ok_iff_errors]
  simp only [List.findSome?_eq_none_iff, definitionError?_eq_none_iff, callError?_eq_none_iff,
    recipeError?_eq_none_iff, arityError?_eq_none_iff, expansionError?_eq_none_iff]
  refine and_congr_right fun _ => and_congr_right fun _ => ?_
  constructor
  · rintro ⟨hrecipe, harity, hexpansion⟩
    refine ⟨fun e he f hf call hcall => ?_, hexpansion⟩
    obtain ⟨recipe, hget⟩ := hrecipe e he f hf call hcall
    exact ⟨recipe, hget, harity e he f hf call hcall recipe hget⟩
  · rintro ⟨hcalls, hexpansion⟩
    refine ⟨fun e he f hf call hcall => ?_, fun e he f hf call hcall recipe hget => ?_, hexpansion⟩
    · obtain ⟨recipe, hget, _⟩ := hcalls e he f hf call hcall
      exact ⟨recipe, hget⟩
    · obtain ⟨recipe', hget', hlength⟩ := hcalls e he f hf call hcall
      obtain rfl : recipe = recipe' := Option.some.inj (hget.symm.trans hget')
      exact hlength

/-- All that a configuration needs to be of use. -/
structure Usable (targets : TargetIndex) (recipes : RecipeIndex) (index : DependencyIndex) :
    Prop where
  complete : ∀ n ∈ (Graph.ofIndex index).names,
    ∃ ms, targets.get? n = some ms ∧ ms.IsComplete
  acyclic : ∀ n, ¬ Relation.TransGen index.Requires n n
  calls : ∀ target ms, targets.get? target = some ms → ∀ name actions,
    ms.get? name = some actions → ∀ call, .call call ∈ actions →
      ∃ recipe, recipes.get? call.name = some recipe ∧
        call.groups.length = recipe.parameters.length
  expansions : ∀ target ms, targets.get? target = some ms → ∀ m,
    ∃ commands, recipes.commands ms m = .ok commands

/-- The checks accept just what is of use, although the first of them looks only at the targets
that can be installed. -/
theorem validate_eq_ok_iff_usable (targets : TargetIndex) (recipes : RecipeIndex)
    (index : DependencyIndex) (hroot : ∀ p, ¬ index.Requires Graph.root p) :
    validate targets recipes (Graph.ofIndex index) = .ok () ↔ Usable targets recipes index := by
  have hs := Graph.hasSource_ofIndex hroot
  have hcycle : (Graph.ofIndex index).findCycle = none ↔
      ∀ n, ¬ Relation.TransGen index.Requires n n :=
    (Graph.findCycle_eq_none_iff hs).trans (Graph.acyclic_ofIndex hroot)
  rw [validate_eq_ok_iff, hcycle]
  constructor
  · rintro ⟨hcomplete, hacyclic, hcalls, hexpansions⟩
    have ha := (Graph.acyclic_ofIndex hroot).mpr hacyclic
    refine ⟨fun n hn => ?_, hacyclic, ?_, ?_⟩
    · exact hcomplete n ((Graph.mem_installOrder_iff hs ha).mpr hn)
    · intro target ms ht name actions hm call hcall
      exact hcalls (target, ms) (targets.get?_eq_some_iff.mp ht) (name, actions)
        (ms.get?_eq_some_iff.mp hm) call hcall
    · exact fun target ms ht m =>
        hexpansions (target, ms) (targets.get?_eq_some_iff.mp ht) m
  · rintro ⟨hcomplete, hacyclic, hcalls, hexpansions⟩
    refine ⟨fun n hn => ?_, hacyclic, ?_, ?_⟩
    · exact hcomplete n (Graph.mem_names_of_mem_installOrder hs hn)
    · intro e he f hf call hcall
      exact hcalls e.1 e.2 (targets.get?_eq_some_iff.mpr he) f.1 f.2
        (e.2.get?_eq_some_iff.mpr hf) call hcall
    · exact fun e he m => hexpansions e.1 e.2 (targets.get?_eq_some_iff.mpr he) m

/-- Two targets that have no definition, out of the way of an installation behind each other. -/
theorem validate_hidden_targets :
    (∀ p, ¬ DependencyIndex.Requires
      (OrderedMap.ofList [("a", []), ("c", ["d"]), ("d", ["a", "c"])]) Graph.root p) ∧
    (validate (OrderedMap.ofList [("a", OrderedMap.ofList [("recipe", [.shell "true"])])]) ∅
        (Graph.ofIndex (OrderedMap.ofList [("a", []), ("c", ["d"]), ("d", ["a", "c"])])) = .ok () ↔
      Usable (OrderedMap.ofList [("a", OrderedMap.ofList [("recipe", [.shell "true"])])]) ∅
        (OrderedMap.ofList [("a", []), ("c", ["d"]), ("d", ["a", "c"])])) := by
  have hroot : ∀ p, ¬ DependencyIndex.Requires
      (OrderedMap.ofList [("a", []), ("c", ["d"]), ("d", ["a", "c"])]) Graph.root p := by
    rintro p ⟨dependencies, hget, _⟩
    have hnone : (OrderedMap.ofList [("a", ([] : List String)), ("c", ["d"]),
      ("d", ["a", "c"])]).get? Graph.root = none := by decide
    simp [hnone] at hget
  exact ⟨hroot, validate_eq_ok_iff_usable _ _ _ hroot⟩

end Validation

end Provision
