import Provision.Proofs.Index.Declared
import Provision.Proofs.Recipe.Expansion

namespace Provision

section Collect

variable {ε α β : Type} {f : α → Except ε (List β)}

/-- What a result holds of an entry. -/
theorem exists_subset_collect {xs : List α} {zs : List β} (h : collect f xs = .ok zs) {x : α}
    (hx : x ∈ xs) : ∃ ys, f x = .ok ys ∧ ys ⊆ zs := by
  induction xs generalizing zs with
  | nil => cases hx
  | cons a xs ih =>
    rw [collect] at h
    cases ha : f a with
    | error e => simp [ha] at h
    | ok ys =>
      cases hxs : collect f xs with
      | error e => simp [ha, hxs] at h
      | ok more =>
        obtain rfl : ys ++ more = zs := by simpa [ha, hxs] using h
        rcases List.mem_cons.mp hx with rfl | hx
        · exact ⟨ys, ha, List.subset_append_left ys more⟩
        · obtain ⟨ys', hy, hsubset⟩ := ih hxs hx
          exact ⟨ys', hy, List.Subset.trans hsubset (List.subset_append_right ys more)⟩

theorem collect_ne_nil {xs : List α} {zs : List β} (h : collect f xs = .ok zs) {x : α}
    (hx : x ∈ xs) (hf : ∀ ys, f x = .ok ys → ys ≠ []) : zs ≠ [] := by
  obtain ⟨ys, hy, hsubset⟩ := exists_subset_collect h hx
  rintro rfl
  exact hf ys hy (List.subset_nil.mp hsubset)

end Collect

namespace RecipeIndex

variable {recipes : RecipeIndex} {method : Method} {call : Invocation}

/-- There is a script for a method in the recipe of a name. -/
def HasScript (recipes : RecipeIndex) (method : Method) (name : String) : Prop :=
  ∃ recipe actions script, recipes.get? name = some recipe ∧
    recipe.methods.get? method.name = some actions ∧ .shell script ∈ actions

/-- Among actions is a script, or a call from which calls lead to a recipe with one. -/
def LeadsToScript (recipes : RecipeIndex) (method : Method) (actions : List Action) : Prop :=
  (∃ script, .shell script ∈ actions) ∨
    ∃ call name, .call call ∈ actions ∧ recipes.Reaches method call.name name ∧
      recipes.HasScript method name

/-- A call that has commands stands for a recipe, whose actions all have theirs. -/
theorem collect_of_expandWithin {room : Nat} {chain commands : List String}
    (h : recipes.expandWithin method room chain call = .ok commands) :
    ∃ room' recipe actions, room = room' + 1 ∧
      recipes.body method call = .ok (recipe, actions) ∧
      collect (recipes.expandAction method room' chain recipe call) actions = .ok commands := by
  cases room with
  | zero => simp [expandWithin] at h
  | succ room =>
    rw [expandWithin_succ] at h
    cases hbody : recipes.body method call with
    | error e => simp [hbody] at h
    | ok found => exact ⟨room, found.1, found.2, rfl, rfl, by simpa [hbody] using h⟩

/-- Where calls lead to a script, a command comes of it. -/
theorem expandWithin_ne_nil {a b : String} (hr : recipes.Reaches method a b)
    (hb : recipes.HasScript method b) {room : Nat} {chain commands : List String}
    (ha : call.name = a) (h : recipes.expandWithin method room chain call = .ok commands) :
    commands ≠ [] := by
  induction hr generalizing room chain call commands with
  | refl name =>
    obtain ⟨room, recipe, actions, rfl, hbody, hcollect⟩ := collect_of_expandWithin h
    obtain ⟨found, bodies, script, hget, hmethod, hscript⟩ := hb
    obtain ⟨hget', _, hmethod'⟩ := body_eq_ok_iff.mp hbody
    obtain rfl : recipe = found := Option.some.inj (hget'.symm.trans (ha ▸ hget))
    obtain rfl : actions = bodies := Option.some.inj (hmethod'.symm.trans hmethod)
    refine collect_ne_nil hcollect hscript fun ys hys => ?_
    obtain rfl : [_] = ys := by simpa [expandAction] using hys
    simp
  | step hinner _ ih =>
    obtain ⟨room, recipe, actions, rfl, hbody, hcollect⟩ := collect_of_expandWithin h
    refine collect_ne_nil hcollect ((mem_nested hbody).mp (ha ▸ hinner)) fun ys hys => ?_
    exact ih hb (Invocation.name_forward ..) hys

theorem commands_ne_nil {ms : Methods} {actions : List Action} {commands : List String}
    (hactions : ms.actions? method = some actions) (hs : recipes.LeadsToScript method actions)
    (h : recipes.commands ms method = .ok commands) : commands ≠ [] := by
  rw [RecipeIndex.commands, hactions] at h
  rcases hs with ⟨script, hscript⟩ | ⟨call, name, hcall, hr, hname⟩
  · refine collect_ne_nil h hscript fun ys hys => ?_
    obtain rfl : [script] = ys := by simpa using hys
    simp
  · exact collect_ne_nil h hcall fun ys hys => expandWithin_ne_nil hr hname rfl hys

/-- Calls that come to an end come to a script, if no method on the way is without actions. -/
theorem Fits.exists_hasScript (hf : recipes.Filled) {room : Nat}
    (h : recipes.Fits method room call) :
    ∃ name, recipes.Reaches method call.name name ∧ recipes.HasScript method name := by
  induction h with
  | @intro room call haccepts _ ih =>
    obtain ⟨recipe, actions, hbody⟩ := accepts_iff.mp haccepts
    obtain ⟨hget, _, hmethod⟩ := body_eq_ok_iff.mp hbody
    obtain ⟨action, haction⟩ :=
      List.exists_mem_of_ne_nil actions (hf _ recipe hget _ actions hmethod)
    cases action with
    | shell script => exact ⟨_, .refl _, recipe, actions, script, hget, hmethod, haction⟩
    | call inner =>
      have hinner := (mem_nested hbody).mpr haction
      obtain ⟨name, hr, hname⟩ := ih inner hinner
      exact ⟨name, .step hinner hr, hname⟩

theorem leadsToScript_of_filled (hf : recipes.Filled) {actions : List Action}
    (hne : actions ≠ []) {commands : List String}
    (h : recipes.expandActions method actions = .ok commands) :
    recipes.LeadsToScript method actions := by
  obtain ⟨action, haction⟩ := List.exists_mem_of_ne_nil actions hne
  cases action with
  | shell script => exact .inl ⟨script, haction⟩
  | call call =>
    obtain ⟨ys, hys, _⟩ := exists_subset_collect h haction
    obtain ⟨name, hr, hname⟩ := (exists_expandWithin.mp ⟨ys, hys⟩).exists_hasScript hf
    exact .inr ⟨call, name, haction, hr, hname⟩

end RecipeIndex

end Provision
