import Provision.Document.WellFormed
import Provision.Proofs.Recipe.Locality
import Provision.Proofs.Recipe.Scripts
import Provision.Proofs.Recipe.Substitution

namespace Provision

/-- What all entries give with one function they give with another one, so the lists agree. -/
theorem collect_of_ok {ε α β : Type} {f g : α → Except ε (List β)} {xs : List α} {zs : List β}
    (h : ∀ x ∈ xs, ∀ ys, f x = .ok ys → g x = .ok ys) (hf : collect f xs = .ok zs) :
    collect g xs = .ok zs := by
  have hall : ∀ x ∈ xs, ∃ ys, f x = .ok ys := exists_collect.mp ⟨zs, hf⟩
  rw [← hf]
  refine collect_congr fun x hx => ?_
  obtain ⟨ys, hys⟩ := hall x hx
  rw [hys, h x hx ys hys]

theorem collect_singleton {ε α β : Type} (f : α → Except ε (List β)) (x : α) :
    collect f [x] = f x := by
  rw [collect]
  cases f x with
  | error e => rfl
  | ok ys => simp [collect]

namespace Template

variable {parameters values : List String}

/-- The reference to a name, without blanks in it. -/
def referenceTo (name : String) : String := "$((" ++ name ++ "))"

theorem pieces_referenceTo {name : String} (h : IsName name) :
    pieces (referenceTo name).toList = [.reference (spell [] name.toList []) name.toList] := by
  have hspell : (referenceTo name).toList = spell [] name.toList [] := by
    simp [referenceTo, spell, String.toList_append]
  have hreference : reference? (spell [] name.toList []) =
      some (spell [] name.toList [], name.toList, []) :=
    reference?_eq_some_iff.mpr ⟨[], [], rfl, h, rfl, rfl, (List.append_nil _).symm⟩
  rw [hspell, pieces_of_reference? hreference]
  simp [pieces]

/-- A token that refers to a parameter and holds nothing else stands for the value of it. -/
theorem substitute_referenceTo (hlength : parameters.length = values.length) {name : String}
    (h : IsName name) (hmem : name ∈ parameters) :
    substitute parameters values (referenceTo name) = values.getD (parameters.idxOf name) "" := by
  rw [substitute, pieces_referenceTo h]
  simp [fill, Piece.fill, lookup_zip hlength, hmem]

/-- References to all parameters in their order stand for all values in theirs. -/
theorem map_substitute_referenceTo (hlength : parameters.length = values.length)
    (hnames : ∀ p ∈ parameters, IsName p) (hn : parameters.Nodup) :
    parameters.map (fun p => substitute parameters values (referenceTo p)) = values := by
  refine List.ext_getElem (by simpa using hlength) fun i hi _ => ?_
  have hi' : i < parameters.length := by simpa using hi
  rw [List.getElem_map,
    substitute_referenceTo hlength (hnames _ (List.getElem_mem hi')) (List.getElem_mem hi'),
    hn.idxOf_getElem i hi']
  exact (List.getElem_eq_getD "").symm

end Template

open Template

/-- For a method, the recipe does nothing but call another one with its own arguments. -/
structure Recipe.Forwards (wrapper : Recipe) (method : Method) (callee : String) : Prop where
  names : ∀ p ∈ wrapper.parameters, IsName p
  nodup : wrapper.parameters.Nodup
  actions : wrapper.methods.get? method.name =
    some [.call ⟨callee, wrapper.parameters.map fun p => [referenceTo p]⟩]

/-- Whatever the values hold, they arrive as they are. -/
theorem Invocation.values_forward_referenceTo {parameters values : List String} {callee : String}
    (hlength : parameters.length = values.length) (hnames : ∀ p ∈ parameters, IsName p)
    (hn : parameters.Nodup) :
    ((Invocation.mk callee (parameters.map fun p => [referenceTo p])).forward
      parameters values).values = values := by
  have hmap := map_substitute_referenceTo hlength hnames hn
  simpa [Invocation.values, Invocation.forward, Function.comp_def] using hmap

namespace RecipeIndex

variable {recipes : RecipeIndex} {method : Method} {call : Invocation}

theorem Fits.exists_get? {a b : String} (hr : recipes.Reaches method a b) {room : Nat}
    (ha : call.name = a) (h : recipes.Fits method room call) :
    ∃ recipe, recipes.get? b = some recipe := by
  induction hr generalizing room call with
  | refl name =>
    obtain ⟨⟨recipe, hget, -, -⟩, -⟩ := h
    exact ⟨recipe, ha ▸ hget⟩
  | step hinner _ ih =>
    obtain ⟨-, hbelow⟩ := h
    exact ih rfl (hbelow _ (ha ▸ hinner))

/-- Calls that would come back to where they began find no end, so there is room for none. -/
theorem Fits.not_recursive {room : Nat} (h : recipes.Fits method room call) :
    ¬ recipes.Recursive method call.name := by
  intro hrecursive
  obtain ⟨chain, hchain, hlength⟩ := hrecursive.exists_chain (room + 1) call rfl
  have hshort := (Fits.iff_chain.mp h chain hchain).1
  omega

/-- Where there is room for a call, its commands are the same as in any other place. -/
theorem expandWithin_of_fits {room room' : Nat} {chain chain' commands : List String}
    (h : recipes.expandWithin method room chain call = .ok commands)
    (hfits : recipes.Fits method room' call) :
    recipes.expandWithin method room' chain' call = .ok commands := by
  induction room generalizing room' chain chain' call commands with
  | zero => simp [expandWithin] at h
  | succ room ih =>
    obtain ⟨room, recipe, actions, hroom, hbody, hcollect⟩ := collect_of_expandWithin h
    obtain rfl : _ = room := Nat.succ.inj hroom
    obtain ⟨-, hbelow⟩ := hfits
    rw [expandWithin_succ, hbody]
    refine collect_of_ok (fun action haction ys hys => ?_) hcollect
    cases action with
    | shell script => exact hys
    | call inner =>
      have hinner := hbelow inner ((mem_nested hbody).mpr haction)
      exact ih hys (Fits.forward_iff.mpr hinner)

/-- With less room a call comes to the same, as long as no chain of calls takes more. -/
theorem expandWithin_eq_ok_iff {room : Nat} (hroom : room ≤ maxDepth)
    {chain commands : List String} :
    recipes.expandWithin method room chain call = .ok commands ↔
      recipes.expand method call = .ok commands ∧
        ∀ chain, recipes.Chain method call chain → chain.length ≤ room := by
  constructor
  · intro h
    have hchains := Fits.iff_chain.mp (exists_expandWithin.mp ⟨commands, h⟩)
    refine ⟨expandWithin_of_fits h (Fits.iff_chain.mpr fun other hother => ?_),
      fun other hother => (hchains other hother).1⟩
    obtain ⟨hshort, haccepts⟩ := hchains other hother
    exact ⟨hshort.trans hroom, haccepts⟩
  · rintro ⟨h, hshort⟩
    have hchains := Fits.iff_chain.mp (exists_expandWithin.mp ⟨commands, h⟩)
    exact expandWithin_of_fits h (Fits.iff_chain.mpr fun other hother =>
      ⟨hshort other hother, (hchains other hother).2⟩)

theorem nested_of_forwards {wrapper : Recipe} {name callee : String}
    (hget : recipes.get? name = some wrapper) (hw : wrapper.Forwards method callee) :
    recipes.nested method name = [⟨callee, wrapper.parameters.map fun p => [referenceTo p]⟩] := by
  simp [nested, hget, hw.actions, Action.invocation?]

/-- A call of a wrapper is the call of the other recipe, one level further down. -/
theorem expandWithin_of_forwards {wrapper : Recipe} {name callee : String}
    (hget : recipes.get? name = some wrapper) (hw : wrapper.Forwards method callee)
    {groups : List (List String)} (hlength : groups.length = wrapper.parameters.length) (room : Nat)
    (chain : List String) :
    recipes.expandWithin method (room + 1) chain ⟨name, groups⟩ =
      recipes.expandWithin method room (chain ++ [name]) ⟨callee, groups⟩ := by
  have hbody : recipes.body method ⟨name, groups⟩ =
      .ok (wrapper, [.call ⟨callee, wrapper.parameters.map fun p => [referenceTo p]⟩]) :=
    body_eq_ok_iff.mpr ⟨hget, hlength, hw.actions⟩
  have hvalues : wrapper.parameters.length = (Invocation.mk name groups).values.length := by
    rw [Invocation.length_values, hlength]
  rw [expandWithin_succ, hbody]
  dsimp only
  rw [collect_singleton]
  exact expandWithin_congr rfl (Invocation.values_forward_referenceTo hvalues hw.names hw.nodup)

/-- Nothing that a wrapper by a new name leads to calls the wrapper, so what is below it comes to the
same without it. -/
theorem expand_insert_eq_ok_iff {wrapper : Recipe} {name callee : String}
    (hnew : recipes.get? name = none) (hw : wrapper.Forwards method callee)
    {groups : List (List String)} (hlength : groups.length = wrapper.parameters.length)
    {commands : List String} :
    expand (recipes.insert name wrapper) method ⟨name, groups⟩ = .ok commands ↔
      recipes.expandWithin method (maxDepth - 1) [name] ⟨callee, groups⟩ = .ok commands := by
  let more : RecipeIndex := recipes.insert name wrapper
  have hget : more.get? name = some wrapper := by rw [OrderedMap.get?_insert, if_pos rfl]
  have hother (other : String) (hne : other ≠ name) : more.get? other = recipes.get? other := by
    rw [OrderedMap.get?_insert, if_neg hne]
  have hdown : more.expand method ⟨name, groups⟩ =
      more.expandWithin method (maxDepth - 1) [name] ⟨callee, groups⟩ :=
    expandWithin_of_forwards hget hw hlength (maxDepth - 1) []
  constructor
  · intro h
    have hrecursive : ¬ more.Recursive method name :=
      Fits.not_recursive (exists_expandWithin.mp ⟨commands, h⟩)
    have hunreached : ¬ more.Reaches method callee name := by
      simpa [Recursive, nested_of_forwards hget hw] using hrecursive
    rw [← (agreesFrom_of_unreached hother hunreached).expandWithin_eq, ← hdown, h]
  · intro h
    have hunreached : ¬ recipes.Reaches method callee name := by
      intro hr
      obtain ⟨recipe, hrecipe⟩ := (exists_expandWithin.mp ⟨commands, h⟩).exists_get? hr rfl
      simp [hnew] at hrecipe
    have hagree := agreesFrom_of_unreached (fun other hne => (hother other hne).symm) hunreached
    show more.expand method ⟨name, groups⟩ = .ok commands
    rw [hdown, ← hagree.expandWithin_eq, h]

/-- To call a recipe through a wrapper by a new name is to call it directly, whatever the arguments
hold, as long as there is room for one more call outside of all others. -/
theorem expand_wrapper {recipes : RecipeIndex} {method : Method} {wrapper : Recipe}
    {name callee : String} (hnew : recipes.get? name = none) (hw : wrapper.Forwards method callee)
    {groups : List (List String)} (hlength : groups.length = wrapper.parameters.length)
    (commands : List String) :
    expand (recipes.insert name wrapper) method ⟨name, groups⟩ = .ok commands ↔
      recipes.expand method ⟨callee, groups⟩ = .ok commands ∧
        ∀ chain, recipes.Chain method ⟨callee, groups⟩ chain → chain.length ≤ maxDepth - 1 := by
  rw [expand_insert_eq_ok_iff hnew hw hlength]
  exact expandWithin_eq_ok_iff (Nat.sub_le ..)

/-- A recipe with two parameters that calls another one. -/
def packing : RecipeIndex :=
  .ofList [("pack", ⟨"pack", ["box", "items"], .ofList [("setup",
      [.call ⟨"open", [["$((box))"]]⟩, .shell "put $((items)) in $((box))"])]⟩),
    ("open", ⟨"open", ["a"], .ofList [("setup", [.shell "open $((a))"])]⟩)]

/-- Hands its arguments on to the first recipe. -/
def packer : Recipe :=
  ⟨"packer", ["items", "a.b"], .ofList [("setup",
    [.call ⟨"pack", [["$((items))"], ["$((a.b))"]]⟩])]⟩

/-- Of the values one reads like references, and the other comes of no token. -/
theorem expand_packer :
    (packing.get? "packer" = none ∧ packer.Forwards .setup "pack" ∧
      [["$((a.b))", "$((items)) x"], []].length = packer.parameters.length) ∧
    (packing.expand .setup ⟨"pack", [["$((a.b))", "$((items)) x"], []]⟩ =
        .ok ["open $((a.b)) $((items)) x", "put  in $((a.b)) $((items)) x"] ∧
      ∀ chain, packing.Chain .setup ⟨"pack", [["$((a.b))", "$((items)) x"], []]⟩ chain →
        chain.length ≤ maxDepth - 1) ∧
    expand (packing.insert "packer" packer) .setup ⟨"packer", [["$((a.b))", "$((items)) x"], []]⟩ =
      .ok ["open $((a.b)) $((items)) x", "put  in $((a.b)) $((items)) x"] := by
  have hnew : packing.get? "packer" = none := by decide +kernel
  have hw : packer.Forwards .setup "pack" := ⟨by decide, by decide, by decide +kernel⟩
  have hlength : [["$((a.b))", "$((items)) x"], []].length = packer.parameters.length := rfl
  have hbelow : packing.expandWithin .setup (maxDepth - 1) []
      ⟨"pack", [["$((a.b))", "$((items)) x"], []]⟩ =
        .ok ["open $((a.b)) $((items)) x", "put  in $((a.b)) $((items)) x"] := by decide +kernel
  obtain ⟨hdirect, hchains⟩ := (expandWithin_eq_ok_iff (Nat.sub_le ..)).mp hbelow
  exact ⟨⟨hnew, hw, hlength⟩, ⟨hdirect, hchains⟩,
    (expand_wrapper hnew hw hlength _).mpr ⟨hdirect, hchains⟩⟩

end RecipeIndex

end Provision
