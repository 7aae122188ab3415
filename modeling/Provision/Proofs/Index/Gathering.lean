import Provision.Proofs.Index.Compaction
import Provision.Proofs.Index.Declared

namespace Provision

/-- The bodies of the methods of a name, in their order. -/
def bodiesUnder (key : String) (bodies : List MethodBody) : List (List Action) :=
  (bodies.filter (·.method.name = key)).map MethodBody.actions

namespace Item

/-- What an item says under a key. A recipe that is named right after a target stands under the key
of the shortcut. -/
def bodies (key : String) : Item → List (List Action)
  | .recipe _ _ bodies _ => bodiesUnder key bodies
  | .target _ bodies _ => bodiesUnder key bodies
  | .shortcut _ invocation _ => if Methods.shortcutName = key then [[.call invocation]] else []
  | .dependency .. => []

def targetBodies (target key : String) (i : Item) : List (List Action) :=
  if i.target? = some target then i.bodies key else []

/-- The name and the parameters of the recipe that an item defines. -/
def head? : Item → Option (String × List String)
  | .recipe name parameters _ _ => some (name, parameters)
  | .target .. => none
  | .shortcut .. => none
  | .dependency .. => none

def recipeBodies (name key : String) (i : Item) : List (List Action) :=
  if i.head?.map Prod.fst = some name then i.bodies key else []

end Item

namespace Document

/-- The bodies under a key of all declarations of a target, as they come in a document. -/
def targetBodies (d : Document) (target key : String) : List (List Action) :=
  d.flatMap (Item.targetBodies target key)

/-- The bodies under a key of all definitions of a recipe, as they come in a document. -/
def recipeBodies (d : Document) (name key : String) : List (List Action) :=
  d.flatMap (Item.recipeBodies name key)

/-- The name and the parameters of the last definition of a recipe. -/
def lastHead? (d : Document) (name : String) : Option (String × List String) :=
  ((d.filterMap Item.head?).filter (·.1 = name)).getLast?

end Document

/-- Puts bodies behind a list of actions. Where there is neither, there is no list. -/
def gather (old : Option (List Action)) (bodies : List (List Action)) : Option (List Action) :=
  bodies.foldl (fun old body => some (old.getD [] ++ body)) old

theorem gather_append (old : Option (List Action)) (a b : List (List Action)) :
    gather old (a ++ b) = gather (gather old a) b :=
  List.foldl_append

theorem gather_some (old : List Action) (bodies : List (List Action)) :
    gather (some old) bodies = some (old ++ bodies.flatten) := by
  induction bodies generalizing old with
  | nil => simp [gather]
  | cons body bodies ih =>
    have hstep : gather (some old) (body :: bodies) = gather (some (old ++ body)) bodies := rfl
    rw [hstep, ih, List.flatten_cons, List.append_assoc]

theorem gather_none (bodies : List (List Action)) :
    gather none bodies = if bodies = [] then none else some bodies.flatten := by
  cases bodies with
  | nil => rfl
  | cons body bodies => exact gather_some body bodies

/-- What each item puts behind a list, all items put behind it. -/
theorem gather_foldl {ι : Type} {step : ι → Item → ι} (view : ι → Option (List Action))
    {bodies : Item → List (List Action)}
    (hstep : ∀ index i, view (step index i) = gather (view index) (bodies i)) (index : ι)
    (d : Document) : view (d.foldl step index) = gather (view index) (d.flatMap bodies) := by
  induction d generalizing index with
  | nil => rfl
  | cons i d ih => rw [List.foldl_cons, ih, hstep, List.flatMap_cons, gather_append]

namespace Methods

theorem get?_getD (old : Option Methods) (key : String) :
    (old.getD ∅).get? key = old.bind (·.get? key) := by
  cases old <;> rfl

theorem get?_append (ms : Methods) (name key : String) (actions : List Action) :
    (ms.append name actions).get? key =
      gather (ms.get? key) (if name = key then [actions] else []) := by
  rw [append, OrderedMap.get?_alter]
  by_cases h : name = key
  · subst h
    simp [gather]
  · simp [gather, h, Ne.symm h]

theorem get?_addBodies (ms : Methods) (bodies : List MethodBody) (key : String) :
    (ms.addBodies bodies).get? key = gather (ms.get? key) (bodiesUnder key bodies) := by
  unfold addBodies
  induction bodies generalizing ms with
  | nil => rfl
  | cons b bodies ih =>
    have hbodies : bodiesUnder key (b :: bodies) =
        (if b.method.name = key then [b.actions] else []) ++ bodiesUnder key bodies := by
      by_cases h : b.method.name = key <;> simp [bodiesUnder, h]
    rw [List.foldl_cons, ih, get?_append, hbodies, gather_append]

end Methods

namespace TargetIndex

/-- The actions of a target under a key. -/
def actions? (index : TargetIndex) (target key : String) : Option (List Action) :=
  (index.get? target).bind (·.get? key)

theorem actions?_add (index : TargetIndex) (i : Item) (target key : String) :
    (index.add i).actions? target key =
      gather (index.actions? target key) (i.targetBodies target key) := by
  unfold actions? Item.targetBodies
  cases i with
  | recipe | dependency => rfl
  | target name bodies line =>
    by_cases h : name = target
    · subst h
      simp [add, OrderedMap.get?_alter, Item.target?, Item.bodies, Methods.get?_addBodies,
        Methods.get?_getD]
    · simp [add, OrderedMap.get?_alter, Item.target?, h, Ne.symm h, gather]
  | shortcut name invocation line =>
    by_cases h : name = target
    · subst h
      simp [add, OrderedMap.get?_alter, Item.target?, Item.bodies, Methods.get?_append,
        Methods.get?_getD]
    · simp [add, OrderedMap.get?_alter, Item.target?, h, Ne.symm h, gather]

theorem actions?_ofDocument (d : Document) (target key : String) :
    (ofDocument d).actions? target key =
      (gather none (d.targetBodies target key)).map compact := by
  have hfold : (d.foldl add ∅).actions? target key = gather none (d.targetBodies target key) :=
    gather_foldl (fun index : TargetIndex => index.actions? target key)
      (fun index i => actions?_add index i target key) ∅ d
  rw [← hfold]
  simp [actions?, ofDocument, OrderedMap.get?_map, Methods.compact, Option.map_bind,
    Option.bind_map, Function.comp_def]

end TargetIndex

namespace RecipeIndex

/-- The actions of a recipe under a key. -/
def actions? (index : RecipeIndex) (name key : String) : Option (List Action) :=
  (index.get? name).bind (·.methods.get? key)

/-- The name and the parameters of a recipe. -/
def head? (index : RecipeIndex) (name : String) : Option (String × List String) :=
  (index.get? name).map fun r => (r.name, r.parameters)

theorem actions?_add (index : RecipeIndex) (i : Item) (name key : String) :
    (index.add i).actions? name key =
      gather (index.actions? name key) (i.recipeBodies name key) := by
  unfold actions? Item.recipeBodies
  cases i with
  | target | shortcut | dependency => rfl
  | recipe own parameters bodies line =>
    by_cases h : own = name
    · subst h
      cases hold : index.get? own <;>
        simp [add, OrderedMap.get?_alter, Item.head?, Item.bodies, Methods.get?_addBodies, hold]
    · simp [add, OrderedMap.get?_alter, Item.head?, h, Ne.symm h, gather]

theorem actions?_ofDocument (d : Document) (name key : String) :
    (ofDocument d).actions? name key = (gather none (d.recipeBodies name key)).map compact := by
  have hfold : (d.foldl add ∅).actions? name key = gather none (d.recipeBodies name key) :=
    gather_foldl (fun index : RecipeIndex => index.actions? name key)
      (fun index i => actions?_add index i name key) ∅ d
  rw [← hfold]
  simp [actions?, ofDocument, OrderedMap.get?_map, Methods.compact, Option.map_bind,
    Option.bind_map]

/-- A definition takes the place of those before it, as far as the parameters go. -/
theorem head?_foldl_add (index : RecipeIndex) (d : Document) (name : String) :
    (d.foldl add index).head? name = (d.lastHead? name).or (index.head? name) := by
  induction d generalizing index with
  | nil => rfl
  | cons i d ih =>
    rw [List.foldl_cons, ih]
    cases i with
    | target | shortcut | dependency => rfl
    | recipe own parameters bodies line =>
      by_cases h : own = name
      · subst h
        simp [head?, add, OrderedMap.get?_alter, Document.lastHead?, Item.head?,
          List.getLast?_cons]
      · simp [head?, add, OrderedMap.get?_alter, Document.lastHead?, Item.head?, h, Ne.symm h]

theorem head?_ofDocument (d : Document) (name : String) :
    (ofDocument d).head? name = d.lastHead? name := by
  have hfold : (d.foldl add ∅).head? name = d.lastHead? name := by
    rw [head?_foldl_add]
    exact Option.or_none
  rw [← hfold]
  simp [head?, ofDocument, OrderedMap.get?_map, Function.comp_def]

end RecipeIndex

/-- How the actions under a key come of the bodies under it: there are some just if there is a body,
and they are what the bodies say one after the other. -/
structure Gathers (bodies : List (List Action)) (actions? : Option (List Action)) : Prop where
  isSome : actions?.isSome ↔ bodies ≠ []
  compacts : ∀ actions, actions? = some actions → Compacts bodies.flatten actions

theorem gathers_compact {bodies : List (List Action)} (h : ∀ a ∈ bodies.flatten, a.IsLine) :
    Gathers bodies ((gather none bodies).map compact) := by
  rw [gather_none]
  by_cases hne : bodies = []
  · simpa [hne] using ⟨by simp, by simp⟩
  · rw [if_neg hne]
    refine ⟨by simp [hne], fun actions hactions => ?_⟩
    obtain rfl : compact bodies.flatten = actions := by simpa using hactions
    exact compacts_compact h

theorem isLine_of_mem_bodies {i : Item} (h : ∀ a ∈ i.actions, a.IsLine) {key : String} {a : Action}
    (ha : a ∈ (i.bodies key).flatten) : a.IsLine := by
  have hunder {bodies : List MethodBody} (h : ∀ a ∈ bodies.flatMap MethodBody.actions, a.IsLine)
      (ha : a ∈ (bodiesUnder key bodies).flatten) : a.IsLine := by
    obtain ⟨_, hbody, ha⟩ := List.mem_flatten.mp ha
    obtain ⟨b, hb, rfl⟩ := List.mem_map.mp hbody
    exact h a (List.mem_flatMap.mpr ⟨b, (List.mem_filter.mp hb).1, ha⟩)
  cases i with
  | recipe name parameters bodies line => exact hunder h ha
  | target name bodies line => exact hunder h ha
  | shortcut name invocation line =>
    rw [Item.bodies] at ha
    split at ha
    · obtain rfl : a = .call invocation := by simpa using ha
      exact trivial
    · simp at ha
  | dependency relation line => simp [Item.bodies] at ha

theorem isLine_of_mem_flatMap {d : Document} (h : ∀ a ∈ d.flatMap Item.actions, a.IsLine)
    (key : String) {bodies : Item → List (List Action)} (hbodies : ∀ i, bodies i ⊆ i.bodies key) :
    ∀ a ∈ (d.flatMap bodies).flatten, a.IsLine := by
  intro a ha
  obtain ⟨body, hbody, ha⟩ := List.mem_flatten.mp ha
  obtain ⟨i, hi, hbody⟩ := List.mem_flatMap.mp hbody
  have hitem : ∀ a ∈ i.actions, a.IsLine := fun a ha => h a (List.mem_flatMap.mpr ⟨i, hi, ha⟩)
  exact isLine_of_mem_bodies hitem (List.mem_flatten.mpr ⟨body, hbodies i hbody, ha⟩)

/-- The indices of a document hold what its declarations say, in the order of the document: nothing
is lost, said twice or moved. The last definition of a recipe names its parameters. -/
theorem gathers_of_parse {text : String} {d : Document} (h : Document.parse text = .ok d) :
    (∀ target key, Gathers (d.targetBodies target key)
      ((TargetIndex.ofDocument d).actions? target key)) ∧
    (∀ name key, Gathers (d.recipeBodies name key)
      ((RecipeIndex.ofDocument d).actions? name key)) ∧
    ∀ name, (RecipeIndex.ofDocument d).head? name = d.lastHead? name := by
  have hlines := Document.isLine_of_parse h
  refine ⟨fun target key => ?_, fun name key => ?_, RecipeIndex.head?_ofDocument d⟩
  · rw [TargetIndex.actions?_ofDocument]
    refine gathers_compact (isLine_of_mem_flatMap hlines key fun i => ?_)
    unfold Item.targetBodies
    split <;> simp
  · rw [RecipeIndex.actions?_ofDocument]
    refine gathers_compact (isLine_of_mem_flatMap hlines key fun i => ?_)
    unfold Item.recipeBodies
    split <;> simp

/-- A lamp and a recipe in several parts, with other things between them. -/
def scatteredText : String :=
  "recipe fit(bulb):\n  setup: one\nlamp:\n  setup:\n    two\n    apt(oil)\n    three\n" ++
  "lamp: fit(a, b)\nrecipe fit(bulb, shade):\n  setup: four\nlamp:\n  setup: five\n"

def scattered : Document :=
  [.recipe "fit" ["bulb"] [⟨.setup, [.shell "one"], 2⟩] 1,
   .target "lamp" [⟨.setup, [.shell "two", .call ⟨"apt", [["oil"]]⟩, .shell "three"], 4⟩] 3,
   .shortcut "lamp" ⟨"fit", [["a"], ["b"]]⟩ 8,
   .recipe "fit" ["bulb", "shade"] [⟨.setup, [.shell "four"], 10⟩] 9,
   .target "lamp" [⟨.setup, [.shell "five"], 12⟩] 11]

theorem gathers_scattered :
    Document.parse scatteredText = .ok scattered ∧
    (TargetIndex.ofDocument scattered).actions? "lamp" "setup" =
      some [.shell "two", .call ⟨"apt", [["oil"]]⟩, .shell "three\nfive"] ∧
    (∀ target key, Gathers (scattered.targetBodies target key)
      ((TargetIndex.ofDocument scattered).actions? target key)) ∧
    (∀ name key, Gathers (scattered.recipeBodies name key)
      ((RecipeIndex.ofDocument scattered).actions? name key)) ∧
    ∀ name, (RecipeIndex.ofDocument scattered).head? name = scattered.lastHead? name := by
  have hparse : Document.parse scatteredText = .ok scattered := by decide +kernel
  exact ⟨hparse, by decide +kernel, gathers_of_parse hparse⟩

end Provision
