import Provision.Index.Basic

namespace Provision

/-- A template for the methods of targets. -/
structure Recipe where
  name : String
  parameters : List String
  methods : Methods

/-- The recipes by the names under which they are called. -/
abbrev RecipeIndex := OrderedMap String Recipe

namespace RecipeIndex

/-- Repeated definitions of a recipe add to its methods, and the last one names its parameters. -/
def add (index : RecipeIndex) : Item → RecipeIndex
  | .recipe name parameters bodies _ =>
    index.alter name fun old =>
      ⟨name, parameters, ((old.map Recipe.methods).getD ∅).addBodies bodies⟩
  | .target .. => index
  | .shortcut .. => index
  | .dependency .. => index

def ofDocument (d : Document) : RecipeIndex :=
  (d.foldl add ∅).map fun r => { r with methods := r.methods.compact }

/-- The calls in a method of the recipe of a name. -/
def nested (recipes : RecipeIndex) (method : Method) (name : String) : List Invocation :=
  match recipes.get? name with
  | none => []
  | some recipe => ((recipe.methods.get? method.name).getD []).filterMap Action.invocation?

/-- A call that fits a recipe with the method. -/
def Accepts (recipes : RecipeIndex) (method : Method) (call : Invocation) : Prop :=
  ∃ recipe, recipes.get? call.name = some recipe ∧
    call.groups.length = recipe.parameters.length ∧
    (recipe.methods.get? method.name).isSome

/-- Calls one inside the other, from an outermost one on. -/
inductive Chain (recipes : RecipeIndex) (method : Method) : Invocation → List Invocation → Prop
  | single (call : Invocation) : Chain recipes method call [call]
  | cons {outer inner : Invocation} {chain : List Invocation} :
    inner ∈ recipes.nested method outer.name → Chain recipes method inner chain →
    Chain recipes method outer (outer :: chain)

/-- The names at which the chains of calls from a name on arrive. -/
inductive Reaches (recipes : RecipeIndex) (method : Method) : String → String → Prop
  | refl (name : String) : Reaches recipes method name name
  | step {a c : String} {call : Invocation} : call ∈ recipes.nested method a →
    Reaches recipes method call.name c → Reaches recipes method a c

end RecipeIndex

end Provision
