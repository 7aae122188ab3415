import Provision.Recipe.Basic
import Provision.Recipe.Template

namespace Provision

/-- Why a call of a recipe has no commands. -/
inductive ExpandError
  | unknownRecipe (recipe : String)
  | missingMethod (recipe : String) (method : Method)
  | arity (recipe : String) (expected actual : Nat)
  | tooDeep (chain : List String)
  deriving DecidableEq, Repr

/-- So many calls may stand inside one another. -/
def maxDepth : Nat := 64

def ExpandError.message : ExpandError → String
  | .unknownRecipe recipe => "recipe '" ++ recipe ++ "' does not exist"
  | .missingMethod recipe method => "recipe '" ++ recipe ++ "' has no " ++ method.name ++ " method"
  | .arity recipe expected actual =>
    "recipe '" ++ recipe ++ "' expects " ++ toString expected ++ " args but was invoked with " ++
      toString actual
  | .tooDeep chain =>
    "recipe expansion exceeded depth " ++ toString maxDepth ++ ": " ++
      String.intercalate " -> " chain

/-- Joins the lists that `f` gives for the entries, up to the first error. -/
def collect {ε α β : Type} (f : α → Except ε (List β)) : List α → Except ε (List β)
  | [] => .ok []
  | x :: xs =>
    match f x with
    | .error e => .error e
    | .ok ys =>
      match collect f xs with
      | .error e => .error e
      | .ok zs => .ok (ys ++ zs)

/-- A call inside a recipe, with the values of the caller's parameters in its tokens. -/
def Invocation.forward (parameters values : List String) (call : Invocation) : Invocation :=
  { call with groups := call.groups.map (·.map (Template.substitute parameters values)) }

namespace RecipeIndex

/-- The commands of a call that stands inside the calls of `chain`, where `room` more calls fit. -/
def expandWithin (recipes : RecipeIndex) (method : Method) :
    (room : Nat) → (chain : List String) → Invocation → Except ExpandError (List String)
  | 0, chain, call => .error (.tooDeep (chain ++ [call.name]))
  | room + 1, chain, call =>
    match recipes.get? call.name with
    | none => .error (.unknownRecipe call.name)
    | some recipe =>
      if call.groups.length ≠ recipe.parameters.length then
        .error (.arity recipe.name recipe.parameters.length call.groups.length)
      else
        match recipe.methods.get? method.name with
        | none => .error (.missingMethod recipe.name method)
        | some actions =>
          collect (fun
            | .shell script =>
              .ok [Template.substitute recipe.parameters call.values script]
            | .call nested =>
              recipes.expandWithin method room (chain ++ [call.name])
                (nested.forward recipe.parameters call.values)) actions

/-- The commands of a call. -/
def expand (recipes : RecipeIndex) (method : Method) (call : Invocation) :
    Except ExpandError (List String) :=
  recipes.expandWithin method maxDepth [] call

/-- The commands of a target's actions, whose scripts are taken as they are. -/
def expandActions (recipes : RecipeIndex) (method : Method) (actions : List Action) :
    Except ExpandError (List String) :=
  collect (fun
    | .shell script => .ok [script]
    | .call invocation => recipes.expand method invocation) actions

/-- The commands of a target for a method, none if the target says nothing of it. -/
def commands (recipes : RecipeIndex) (target : Methods) (method : Method) :
    Except ExpandError (List String) :=
  match target.actions? method with
  | some actions => recipes.expandActions method actions
  | none => .ok []

end RecipeIndex

end Provision
