import Provision.Document.Problem
import Provision.Graph.Basic
import Provision.Graph.Traversal
import Provision.Index.Basic
import Provision.Recipe.Expansion

namespace Provision

/-- How a method of a target falls short. -/
inductive Gap
  | missing
  | empty
  deriving DecidableEq, Repr

def Gap.name : Gap → String
  | .missing => "missing"
  | .empty => "empty"

/-- Why a configuration cannot be used. -/
inductive ConfigurationError
  | parse (source : String) (error : ParseError)
  | missingDefinition (target : String)
  | incompleteDefinition (target : String) (method : Method) (gap : Gap)
  | cycle (path : List String)
  | unknownRecipe (target recipe : String)
  | arity (target recipe : String) (expected actual : Nat)
  | expansion (target : String) (method : Method) (error : ExpandError)
  | unreadable (path reason : String)
  deriving DecidableEq, Repr

def ConfigurationError.message : ConfigurationError → String
  | .parse source error => "parse error: " ++ error.message source
  | .missingDefinition target =>
    "missing definition for target '" ++ target ++ "', don't know how to install"
  | .incompleteDefinition target method gap =>
    "incomplete definition for target '" ++ target ++ "': " ++ method.name ++ " is " ++ gap.name
  | .cycle path => "cycle detected in dependency graph: " ++ String.intercalate " -> " path
  | .unknownRecipe target recipe =>
    "recipe '" ++ recipe ++ "' invoked by target '" ++ target ++ "' does not exist"
  | .arity target recipe expected actual =>
    "recipe '" ++ recipe ++ "' invoked by target '" ++ target ++ "' has " ++ toString expected ++
      " args but was invoked with " ++ toString actual ++ " args"
  | .expansion target method error =>
    "cannot expand " ++ method.name ++ " for target '" ++ target ++ "': " ++ error.message
  | .unreadable path reason => "cannot read " ++ path ++ ": " ++ reason

namespace Validation

/-- Whether a method, or the shortcut, has an action. -/
def isGiven (ms : Methods) (name : String) : Bool :=
  match ms.get? name with
  | some actions => !actions.isEmpty
  | none => false

/-- The way in which a method is not given. -/
def gap? (ms : Methods) (m : Method) : Option Gap :=
  if isGiven ms m.name then none
  else if ms.contains m.name then some .empty
  else some .missing

/-- A target needs a shortcut, or both methods. -/
def definitionError? (targets : TargetIndex) (target : String) : Option ConfigurationError :=
  match targets.get? target with
  | none => some (.missingDefinition target)
  | some ms =>
    if isGiven ms Methods.shortcutName then none
    else [Method.setup, Method.isSetup].findSome? fun m =>
      (gap? ms m).map (ConfigurationError.incompleteDefinition target m)

def recipeError? (recipes : RecipeIndex) (target : String) (call : Invocation) :
    Option ConfigurationError :=
  if recipes.contains call.name then none else some (.unknownRecipe target call.name)

def arityError? (recipes : RecipeIndex) (target : String) (call : Invocation) :
    Option ConfigurationError :=
  match recipes.get? call.name with
  | none => none
  | some recipe =>
    if call.groups.length = recipe.parameters.length then none
    else some (.arity target call.name recipe.parameters.length call.groups.length)

/-- The first call in the targets of which a check complains. -/
def callError? (check? : String → Invocation → Option ConfigurationError)
    (targets : TargetIndex) : Option ConfigurationError :=
  targets.entries.findSome? fun (target, ms) => ms.invocations.findSome? (check? target)

def expansionError? (recipes : RecipeIndex) (targets : TargetIndex) : Option ConfigurationError :=
  targets.entries.findSome? fun (target, ms) =>
    [Method.setup, Method.isSetup].findSome? fun m =>
      match recipes.commands ms m with
      | .error e => some (.expansion target m e)
      | .ok _ => none

/-- The first thing that is wrong: a definition on the way of an installation, a cycle, a call of an
unknown recipe, a wrong number of arguments, or an expansion that fails. -/
def error? (targets : TargetIndex) (recipes : RecipeIndex) (graph : Graph) :
    Option ConfigurationError :=
  graph.installOrder.findSome? (definitionError? targets)
  |>.or (graph.findCycle.map .cycle)
  |>.or (callError? (recipeError? recipes) targets)
  |>.or (callError? (arityError? recipes) targets)
  |>.or (expansionError? recipes targets)

def validate (targets : TargetIndex) (recipes : RecipeIndex) (graph : Graph) :
    Except ConfigurationError Unit :=
  match error? targets recipes graph with
  | some e => .error e
  | none => .ok ()

end Validation

end Provision
