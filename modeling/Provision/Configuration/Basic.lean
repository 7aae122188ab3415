import Provision.Configuration.Validation
import Provision.Files.Content
import Provision.Recipe.Standard

namespace Provision

/-- All that is needed to check and to install the targets of a document. -/
structure Configuration where
  targets : TargetIndex
  dependencies : DependencyIndex
  recipes : RecipeIndex
  graph : Graph

namespace Configuration

/-- The configuration that a document describes. Its recipes take the place of standard ones. -/
def ofDocument (d : Document) : Configuration :=
  let dependencies := DependencyIndex.ofDocument d
  { targets := TargetIndex.ofDocument d
    dependencies
    recipes := Standard.recipes.overlay (RecipeIndex.ofDocument d)
    graph := Graph.ofIndex dependencies }

/-- Reads a configuration and makes sure that it can be used. -/
def load (source text : String) : Except ConfigurationError Configuration :=
  match Document.parse text with
  | .error e => .error (.parse source e)
  | .ok d =>
    let c := ofDocument d
    match Validation.validate c.targets c.recipes c.graph with
    | .error e => .error e
    | .ok () => .ok c

/-- Reads a configuration from a file. -/
def loadFile (files : Files.Tree) (path : String) : Except ConfigurationError Configuration :=
  match files.readText path with
  | .error e => .error (.unreadable path e.message)
  | .ok text => load path text

end Configuration

end Provision
