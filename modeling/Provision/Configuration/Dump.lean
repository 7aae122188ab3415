import Provision.Configuration.Basic
import Provision.Yaml.Node

namespace Provision

open Yaml (Node)

namespace Dump

def strings (ss : List String) : Node := .sequence (ss.map .scalar)

def invocation (call : Invocation) : Node :=
  .mapping [("name", .scalar call.name), ("args", .sequence (call.groups.map strings))]

def action : Action → Node
  | .shell script => .tagged "shell" (.scalar script)
  | .call call => .tagged "recipe" (invocation call)

def ofMap {α : Type} (f : α → Node) (m : OrderedMap String α) : Node :=
  .mapping (m.entries.map fun (k, v) => (k, f v))

def methods (ms : Methods) : Node :=
  ofMap (fun actions => .sequence (actions.map action)) ms

def recipe (r : Recipe) : Node :=
  .mapping [("name", .scalar r.name), ("parameters", strings r.parameters),
    ("defs", methods r.methods)]

end Dump

/-- A view of the targets, the dependencies and the recipes. -/
def Configuration.dump (c : Configuration) : Node :=
  .mapping [("executables", Dump.ofMap Dump.methods c.targets),
    ("dependencies", Dump.ofMap Dump.strings c.dependencies),
    ("recipes", Dump.ofMap Dump.recipe c.recipes)]

end Provision
