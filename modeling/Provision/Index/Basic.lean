import Provision.Action
import Provision.Document.Basic
import Provision.OrderedMap
import Provision.Text.Blank

namespace Provision

/-- The dependencies of each target. -/
abbrev DependencyIndex := OrderedMap String (List String)

namespace DependencyIndex

/-- Gives a name an entry. -/
def mention (index : DependencyIndex) (name : String) : DependencyIndex :=
  index.alter name fun old => old.getD []

/-- Puts a dependency at the end of the list of a target, unless the list holds it. -/
def require (index : DependencyIndex) (target dependency : String) : DependencyIndex :=
  index.alter target fun old =>
    let dependencies := old.getD []
    if dependency ∈ dependencies then dependencies else dependencies ++ [dependency]

def relate (index : DependencyIndex) (r : Relation) : DependencyIndex :=
  match r.arrow with
  | .dependsOn => r.others.foldl mention (r.others.foldl (·.require r.subject ·) index)
  | .dependedUpon => r.others.foldl (·.require · r.subject) (index.mention r.subject)

/-- The declared names come first, then the others as the relations mention them. -/
def normalize (declared : List String) (relations : List Relation) : DependencyIndex :=
  relations.foldl relate (declared.foldl mention ∅)

def ofDocument (d : Document) : DependencyIndex :=
  normalize (d.filterMap Item.target?) (d.filterMap Item.relation?)

end DependencyIndex

/-- Joins each run of scripts to one script with a line for each; calls stay as they are. -/
def compact : List Action → List Action
  | [] => []
  | .call invocation :: rest => .call invocation :: compact rest
  | .shell script :: rest =>
    match compact rest with
    | .shell next :: more => .shell (Text.trimmed script ++ "\n" ++ next) :: more
    | compacted => .shell (Text.trimmed script) :: compacted


/-- The actions of each method, by the name of the method. Of a target, the name `recipe` stands
for each method that is not declared. -/
abbrev Methods := OrderedMap String (List Action)

namespace Methods

def shortcutName : String := "recipe"

/-- Appends actions to a method. -/
def append (ms : Methods) (name : String) (actions : List Action) : Methods :=
  ms.alter name fun old => old.getD [] ++ actions

def addBodies (ms : Methods) (bodies : List MethodBody) : Methods :=
  bodies.foldl (fun ms b => ms.append b.method.name b.actions) ms

def compact (ms : Methods) : Methods := ms.map Provision.compact

/-- What a target does for a method: the actions of the method, or those of the shortcut. -/
def actions? (ms : Methods) (m : Method) : Option (List Action) :=
  (ms.get? m.name).or (ms.get? shortcutName)

/-- The calls under every name. -/
def invocations (ms : Methods) : List Invocation :=
  ms.values.flatMap fun actions => actions.filterMap Action.invocation?

end Methods

/-- The methods of each declared target. -/
abbrev TargetIndex := OrderedMap String Methods

namespace TargetIndex

/-- Repeated declarations of a target add to its methods. -/
def add (index : TargetIndex) : Item → TargetIndex
  | .target name bodies _ => index.alter name fun old => (old.getD ∅).addBodies bodies
  | .shortcut name invocation _ =>
    index.alter name fun old => (old.getD ∅).append Methods.shortcutName [.call invocation]
  | .recipe .. => index
  | .dependency .. => index

def ofDocument (d : Document) : TargetIndex :=
  (d.foldl add ∅).map Methods.compact

end TargetIndex

end Provision
