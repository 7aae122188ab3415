import Provision.Action

namespace Provision

/-- `A -> B` says that `A` depends on `B`, and `A <- B` that `B` depends on `A`. -/
inductive Arrow
  | dependsOn
  | dependedUpon
  deriving DecidableEq, Repr

def Arrow.symbol : Arrow → String
  | .dependsOn => "->"
  | .dependedUpon => "<-"

def Arrow.flip : Arrow → Arrow
  | .dependsOn => .dependedUpon
  | .dependedUpon => .dependsOn

/-- What a document says of one method of a target or a recipe, and the line that begins it. -/
structure MethodBody where
  method : Method
  actions : List Action
  line : Nat
  deriving DecidableEq, Repr

/-- Relates a target to others by an arrow. -/
structure Relation where
  subject : String
  arrow : Arrow
  others : List String
  deriving DecidableEq, Repr

namespace Relation

/-- The pairs of a dependency and its dependent that a relation expresses. -/
def pairs (r : Relation) : List (String × String) :=
  match r.arrow with
  | .dependsOn => r.others.map (·, r.subject)
  | .dependedUpon => r.others.map (r.subject, ·)

/-- The names in a relation, from left to right. -/
def names (r : Relation) : List String := r.subject :: r.others

/-- The same pairs, one by one and seen from the other side. -/
def turned (r : Relation) : List Relation :=
  r.others.map fun other => ⟨other, r.arrow.flip, [r.subject]⟩

end Relation

/-- A declaration, with the line that begins it. -/
inductive Item
  | recipe (name : String) (parameters : List String) (methods : List MethodBody) (line : Nat)
  | target (name : String) (methods : List MethodBody) (line : Nat)
  | shortcut (name : String) (invocation : Invocation) (line : Nat)
  | dependency (relation : Relation) (line : Nat)
  deriving DecidableEq, Repr

def Item.line : Item → Nat
  | .recipe _ _ _ line => line
  | .target _ _ line => line
  | .shortcut _ _ line => line
  | .dependency _ line => line

def Item.methods : Item → List MethodBody
  | .recipe _ _ methods _ => methods
  | .target _ methods _ => methods
  | .shortcut .. => []
  | .dependency .. => []

/-- The name of the target that an item declares. -/
def Item.target? : Item → Option String
  | .target name _ _ => some name
  | .shortcut name _ _ => some name
  | .recipe .. => none
  | .dependency .. => none

def Item.relation? : Item → Option Relation
  | .dependency relation _ => some relation
  | .recipe .. => none
  | .target .. => none
  | .shortcut .. => none

/-- The same body, so many lines further down. -/
def MethodBody.shift (n : Nat) (b : MethodBody) : MethodBody :=
  { b with line := b.line + n }

/-- The same item, so many lines further down. -/
def Item.shift (n : Nat) : Item → Item
  | .recipe name parameters methods line =>
    .recipe name parameters (methods.map (MethodBody.shift n)) (line + n)
  | .target name methods line => .target name (methods.map (MethodBody.shift n)) (line + n)
  | .shortcut name invocation line => .shortcut name invocation (line + n)
  | .dependency relation line => .dependency relation (line + n)

/-- The declarations of a document, in the order of their lines. -/
abbrev Document := List Item

end Provision
