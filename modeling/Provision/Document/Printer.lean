import Provision.Document.Basic

namespace Provision

/-- A call on one line: spaces part the tokens of a group, and commas the groups. -/
def Invocation.render (call : Invocation) : String :=
  call.name ++ "(" ++ ",".intercalate call.values ++ ")"

def Action.render : Action → String
  | .shell script => script
  | .call invocation => invocation.render

/-- A method with its actions on the lines below its header. -/
def MethodBody.render (b : MethodBody) : List String :=
  ("  " ++ b.method.name ++ ":") :: b.actions.map fun a => "    " ++ a.render

def Relation.render (r : Relation) : String :=
  r.subject ++ r.arrow.symbol ++ " ".intercalate r.others

/-- The lines of an item. -/
def Item.render : Item → List String
  | .recipe name parameters methods _ =>
    ("recipe " ++ name ++ "(" ++ " ".intercalate parameters ++ "):") ::
      methods.flatMap MethodBody.render
  | .target name methods _ => (name ++ ":") :: methods.flatMap MethodBody.render
  | .shortcut name invocation _ => [name ++ ": " ++ invocation.render]
  | .dependency relation _ => [relation.render]

namespace Document

/-- Bodies one below the other from a line on. -/
def placeBodies (line : Nat) : List MethodBody → List MethodBody
  | [] => []
  | b :: bs => { b with line } :: placeBodies (line + b.render.length) bs

/-- An item that begins at a line, with its methods below it. -/
def placeItem (line : Nat) : Item → Item
  | .recipe name parameters methods _ =>
    .recipe name parameters (placeBodies (line + 1) methods) line
  | .target name methods _ => .target name (placeBodies (line + 1) methods) line
  | .shortcut name invocation _ => .shortcut name invocation line
  | .dependency relation _ => .dependency relation line

/-- A document at the lines that it has when it is written from a line on. -/
def place (line : Nat) : Document → Document
  | [] => []
  | i :: d => placeItem line i :: place (line + i.render.length) d

/-- The text of a document. -/
def render (d : Document) : String :=
  String.join ((d.flatMap Item.render).map (· ++ "\n"))

end Document

end Provision
