namespace Provision

/-- The two things that are done with a target: put it in place, and find out whether it is. -/
inductive Method
  | setup
  | isSetup
  deriving DecidableEq, Repr

/-- The name under which a method is declared. -/
def Method.name : Method → String
  | .setup => "setup"
  | .isSetup => "is_setup"

def Method.ofName? (name : String) : Option Method :=
  if name = "setup" then some .setup
  else if name = "is_setup" then some .isSetup
  else none

@[simp] theorem Method.ofName?_name (m : Method) : Method.ofName? m.name = some m := by
  cases m <;> decide

theorem Method.ofName?_eq_some_iff {name : String} {m : Method} :
    Method.ofName? name = some m ↔ name = m.name := by
  constructor
  · unfold Method.ofName?
    split
    · rintro ⟨⟩; assumption
    · split
      · rintro ⟨⟩; assumption
      · simp
  · rintro rfl; simp

/-- A call of a recipe. Each group holds the tokens of one argument. -/
structure Invocation where
  name : String
  groups : List (List String)
  deriving DecidableEq, Repr

/-- The value of an argument is its tokens with one space between them. -/
def Invocation.values (call : Invocation) : List String :=
  call.groups.map (String.intercalate " ")

@[simp] theorem Invocation.length_values (call : Invocation) :
    call.values.length = call.groups.length := by
  simp [Invocation.values]

/-- One entry of a method: a script for the shell, or a call of a recipe. -/
inductive Action
  | shell (script : String)
  | call (invocation : Invocation)
  deriving DecidableEq, Repr

def Action.invocation? : Action → Option Invocation
  | .shell _ => none
  | .call invocation => some invocation

end Provision
