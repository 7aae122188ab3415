import Mathlib.Data.List.OfFn
import Provision.Proofs.Recipe.Expansion

namespace Provision

/-- A character of a text, or the place of one of `k` arguments. -/
inductive Part (k : Nat)
  | literal (c : Char)
  | hole (i : Fin k)
  deriving DecidableEq, Repr

/-- A text in which the places of the arguments are left open. -/
abbrev Shape (k : Nat) := List (Part k)

variable {k : Nat}

def Part.fill (values : Fin k → String) : Part k → List Char
  | .literal c => [c]
  | .hole i => (values i).toList

namespace Shape

/-- The text that comes of it when each place takes its value. -/
def fill (values : Fin k → String) (shape : Shape k) : String :=
  String.ofList (shape.flatMap (Part.fill values))

@[simp] theorem toList_fill (values : Fin k → String) (shape : Shape k) :
    (fill values shape).toList = shape.flatMap (Part.fill values) := by
  simp [fill]

/-- The tokens of an argument with a space between each two. -/
def join (tokens : List (Shape k)) : Shape k := [.literal ' '].intercalate tokens

/-- What a parameter stands for, or its reference as it is spelled. -/
def ofPiece (value? : String → Option (Shape k)) : Template.Piece → Shape k
  | .literal c => [.literal c]
  | .reference spelling name => (value? (String.ofList name)).getD (spelling.map .literal)

/-- Puts shapes in the places of parameters. -/
def substitute (parameters : List String) (values : List (Shape k)) (text : String) : Shape k :=
  (Template.pieces text.toList).flatMap (ofPiece ((parameters.zip values).lookup ·))

end Shape

/-- A call whose tokens are shapes. -/
structure OpenCall (k : Nat) where
  name : String
  groups : List (List (Shape k))

namespace OpenCall

def close (values : Fin k → String) (call : OpenCall k) : Invocation :=
  ⟨call.name, call.groups.map (·.map (Shape.fill values))⟩

@[simp] theorem name_close (values : Fin k → String) (call : OpenCall k) :
    (call.close values).name = call.name := rfl

def values (call : OpenCall k) : List (Shape k) := call.groups.map Shape.join

/-- A call inside a recipe, where the parameters of the recipe stand for shapes. -/
def forward (parameters : List String) (shapes : List (Shape k)) (call : Invocation) :
    OpenCall k :=
  ⟨call.name, call.groups.map (·.map (Shape.substitute parameters shapes))⟩

end OpenCall

/-- A result that is the same error for all values, or the same shapes filled with them. -/
def Uniform (result : (Fin k → String) → Except ExpandError (List String)) : Prop :=
  (∃ e, ∀ values, result values = .error e) ∨
    ∃ templates : List (Shape k), ∀ values, result values = .ok (templates.map (Shape.fill values))

namespace Uniform

theorem error (e : ExpandError) : Uniform (k := k) fun _ => .error e := .inl ⟨e, fun _ => rfl⟩

theorem collect {α : Type} {f : (Fin k → String) → α → Except ExpandError (List String)}
    {xs : List α} (h : ∀ x ∈ xs, Uniform fun values => f values x) :
    Uniform fun values => Provision.collect (f values) xs := by
  induction xs with
  | nil => exact .inr ⟨[], fun _ => rfl⟩
  | cons x xs ih =>
    rcases h x (by simp) with ⟨e, he⟩ | ⟨first, hfirst⟩
    · exact .inl ⟨e, fun values => by simp [Provision.collect, he]⟩
    · rcases ih fun y hy => h y (List.mem_cons_of_mem _ hy) with ⟨e, he⟩ | ⟨rest, hrest⟩
      · exact .inl ⟨e, fun values => by simp [Provision.collect, hfirst, he]⟩
      · exact .inr ⟨first ++ rest, fun values => by simp [Provision.collect, hfirst, hrest]⟩

end Uniform

namespace RecipeIndex

end RecipeIndex

end Provision
