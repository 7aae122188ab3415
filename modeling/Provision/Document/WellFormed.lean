import Provision.Document.Basic
import Provision.Text.Blank

namespace Provision

/-- A name of a target, a recipe or a parameter. -/
def IsName (s : String) : Prop := Text.isName s.toList

/-- A token of an argument. -/
def IsToken (s : String) : Prop := s ≠ "" ∧ ∀ c ∈ s.toList, ¬ Text.isBlank c ∧ c ≠ ','

/-- An empty group stands beside others or not at all. -/
structure Invocation.WellFormed (call : Invocation) : Prop where
  name : IsName call.name
  tokens : ∀ group ∈ call.groups, ∀ token ∈ group, IsToken token
  groups_ne : call.groups ≠ [[]]

/-- A line that a block can hold. -/
structure IsScriptLine (s : String) : Prop where
  ne_empty : s ≠ ""
  trimmed : Text.trimmed s = s
  no_break : '\n' ∉ s.toList
  no_comment : s.toList.head? ≠ some '#'

def Action.WellFormed : Action → Prop
  | .shell script => IsScriptLine script
  | .call invocation => invocation.WellFormed

def MethodBody.WellFormed (b : MethodBody) : Prop := ∀ a ∈ b.actions, a.WellFormed

structure Relation.WellFormed (r : Relation) : Prop where
  subject : IsName r.subject
  others : ∀ name ∈ r.others, IsName name
  others_ne : r.others ≠ []

def Item.WellFormed : Item → Prop
  | .recipe name parameters methods _ =>
    IsName name ∧ (∀ p ∈ parameters, IsName p) ∧ methods ≠ [] ∧ ∀ b ∈ methods, b.WellFormed
  | .target name methods _ => IsName name ∧ methods ≠ [] ∧ ∀ b ∈ methods, b.WellFormed
  | .shortcut name invocation _ => IsName name ∧ invocation.WellFormed
  | .dependency relation _ => relation.WellFormed

instance (s : String) : Decidable (IsName s) := inferInstanceAs (Decidable (Text.isName s.toList))

instance (s : String) : Decidable (IsToken s) :=
  decidable_of_iff (s ≠ "" ∧ s.toList.all fun c => !Text.isBlank c && c != ',')
    (by simp [IsToken])

instance (call : Invocation) : Decidable call.WellFormed :=
  decidable_of_iff
    (IsName call.name ∧ (∀ group ∈ call.groups, ∀ token ∈ group, IsToken token) ∧
      call.groups ≠ [[]])
    ⟨fun ⟨name, tokens, hne⟩ => ⟨name, tokens, hne⟩, fun h => ⟨h.name, h.tokens, h.groups_ne⟩⟩

instance (s : String) : Decidable (IsScriptLine s) :=
  decidable_of_iff
    (s ≠ "" ∧ Text.trimmed s = s ∧ '\n' ∉ s.toList ∧ s.toList.head? ≠ some '#')
    ⟨fun ⟨hne, htrim, hbreak, hash⟩ => ⟨hne, htrim, hbreak, hash⟩,
      fun h => ⟨h.ne_empty, h.trimmed, h.no_break, h.no_comment⟩⟩

instance : (a : Action) → Decidable a.WellFormed
  | .shell script => inferInstanceAs (Decidable (IsScriptLine script))
  | .call invocation => inferInstanceAs (Decidable invocation.WellFormed)

instance (b : MethodBody) : Decidable b.WellFormed :=
  inferInstanceAs (Decidable (∀ a ∈ b.actions, a.WellFormed))

instance (r : Relation) : Decidable r.WellFormed :=
  decidable_of_iff (IsName r.subject ∧ (∀ name ∈ r.others, IsName name) ∧ r.others ≠ [])
    ⟨fun ⟨subject, others, hne⟩ => ⟨subject, others, hne⟩,
      fun h => ⟨h.subject, h.others, h.others_ne⟩⟩

instance : (i : Item) → Decidable i.WellFormed
  | .recipe name parameters methods _ =>
    inferInstanceAs (Decidable (IsName name ∧ (∀ p ∈ parameters, IsName p) ∧ methods ≠ [] ∧
      ∀ b ∈ methods, b.WellFormed))
  | .target name methods _ =>
    inferInstanceAs (Decidable (IsName name ∧ methods ≠ [] ∧ ∀ b ∈ methods, b.WellFormed))
  | .shortcut name invocation _ =>
    inferInstanceAs (Decidable (IsName name ∧ invocation.WellFormed))
  | .dependency relation _ => inferInstanceAs (Decidable relation.WellFormed)

/-- The line that begins an item, and those that begin its methods. -/
def Item.lines (i : Item) : List Nat := i.line :: i.methods.map MethodBody.line

/-- A document of well-formed items that begin, with their methods, one below the other. -/
structure Document.WellFormed (d : Document) : Prop where
  items : ∀ i ∈ d, i.WellFormed
  lines : (d.flatMap Item.lines).Pairwise (· < ·)

end Provision
