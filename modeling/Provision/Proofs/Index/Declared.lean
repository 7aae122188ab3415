import Provision.Configuration.Basic
import Provision.Index.Basic
import Provision.Proofs.Graph.Construction
import Provision.Proofs.OrderedMap

namespace Provision

namespace Relation

theorem mem_pairs_dependsOn {subject : String} {others : List String} {p n : String} :
    (p, n) ∈ pairs ⟨subject, .dependsOn, others⟩ ↔ n = subject ∧ p ∈ others := by
  simp [pairs, and_comm, eq_comm]

theorem mem_pairs_dependedUpon {subject : String} {others : List String} {p n : String} :
    (p, n) ∈ pairs ⟨subject, .dependedUpon, others⟩ ↔ p = subject ∧ n ∈ others := by
  simp [pairs, and_comm, eq_comm]

theorem names_of_mem_pairs {r : Relation} {p n : String} (h : (p, n) ∈ r.pairs) :
    p ∈ r.names ∧ n ∈ r.names := by
  obtain ⟨subject, arrow, others⟩ := r
  cases arrow with
  | dependsOn => simp_all [mem_pairs_dependsOn, names]
  | dependedUpon => simp_all [mem_pairs_dependedUpon, names]

end Relation

/-- The names of targets that a document declares or relates. -/
def Document.names (d : Document) : List String :=
  d.filterMap Item.target? ++ (d.filterMap Item.relation?).flatMap Relation.names

namespace DependencyIndex

variable {index : DependencyIndex}

theorem requires_mention {name a b : String} :
    (index.mention name).Requires a b ↔ index.Requires a b := by
  unfold Requires mention
  rw [OrderedMap.get?_alter]
  by_cases h : a = name
  · subst h
    cases index.get? a <;> simp
  · simp [h]

theorem requires_require {target dependency a b : String} :
    (index.require target dependency).Requires a b ↔
      index.Requires a b ∨ a = target ∧ b = dependency := by
  unfold Requires require
  rw [OrderedMap.get?_alter]
  by_cases h : a = target
  · subst h
    cases index.get? a with
    | none => simp
    | some dependencies =>
      by_cases hd : dependency ∈ dependencies
      · simp only [if_true, Option.getD_some, hd, Option.some.injEq, exists_eq_left', true_and]
        constructor
        · exact Or.inl
        · rintro (hb | rfl)
          · exact hb
          · exact hd
      · simp [hd]
  · simp [h]

theorem requires_foldl_mention {names : List String} {a b : String} :
    (names.foldl mention index).Requires a b ↔ index.Requires a b := by
  induction names generalizing index with
  | nil => rfl
  | cons name names ih => rw [List.foldl_cons, ih, requires_mention]

theorem requires_foldl_require (target dependency : String → String) {others : List String}
    {a b : String} :
    (others.foldl (fun i other => i.require (target other) (dependency other)) index).Requires a b ↔
      index.Requires a b ∨ ∃ other ∈ others, a = target other ∧ b = dependency other := by
  induction others generalizing index with
  | nil => simp
  | cons other others ih =>
    rw [List.foldl_cons, ih, requires_require, or_assoc]
    simp

/-- A relation adds its pairs. -/
theorem requires_relate {r : Relation} {a b : String} :
    (index.relate r).Requires a b ↔ index.Requires a b ∨ (b, a) ∈ r.pairs := by
  obtain ⟨subject, arrow, others⟩ := r
  cases arrow with
  | dependsOn =>
    rw [relate, requires_foldl_mention, Relation.mem_pairs_dependsOn,
      requires_foldl_require (fun _ => subject) (fun other => other)]
    simp [and_comm]
  | dependedUpon =>
    rw [relate, Relation.mem_pairs_dependedUpon,
      requires_foldl_require (fun other => other) (fun _ => subject),
      requires_mention]
    simp [and_comm]

/-- The index holds the pairs that the relations express. -/
theorem requires_normalize {declared : List String} {relations : List Relation} {a b : String} :
    (normalize declared relations).Requires a b ↔ ∃ r ∈ relations, (b, a) ∈ r.pairs := by
  have hfold (index : DependencyIndex) : (relations.foldl relate index).Requires a b ↔
      index.Requires a b ∨ ∃ r ∈ relations, (b, a) ∈ r.pairs := by
    induction relations generalizing index with
    | nil => simp
    | cons r relations ih => simp [ih, requires_relate, or_assoc]
  have hempty : ¬ (∅ : DependencyIndex).Requires a b := by simp [Requires]
  rw [normalize, hfold, requires_foldl_mention]
  simp [hempty]

theorem requires_ofDocument {d : Document} {a b : String} :
    (ofDocument d).Requires a b ↔ ∃ r ∈ d.filterMap Item.relation?, (b, a) ∈ r.pairs :=
  requires_normalize

theorem mem_names_of_requires {d : Document} {a b : String} (h : (ofDocument d).Requires a b) :
    a ∈ d.names ∧ b ∈ d.names := by
  obtain ⟨r, hr, hp⟩ := requires_ofDocument.mp h
  obtain ⟨hb, ha⟩ := Relation.names_of_mem_pairs hp
  exact ⟨List.mem_append_right _ (List.mem_flatMap.mpr ⟨r, hr, ha⟩),
    List.mem_append_right _ (List.mem_flatMap.mpr ⟨r, hr, hb⟩)⟩

end DependencyIndex

theorem compact_ne_nil {actions : List Action} (h : actions ≠ []) : compact actions ≠ [] := by
  match actions with
  | [] => exact absurd rfl h
  | .call invocation :: rest => simp [compact]
  | .shell script :: rest =>
    rw [compact]
    split <;> simp

/-- The header of a method is never without actions. -/
def Document.Filled (d : Document) : Prop := ∀ i ∈ d, ∀ b ∈ i.methods, b.actions ≠ []

instance (d : Document) : Decidable d.Filled :=
  inferInstanceAs (Decidable (∀ i ∈ d, ∀ b ∈ i.methods, b.actions ≠ []))

namespace Methods

/-- There is an action under each name. -/
def Filled (ms : Methods) : Prop := ms.All (· ≠ [])

theorem Filled.append {ms : Methods} (h : ms.Filled) (name : String) {actions : List Action}
    (hne : actions ≠ []) : (ms.append name actions).Filled :=
  h.alter name (by simpa) fun old hold => by simp [hold]

theorem Filled.addBodies {ms : Methods} (h : ms.Filled) {bodies : List MethodBody}
    (hne : ∀ b ∈ bodies, b.actions ≠ []) : (ms.addBodies bodies).Filled := by
  unfold Methods.addBodies
  induction bodies generalizing ms with
  | nil => exact h
  | cons b bodies ih =>
    obtain ⟨hb, hbodies⟩ := List.forall_mem_cons.mp hne
    exact ih (h.append b.method.name hb) hbodies

theorem Filled.compact {ms : Methods} (h : ms.Filled) : ms.compact.Filled :=
  h.map fun _ => compact_ne_nil

end Methods

namespace TargetIndex

variable {index : TargetIndex} {d : Document}

theorem all_filled_foldl_add (h : index.All Methods.Filled) (hd : d.Filled) :
    (d.foldl add index).All Methods.Filled := by
  induction d generalizing index with
  | nil => exact h
  | cons i d ih =>
    obtain ⟨hi, hd⟩ := List.forall_mem_cons.mp hd
    refine ih ?_ hd
    cases i with
    | recipe => exact h
    | dependency => exact h
    | target name bodies line =>
      exact h.alter name (Methods.Filled.addBodies .empty hi) fun ms hms => hms.addBodies hi
    | shortcut name invocation line =>
      exact h.alter name (Methods.Filled.append .empty _ (by simp)) fun ms hms =>
        hms.append _ (by simp)

theorem all_filled_ofDocument (hd : d.Filled) : (ofDocument d).All Methods.Filled :=
  (all_filled_foldl_add .empty hd).map fun _ => Methods.Filled.compact

/-- The targets are the names that are declared. -/
theorem mem_keys_foldl_add {n : String} :
    n ∈ (d.foldl add index).keys ↔ n ∈ index.keys ∨ n ∈ d.filterMap Item.target? := by
  induction d generalizing index with
  | nil => simp
  | cons i d ih =>
    rw [List.foldl_cons, ih, List.filterMap_cons]
    cases i <;> simp [add, Item.target?, OrderedMap.mem_keys_alter, or_assoc]

theorem mem_keys_ofDocument {n : String} :
    n ∈ (ofDocument d).keys ↔ n ∈ d.filterMap Item.target? := by
  rw [ofDocument, OrderedMap.keys_map, mem_keys_foldl_add]
  simp

end TargetIndex

namespace DependencyIndex

variable {index : DependencyIndex} {n : String}

/-- Entries are never taken away. -/
private theorem mem_keys_foldl {α : Type} {f : DependencyIndex → α → DependencyIndex}
    (hf : ∀ index a, n ∈ index.keys → n ∈ (f index a).keys) (h : n ∈ index.keys) (l : List α) :
    n ∈ (l.foldl f index).keys := by
  induction l generalizing index with
  | nil => exact h
  | cons a l ih => exact ih (hf index a h)

theorem mem_keys_mention {name : String} :
    n ∈ (index.mention name).keys ↔ n ∈ index.keys ∨ n = name :=
  index.mem_keys_alter _

theorem mem_keys_require {target dependency : String} :
    n ∈ (index.require target dependency).keys ↔ n ∈ index.keys ∨ n = target :=
  index.mem_keys_alter _

theorem mem_keys_relate (h : n ∈ index.keys) (r : Relation) : n ∈ (index.relate r).keys := by
  have hmention (index : DependencyIndex) (name : String) (h : n ∈ index.keys) :
      n ∈ (index.mention name).keys := mem_keys_mention.mpr (.inl h)
  have hrequire (index : DependencyIndex) (target dependency : String) (h : n ∈ index.keys) :
      n ∈ (index.require target dependency).keys := mem_keys_require.mpr (.inl h)
  unfold relate
  split
  · exact mem_keys_foldl hmention (mem_keys_foldl (fun i => hrequire i r.subject) h r.others) _
  · exact mem_keys_foldl (fun i other => hrequire i other r.subject) (hmention _ _ h) r.others

theorem mem_keys_foldl_mention {names : List String} :
    n ∈ (names.foldl mention index).keys ↔ n ∈ index.keys ∨ n ∈ names := by
  induction names generalizing index with
  | nil => simp
  | cons name names ih => rw [List.foldl_cons, ih, mem_keys_mention, List.mem_cons, or_assoc]

/-- Every declared name has an entry. -/
theorem mem_keys_ofDocument {d : Document} (h : n ∈ d.filterMap Item.target?) :
    n ∈ (ofDocument d).keys :=
  mem_keys_foldl (fun _ r h => mem_keys_relate h r) (mem_keys_foldl_mention.mpr (.inr h)) _

end DependencyIndex

namespace RecipeIndex

variable {index : RecipeIndex} {d : Document}

/-- No method of a recipe is without actions. -/
def Filled (index : RecipeIndex) : Prop := index.All fun recipe => recipe.methods.Filled

theorem filled_foldl_add (h : index.Filled) (hd : d.Filled) : (d.foldl add index).Filled := by
  induction d generalizing index with
  | nil => exact h
  | cons i d ih =>
    obtain ⟨hi, hd⟩ := List.forall_mem_cons.mp hd
    refine ih ?_ hd
    cases i with
    | target => exact h
    | shortcut => exact h
    | dependency => exact h
    | recipe name parameters bodies line =>
      exact h.alter name (Methods.Filled.addBodies .empty hi) fun recipe hrecipe =>
        hrecipe.addBodies hi

theorem filled_ofDocument (hd : d.Filled) : (ofDocument d).Filled :=
  (filled_foldl_add OrderedMap.All.empty hd).map fun _ => Methods.Filled.compact

end RecipeIndex

namespace Standard

theorem document_eq {characters : List Char} (h : source = String.ofList characters) :
    document = Document.ofLines (Line.ofTexts 1 (Text.lines characters)) := by
  rw [document, Document.parse, h, String.toList_ofList]

-- The characters are taken from the literal as it stands: to decode its bytes would take minutes.
set_option maxRecDepth 10000 in
theorem exists_characters : ∃ characters, source = String.ofList characters ∧
    ∀ d ∈ (Document.ofLines (Line.ofTexts 1 (Text.lines characters))).toOption, d.Filled :=
  ⟨_, rfl, by decide +kernel⟩

theorem document_filled {d : Document} (hd : document = .ok d) : d.Filled := by
  refine exists_characters.elim fun characters h => h.2 d ?_
  rw [← document_eq h.1, hd]
  rfl

theorem recipes_filled : recipes.Filled := by
  rw [recipes]
  cases h : document with
  | error e => exact OrderedMap.All.empty
  | ok d => exact RecipeIndex.filled_ofDocument (document_filled h)

end Standard

/-- Where no header of a method is without actions, no recipe and no target has a method without
actions. -/
theorem Configuration.filled_ofDocument {d : Document} (hd : d.Filled) :
    (ofDocument d).recipes.Filled ∧ (ofDocument d).targets.All Methods.Filled :=
  ⟨Standard.recipes_filled.overlay (RecipeIndex.filled_ofDocument hd),
    TargetIndex.all_filled_ofDocument hd⟩

end Provision
