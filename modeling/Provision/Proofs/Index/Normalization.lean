import Provision.Graph.Traversal
import Provision.Index.Basic
import Provision.Proofs.Document.WellFormed
import Provision.Proofs.Index.Declared

namespace Provision

/-- What a target depends on by pairs of a dependency and its dependent, in the order in which the
pairs first say so. -/
def dependenciesIn (pairs : List (String × String)) (target : String) : List String :=
  ((pairs.filter (·.2 = target)).map Prod.fst).eraseDups

theorem dependenciesIn_concat (pairs : List (String × String)) (dependency target a : String) :
    dependenciesIn (pairs ++ [(dependency, target)]) a =
      if a = target ∧ dependency ∉ dependenciesIn pairs a then
        dependenciesIn pairs a ++ [dependency]
      else dependenciesIn pairs a := by
  by_cases ha : a = target
  · subst ha
    simp only [dependenciesIn, List.filter_append, List.map_append, List.mem_eraseDups, true_and]
    simp only [List.filter_cons, List.filter_nil, decide_true, if_true, List.map_cons,
      List.map_nil, eraseDups_concat]
    rw [ite_not]
  · simp [dependenciesIn, ha, Ne.symm ha]

namespace DependencyIndex

variable {index : DependencyIndex} {pairs : List (String × String)} {declared : List String}
  {relations : List Relation} {a : String}

/-- What stands in the index for a target, which is nothing where the target has no entry. -/
def dependencies (index : DependencyIndex) (target : String) : List String :=
  (index.get? target).getD []

theorem dependencies_mention (index : DependencyIndex) (name a : String) :
    (index.mention name).dependencies a = index.dependencies a := by
  unfold dependencies mention
  rw [OrderedMap.get?_alter]
  split
  · next h => rw [h, Option.getD_some]
  · rfl

theorem dependencies_require (index : DependencyIndex) (target dependency a : String) :
    (index.require target dependency).dependencies a =
      if a = target ∧ dependency ∉ index.dependencies a then index.dependencies a ++ [dependency]
      else index.dependencies a := by
  unfold dependencies require
  rw [OrderedMap.get?_alter]
  by_cases ha : a = target
  · subst ha
    simp only [if_true, Option.getD_some, true_and, ite_not]
  · simp [ha]

/-! ## The lists -/

/-- The lists of the index say what the pairs say. -/
def Lists (index : DependencyIndex) (pairs : List (String × String)) : Prop :=
  ∀ a, index.dependencies a = dependenciesIn pairs a

theorem Lists.mention (h : index.Lists pairs) (name : String) : (index.mention name).Lists pairs :=
  fun a => (index.dependencies_mention name a).trans (h a)

theorem Lists.require (h : index.Lists pairs) (target dependency : String) :
    (index.require target dependency).Lists (pairs ++ [(dependency, target)]) := by
  intro a
  rw [dependencies_require, dependenciesIn_concat, h a]

theorem Lists.foldl_mention (h : index.Lists pairs) (names : List String) :
    (names.foldl DependencyIndex.mention index).Lists pairs := by
  induction names generalizing index with
  | nil => exact h
  | cons name names ih => exact ih (h.mention name)

theorem Lists.foldl_require (h : index.Lists pairs) (target dependency : String → String)
    (others : List String) :
    (others.foldl (fun i other => i.require (target other) (dependency other)) index).Lists
      (pairs ++ others.map fun other => (dependency other, target other)) := by
  induction others generalizing index pairs with
  | nil => simpa using h
  | cons other others ih => simpa using ih (h.require (target other) (dependency other))

/-- A relation adds its pairs, from left to right. -/
theorem Lists.relate (h : index.Lists pairs) (r : Relation) :
    (index.relate r).Lists (pairs ++ r.pairs) := by
  obtain ⟨subject, arrow, others⟩ := r
  cases arrow with
  | dependsOn =>
    exact (h.foldl_require (fun _ => subject) (fun other => other) others).foldl_mention others
  | dependedUpon =>
    exact (h.mention subject).foldl_require (fun other => other) (fun _ => subject) others

theorem lists_normalize (declared : List String) (relations : List Relation) :
    (normalize declared relations).Lists (relations.flatMap Relation.pairs) := by
  have hfold {index : DependencyIndex} {pairs : List (String × String)} (h : index.Lists pairs) :
      (relations.foldl relate index).Lists (pairs ++ relations.flatMap Relation.pairs) := by
    induction relations generalizing index pairs with
    | nil => simpa using h
    | cons r relations ih => simpa using ih (h.relate r)
  have hempty : (∅ : DependencyIndex).Lists [] := fun _ => rfl
  exact hfold (hempty.foldl_mention declared)

/-! ## The keys -/

theorem keys_foldl_mention {l names : List String} (h : index.keys = l.eraseDups) :
    (names.foldl mention index).keys = (l ++ names).eraseDups := by
  have hkeys := OrderedMap.keys_foldl (f := mention) (g := fun name => [name]) names
    (fun name _ m l h => m.keys_alter_of_eraseDups h name _) h
  rwa [List.flatMap_singleton'] at hkeys

theorem keys_foldl_require {l others : List String} (dependency : String)
    (h : index.keys = l.eraseDups) :
    (others.foldl (·.require · dependency) index).keys = (l ++ others).eraseDups := by
  have hkeys := OrderedMap.keys_foldl (f := fun i other => require i other dependency)
    (g := fun other => [other]) others (fun other _ m l h => m.keys_alter_of_eraseDups h other _) h
  rwa [List.flatMap_singleton'] at hkeys

/-- However much a target requires, it is mentioned once. -/
theorem keys_foldl_require_subject {l others : List String} (subject : String) (hne : others ≠ [])
    (h : index.keys = l.eraseDups) :
    (others.foldl (·.require subject ·) index).keys = (l ++ [subject]).eraseDups := by
  obtain ⟨other, others, rfl⟩ := List.exists_cons_of_ne_nil hne
  have hfirst : (index.require subject other).keys = (l ++ [subject]).eraseDups :=
    OrderedMap.keys_alter_of_eraseDups h subject _
  rw [List.foldl_cons]
  generalize index.require subject other = index at hfirst
  clear hne
  induction others generalizing index with
  | nil => exact hfirst
  | cons other others ih =>
    rw [List.foldl_cons]
    refine ih _ ?_
    have hold : subject ∈ index.keys := by simp [hfirst]
    rw [require, OrderedMap.keys_alter, if_pos hold, hfirst]

/-- A relation mentions its names from left to right. -/
theorem keys_relate {r : Relation} (hne : r.others ≠ []) {l : List String}
    (h : index.keys = l.eraseDups) : (index.relate r).keys = (l ++ r.names).eraseDups := by
  have hnames : l ++ r.names = l ++ [r.subject] ++ r.others := by simp [Relation.names]
  rw [relate, hnames]
  split
  · exact keys_foldl_mention (keys_foldl_require_subject r.subject hne h)
  · exact keys_foldl_require r.subject (OrderedMap.keys_alter_of_eraseDups h r.subject _)

theorem keys_normalize (declared : List String) (hne : ∀ r ∈ relations, r.others ≠ []) :
    (normalize declared relations).keys =
      (declared ++ relations.flatMap Relation.names).eraseDups := by
  have hempty : (∅ : DependencyIndex).keys = ([] : List String).eraseDups := rfl
  have hdeclared : (declared.foldl mention ∅).keys = declared.eraseDups :=
    keys_foldl_mention hempty
  exact OrderedMap.keys_foldl relations (fun r hr m l h => keys_relate (hne r hr) h) hdeclared

theorem keys_normalize_append (declared : List String) (hne : ∀ r ∈ relations, r.others ≠ []) :
    (normalize declared relations).keys = declared.eraseDups ++
      ((relations.flatMap Relation.names).filter (· ∉ declared)).eraseDups := by
  rw [keys_normalize declared hne, List.eraseDups_append]
  congr 2
  exact List.filter_congr fun n _ => by simp

end DependencyIndex

theorem TargetIndex.keys_ofDocument (d : Document) :
    (ofDocument d).keys = (d.filterMap Item.target?).eraseDups := by
  have hempty : (∅ : TargetIndex).keys = ([] : List String).eraseDups := rfl
  have hkeys := OrderedMap.keys_foldl (f := add) (g := fun i => i.target?.toList) d
    (fun i _ m l h => ?_) hempty
  · rw [ofDocument, OrderedMap.keys_map, hkeys, List.nil_append,
      ← List.filterMap_eq_flatMap_toList]
  · cases i with
    | recipe name parameters methods line => simpa [add, Item.target?] using h
    | target name methods line => exact OrderedMap.keys_alter_of_eraseDups h name _
    | shortcut name invocation line => exact OrderedMap.keys_alter_of_eraseDups h name _
    | dependency relation line => simpa [add, Item.target?] using h

namespace DependencyIndex

variable {declared : List String} {relations : List Relation} {a b : String}

/-- How an index comes of declared names and relations. An entry holds what its target depends on in
the order in which the relations first say so; the entries stand in the order in which the names
come first, the declared names before those that are only related. -/
structure Reflects (declared : List String) (relations : List Relation) (index : DependencyIndex) :
    Prop where
  requires_iff : ∀ a b, index.Requires a b ↔
    (∃ others, ⟨a, .dependsOn, others⟩ ∈ relations ∧ b ∈ others) ∨
      ∃ others, ⟨b, .dependedUpon, others⟩ ∈ relations ∧ a ∈ others
  nodup : ∀ a dependencies, index.get? a = some dependencies → dependencies.Nodup
  eq_dependenciesIn : ∀ a dependencies, index.get? a = some dependencies →
    dependencies = dependenciesIn (relations.flatMap Relation.pairs) a
  nodup_keys : index.keys.Nodup
  mem_keys : ∀ n, n ∈ index.keys ↔ n ∈ declared ∨ ∃ r ∈ relations, n ∈ r.names
  keys : index.keys = declared.eraseDups ++
    ((relations.flatMap Relation.names).filter (· ∉ declared)).eraseDups

theorem exists_pairs_iff : (∃ r ∈ relations, (b, a) ∈ r.pairs) ↔
    (∃ others, ⟨a, .dependsOn, others⟩ ∈ relations ∧ b ∈ others) ∨
      ∃ others, ⟨b, .dependedUpon, others⟩ ∈ relations ∧ a ∈ others := by
  constructor
  · rintro ⟨⟨subject, arrow, others⟩, hr, hp⟩
    cases arrow with
    | dependsOn =>
      obtain ⟨rfl, hb⟩ := Relation.mem_pairs_dependsOn.mp hp
      exact .inl ⟨others, hr, hb⟩
    | dependedUpon =>
      obtain ⟨rfl, ha⟩ := Relation.mem_pairs_dependedUpon.mp hp
      exact .inr ⟨others, hr, ha⟩
  · rintro (⟨others, hr, hb⟩ | ⟨others, hr, ha⟩)
    · exact ⟨_, hr, Relation.mem_pairs_dependsOn.mpr ⟨rfl, hb⟩⟩
    · exact ⟨_, hr, Relation.mem_pairs_dependedUpon.mpr ⟨rfl, ha⟩⟩

theorem eq_dependenciesIn_of_get? {dependencies : List String}
    (h : (normalize declared relations).get? a = some dependencies) :
    dependencies = dependenciesIn (relations.flatMap Relation.pairs) a := by
  rw [← lists_normalize declared relations a, DependencyIndex.dependencies, h]
  rfl

theorem Reflects.normalize (declared : List String) (hne : ∀ r ∈ relations, r.others ≠ []) :
    Reflects declared relations (normalize declared relations) where
  requires_iff a b := requires_normalize.trans exists_pairs_iff
  nodup a dependencies h := by
    rw [eq_dependenciesIn_of_get? h]
    exact nodup_eraseDups _
  eq_dependenciesIn a dependencies h := eq_dependenciesIn_of_get? h
  nodup_keys := (DependencyIndex.normalize declared relations).nodup_keys
  mem_keys n := by
    rw [keys_normalize declared hne, List.mem_eraseDups, List.mem_append, List.mem_flatMap]
  keys := keys_normalize_append declared hne

/-- The index of names and relations says what they say, in their order. That of a document begins
with the declared targets, as the index of their methods has them. -/
theorem reflects_normalize :
    (∀ (declared : List String) (relations : List Relation), (∀ r ∈ relations, r.others ≠ []) →
      Reflects declared relations (normalize declared relations)) ∧
    ∀ text d, Document.parse text = .ok d →
      Reflects (d.filterMap Item.target?) (d.filterMap Item.relation?) (ofDocument d) ∧
        (TargetIndex.ofDocument d).keys <+: (ofDocument d).keys := by
  refine ⟨fun declared relations hne => .normalize declared hne, fun text d h => ?_⟩
  have hne : ∀ r ∈ d.filterMap Item.relation?, r.others ≠ [] :=
    fun r hr => (Document.related_of_parse h r hr).others_ne
  refine ⟨.normalize _ hne, ?_⟩
  rw [ofDocument, keys_normalize_append _ hne, TargetIndex.keys_ofDocument]
  exact List.prefix_append ..

/-- Names that are related before they are declared, a pair that is given three times, and arrows of
both directions at one target. -/
def kettleText : String :=
  "tea -> pot water pot\npot <- tea tea\ncup: apt(cup)\nwater <- kettle pot\n" ++
  "tea: brew(green)\nrecipe brew(leaf):\n  setup: steep\ncup: apt(saucer)\n"

def kettle : Document :=
  [.dependency ⟨"tea", .dependsOn, ["pot", "water", "pot"]⟩ 1,
   .dependency ⟨"pot", .dependedUpon, ["tea", "tea"]⟩ 2,
   .shortcut "cup" ⟨"apt", [["cup"]]⟩ 3,
   .dependency ⟨"water", .dependedUpon, ["kettle", "pot"]⟩ 4,
   .shortcut "tea" ⟨"brew", [["green"]]⟩ 5,
   .recipe "brew" ["leaf"] [⟨.setup, [.shell "steep"], 7⟩] 6,
   .shortcut "cup" ⟨"apt", [["saucer"]]⟩ 8]

theorem reflects_kettle :
    (∀ r ∈ kettle.filterMap Item.relation?, r.others ≠ []) ∧
    (normalize ["cup", "tea", "cup"] (kettle.filterMap Item.relation?)).entries =
      [("cup", []), ("tea", ["pot", "water"]), ("pot", ["water"]), ("water", []),
        ("kettle", ["water"])] ∧
    Reflects ["cup", "tea", "cup"] (kettle.filterMap Item.relation?)
      (normalize ["cup", "tea", "cup"] (kettle.filterMap Item.relation?)) ∧
    Document.parse kettleText = .ok kettle ∧
    Reflects (kettle.filterMap Item.target?) (kettle.filterMap Item.relation?)
      (ofDocument kettle) ∧
    (TargetIndex.ofDocument kettle).keys <+: (ofDocument kettle).keys := by
  have hne : ∀ r ∈ kettle.filterMap Item.relation?, r.others ≠ [] := by decide
  have hparse : Document.parse kettleText = .ok kettle := by decide +kernel
  exact ⟨hne, by decide +kernel, reflects_normalize.1 _ _ hne, hparse,
    reflects_normalize.2 _ _ hparse⟩

/-! ## Either direction -/

/-- Where all names are declared, an index depends on the pairs only. -/
theorem normalize_congr {relations' : List Relation} (hne : ∀ r ∈ relations, r.others ≠ [])
    (hne' : ∀ r ∈ relations', r.others ≠ []) (hnames : ∀ r ∈ relations, r.names ⊆ declared)
    (hnames' : ∀ r ∈ relations', r.names ⊆ declared)
    (hpairs : relations.flatMap Relation.pairs = relations'.flatMap Relation.pairs) :
    normalize declared relations = normalize declared relations' := by
  have hkeys {relations : List Relation} (hne : ∀ r ∈ relations, r.others ≠ [])
      (hnames : ∀ r ∈ relations, r.names ⊆ declared) :
      (normalize declared relations).keys = declared.eraseDups := by
    have hnone : (relations.flatMap Relation.names).filter (· ∉ declared) = [] := by
      rw [List.filter_eq_nil_iff]
      intro n hn
      obtain ⟨r, hr, hn⟩ := List.mem_flatMap.mp hn
      simpa using hnames r hr hn
    rw [keys_normalize_append declared hne, hnone]
    exact List.append_nil _
  have hsame := (hkeys hne hnames).trans (hkeys hne' hnames').symm
  refine OrderedMap.ext_get? hsame fun a => ?_
  by_cases ha : a ∈ (normalize declared relations).keys
  · obtain ⟨ds, hds⟩ := (OrderedMap.mem_keys_iff _).mp ha
    obtain ⟨ds', hds'⟩ := (OrderedMap.mem_keys_iff _).mp (hsame ▸ ha)
    rw [hds, hds', eq_dependenciesIn_of_get? hds, eq_dependenciesIn_of_get? hds', hpairs]
  · have hnone {index : DependencyIndex} (ha : a ∉ index.keys) : index.get? a = none := by
      rw [Option.eq_none_iff_forall_ne_some]
      exact fun ds hds => ha ((OrderedMap.mem_keys_iff _).mpr ⟨ds, hds⟩)
    rw [hnone ha, hnone (hsame ▸ ha)]

end DependencyIndex

namespace Relation

theorem pairs_turned (r : Relation) : r.turned.flatMap pairs = r.pairs := by
  obtain ⟨subject, arrow, others⟩ := r
  cases arrow <;> simp [turned, pairs, List.flatMap_map, Arrow.flip, ← List.map_eq_flatMap]

theorem others_ne_of_mem_turned {r s : Relation} (h : s ∈ r.turned) : s.others ≠ [] := by
  obtain ⟨other, -, rfl⟩ := List.mem_map.mp h
  simp

theorem names_of_mem_turned {r s : Relation} (h : s ∈ r.turned) : s.names ⊆ r.names := by
  obtain ⟨other, hother, rfl⟩ := List.mem_map.mp h
  simp [names, hother]

end Relation

namespace DependencyIndex

/-- Between declared names either direction of the arrow says the same: a relation can stand in the
place of its pairs seen from the other side, one by one, and the index, the graph and the order of
installation are none the wiser. -/
theorem normalize_turned {declared : List String} {before after : List Relation} {r : Relation}
    (hne : ∀ s ∈ before ++ r :: after, s.others ≠ [])
    (hnames : ∀ s ∈ before ++ r :: after, s.names ⊆ declared) :
    normalize declared (before ++ r.turned ++ after) = normalize declared (before ++ r :: after) ∧
    Graph.ofIndex (normalize declared (before ++ r.turned ++ after)) =
      Graph.ofIndex (normalize declared (before ++ r :: after)) ∧
    (Graph.ofIndex (normalize declared (before ++ r.turned ++ after))).installOrder =
      (Graph.ofIndex (normalize declared (before ++ r :: after))).installOrder := by
  have hr : r ∈ before ++ r :: after := by simp
  have hcases {s : Relation} (hs : s ∈ before ++ r.turned ++ after) :
      s ∈ before ++ r :: after ∨ s ∈ r.turned := by
    simp only [List.mem_append, List.mem_cons] at hs ⊢
    tauto
  have hindex : normalize declared (before ++ r.turned ++ after) =
      normalize declared (before ++ r :: after) := by
    refine normalize_congr (fun s hs => ?_) hne (fun s hs => ?_) hnames ?_
    · rcases hcases hs with hs | hs
      · exact hne s hs
      · exact Relation.others_ne_of_mem_turned hs
    · rcases hcases hs with hs | hs
      · exact hnames s hs
      · exact fun n hn => hnames r hr (Relation.names_of_mem_turned hs hn)
    · simp [Relation.pairs_turned]
  rw [hindex]
  exact ⟨rfl, rfl, rfl⟩

/-- What the tea and the cup need, said of the pot, among other relations of the same names. -/
def pouring : Relation := ⟨"pot", .dependedUpon, ["tea", "cup"]⟩

def steeping : List Relation := [⟨"tea", .dependsOn, ["water", "pot"]⟩]

def sipping : List Relation := [⟨"cup", .dependsOn, ["tea"]⟩]

theorem normalize_turned_pouring :
    (∀ s ∈ steeping ++ pouring :: sipping, s.others ≠ []) ∧
    (∀ s ∈ steeping ++ pouring :: sipping, s.names ⊆ ["cup", "tea", "pot", "water"]) ∧
    pouring.turned = [⟨"tea", .dependsOn, ["pot"]⟩, ⟨"cup", .dependsOn, ["pot"]⟩] ∧
    (normalize ["cup", "tea", "pot", "water"] (steeping ++ pouring :: sipping)).entries =
      [("cup", ["pot", "tea"]), ("tea", ["water", "pot"]), ("pot", []), ("water", [])] ∧
    normalize ["cup", "tea", "pot", "water"] (steeping ++ pouring.turned ++ sipping) =
      normalize ["cup", "tea", "pot", "water"] (steeping ++ pouring :: sipping) ∧
    Graph.ofIndex (normalize ["cup", "tea", "pot", "water"]
        (steeping ++ pouring.turned ++ sipping)) =
      Graph.ofIndex (normalize ["cup", "tea", "pot", "water"] (steeping ++ pouring :: sipping)) ∧
    (Graph.ofIndex (normalize ["cup", "tea", "pot", "water"]
        (steeping ++ pouring.turned ++ sipping))).installOrder =
      (Graph.ofIndex (normalize ["cup", "tea", "pot", "water"]
        (steeping ++ pouring :: sipping))).installOrder := by
  have hne : ∀ s ∈ steeping ++ pouring :: sipping, s.others ≠ [] := by decide
  have hnames : ∀ s ∈ steeping ++ pouring :: sipping, s.names ⊆ ["cup", "tea", "pot", "water"] := by
    decide
  exact ⟨hne, hnames, by decide, by decide +kernel, normalize_turned hne hnames⟩

end DependencyIndex

end Provision
