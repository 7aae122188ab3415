namespace Provision

/-- A finite map that remembers the order in which its keys came. -/
@[ext] structure OrderedMap (κ α : Type) where
  entries : List (κ × α)
  nodup_keys : (entries.map Prod.fst).Nodup

namespace OrderedMap

variable {κ α β : Type}

def empty : OrderedMap κ α := ⟨[], List.nodup_nil⟩

instance : EmptyCollection (OrderedMap κ α) := ⟨empty⟩

instance : Inhabited (OrderedMap κ α) := ⟨empty⟩

def keys (m : OrderedMap κ α) : List κ := m.entries.map Prod.fst

def values (m : OrderedMap κ α) : List α := m.entries.map Prod.snd

def size (m : OrderedMap κ α) : Nat := m.entries.length

def map (f : α → β) (m : OrderedMap κ α) : OrderedMap κ β :=
  ⟨m.entries.map fun (k, v) => (k, f v), by
    simpa [List.map_map, Function.comp_def] using m.nodup_keys⟩

@[simp] theorem keys_empty : (∅ : OrderedMap κ α).keys = [] := rfl

@[simp] theorem keys_map (f : α → β) (m : OrderedMap κ α) : (m.map f).keys = m.keys := by
  simp [keys, map, Function.comp_def]

variable [DecidableEq κ]

def get? (m : OrderedMap κ α) (k : κ) : Option α := m.entries.lookup k

def contains (m : OrderedMap κ α) (k : κ) : Bool := (m.get? k).isSome

/-- Puts `f` of the present value under the key `k`, at the end if the key is new. -/
def alterEntries (k : κ) (f : Option α → α) : List (κ × α) → List (κ × α)
  | [] => [(k, f none)]
  | (k', v) :: es =>
    if k' = k then (k', f (some v)) :: es else (k', v) :: alterEntries k f es

theorem map_fst_alterEntries (k : κ) (f : Option α → α) (es : List (κ × α)) :
    (alterEntries k f es).map Prod.fst =
      if k ∈ es.map Prod.fst then es.map Prod.fst else es.map Prod.fst ++ [k] := by
  induction es with
  | nil => simp [alterEntries]
  | cons e es ih =>
    simp only [alterEntries]
    split
    · simp_all
    · next h =>
      simp only [List.map_cons, ih, List.mem_cons, Ne.symm h, false_or]
      split <;> simp

theorem nodup_alterEntries {es : List (κ × α)} (h : (es.map Prod.fst).Nodup) (k : κ)
    (f : Option α → α) : ((alterEntries k f es).map Prod.fst).Nodup := by
  rw [map_fst_alterEntries]
  split
  · exact h
  · next hk =>
    refine List.nodup_append.2 ⟨h, by simp, fun a ha b hb => ?_⟩
    rw [List.mem_singleton.1 hb]
    rintro rfl
    exact hk ha

/-- Replaces the value of a key, which goes to the end if it is new. -/
def alter (m : OrderedMap κ α) (k : κ) (f : Option α → α) : OrderedMap κ α :=
  ⟨alterEntries k f m.entries, nodup_alterEntries m.nodup_keys k f⟩

/-- Keeps the entries whose keys fit. -/
def keep (m : OrderedMap κ α) (p : κ → Bool) : OrderedMap κ α :=
  ⟨m.entries.filter (p ·.1), m.nodup_keys.sublist (List.filter_sublist.map _)⟩

def erase (m : OrderedMap κ α) (k : κ) : OrderedMap κ α := m.keep (· != k)

def insert (m : OrderedMap κ α) (k : κ) (v : α) : OrderedMap κ α :=
  m.alter k fun _ => v

/-- Lays one map over another: a key of both keeps its place and takes the new value. -/
def overlay (m : OrderedMap κ α) (n : OrderedMap κ α) : OrderedMap κ α :=
  n.entries.foldl (fun m (k, v) => m.insert k v) m

def ofList (es : List (κ × α)) : OrderedMap κ α :=
  es.foldl (fun m (k, v) => m.insert k v) ∅

@[simp] theorem get?_empty (k : κ) : (∅ : OrderedMap κ α).get? k = none := rfl

theorem keys_alter (m : OrderedMap κ α) (k : κ) (f : Option α → α) :
    (m.alter k f).keys = if k ∈ m.keys then m.keys else m.keys ++ [k] :=
  map_fst_alterEntries k f m.entries

theorem keys_insert (m : OrderedMap κ α) (k : κ) (v : α) :
    (m.insert k v).keys = if k ∈ m.keys then m.keys else m.keys ++ [k] :=
  m.keys_alter k _

theorem lookup_alterEntries (k k' : κ) (f : Option α → α) (es : List (κ × α)) :
    (alterEntries k f es).lookup k' =
      if k' = k then some (f (es.lookup k)) else es.lookup k' := by
  induction es with
  | nil =>
    by_cases h : k' = k
    · subst h; simp [alterEntries]
    · simp [alterEntries, List.lookup_cons, h, beq_eq_false_iff_ne.2 h]
  | cons e es ih =>
    obtain ⟨a, v⟩ := e
    simp only [alterEntries]
    by_cases ha : a = k
    · subst ha
      by_cases h : k' = a
      · subst h; simp
      · simp [List.lookup_cons, h, beq_eq_false_iff_ne.2 h]
    · have hk : (k == a) = false := beq_eq_false_iff_ne.2 (Ne.symm ha)
      simp only [ha, if_false, List.lookup_cons, hk, ih]
      by_cases h : k' = a
      · subst h; simp [ha]
      · simp [beq_eq_false_iff_ne.2 h]

theorem get?_alter (m : OrderedMap κ α) (k k' : κ) (f : Option α → α) :
    (m.alter k f).get? k' = if k' = k then some (f (m.get? k)) else m.get? k' :=
  lookup_alterEntries k k' f m.entries

theorem get?_insert (m : OrderedMap κ α) (k k' : κ) (v : α) :
    (m.insert k v).get? k' = if k' = k then some v else m.get? k' :=
  m.get?_alter k k' _

theorem get?_map (f : α → β) (m : OrderedMap κ α) (k : κ) :
    (m.map f).get? k = (m.get? k).map f := by
  obtain ⟨es, h⟩ := m
  simp only [get?, map]
  clear h
  induction es with
  | nil => rfl
  | cons e es ih =>
    obtain ⟨a, v⟩ := e
    simp only [List.map_cons, List.lookup_cons, ih]
    split <;> rfl

end OrderedMap

end Provision
