import Mathlib.Data.List.Basic
import Mathlib.Data.List.Induction
import Provision.OrderedMap

namespace Provision

theorem eraseDups_concat {α : Type} [BEq α] [LawfulBEq α] (l : List α) (a : α) :
    (l ++ [a]).eraseDups = if a ∈ l then l.eraseDups else l.eraseDups ++ [a] := by
  rw [List.eraseDups_append]
  by_cases h : a ∈ l
  · simp [List.removeAll, h]
  · simp [List.removeAll, h, List.eraseDups_cons]

theorem nodup_eraseDups {α : Type} [BEq α] [LawfulBEq α] (l : List α) : l.eraseDups.Nodup := by
  induction l using List.reverseRecOn with
  | nil => exact List.nodup_nil
  | append_singleton l a ih =>
    rw [eraseDups_concat]
    split
    · exact ih
    · rename_i ha
      have hnew : a ∉ l.eraseDups := mt List.mem_eraseDups.mp ha
      exact List.nodup_append.mpr ⟨ih, by simp, by grind⟩

namespace OrderedMap

variable {κ α : Type} [DecidableEq κ]

theorem lookup_eq_some_iff {es : List (κ × α)} (hn : (es.map Prod.fst).Nodup) {k : κ}
    {v : α} : es.lookup k = some v ↔ (k, v) ∈ es := by
  induction es with
  | nil => simp
  | cons e es ih =>
    obtain ⟨a, b⟩ := e
    obtain ⟨ha, hn⟩ := List.nodup_cons.mp hn
    by_cases hk : k = a
    · subst hk
      have hv : (k, v) ∉ es := fun h => ha (List.mem_map.mpr ⟨_, h, rfl⟩)
      simp [hv, eq_comm]
    · simp [List.lookup_cons, beq_eq_false_iff_ne.mpr hk, hk, ih hn]

/-- What stands under a key is the value of its entry. -/
theorem get?_eq_some_iff (m : OrderedMap κ α) {k : κ} {v : α} :
    m.get? k = some v ↔ (k, v) ∈ m.entries :=
  lookup_eq_some_iff m.nodup_keys

theorem contains_iff (m : OrderedMap κ α) {k : κ} :
    m.contains k = true ↔ ∃ v, m.get? k = some v := by
  rw [contains, Option.isSome_iff_exists]

theorem mem_keys_alter (m : OrderedMap κ α) {k k' : κ} (f : Option α → α) :
    k' ∈ (m.alter k f).keys ↔ k' ∈ m.keys ∨ k' = k := by
  rw [keys_alter]
  split
  · next hk => exact ⟨.inl, fun h => h.elim id (· ▸ hk)⟩
  · simp

/-- Keys stand in the order in which they came first. -/
theorem keys_alter_of_eraseDups {m : OrderedMap κ α} {l : List κ} (h : m.keys = l.eraseDups)
    (k : κ) (f : Option α → α) : (m.alter k f).keys = (l ++ [k]).eraseDups := by
  rw [keys_alter, eraseDups_concat, h]
  simp only [List.mem_eraseDups]

/-- Where each step of a fold touches some keys, the fold touches them in the order of the steps. -/
theorem keys_foldl {β : Type} {f : OrderedMap κ α → β → OrderedMap κ α} {g : β → List κ}
    (bs : List β) (hstep : ∀ b ∈ bs, ∀ (m : OrderedMap κ α) (l : List κ),
      m.keys = l.eraseDups → (f m b).keys = (l ++ g b).eraseDups)
    {m : OrderedMap κ α} {l : List κ} (h : m.keys = l.eraseDups) :
    (bs.foldl f m).keys = (l ++ bs.flatMap g).eraseDups := by
  induction bs generalizing m l with
  | nil => simpa using h
  | cons b bs ih =>
    have hrest := ih (fun b hb => hstep b (List.mem_cons_of_mem _ hb))
      (hstep b List.mem_cons_self m l h)
    rw [List.foldl_cons, hrest, List.flatMap_cons, List.append_assoc]

theorem mem_keys_iff (m : OrderedMap κ α) {k : κ} : k ∈ m.keys ↔ ∃ v, m.get? k = some v := by
  simp [keys, get?_eq_some_iff]

/-- A map is made of its keys and of what stands under them. -/
theorem ext_get? {m n : OrderedMap κ α} (hkeys : m.keys = n.keys)
    (h : ∀ k, m.get? k = n.get? k) : m = n := by
  have hentries (m : OrderedMap κ α) :
      m.entries = m.keys.filterMap fun k => (m.get? k).map (k, ·) := by
    have hentry : ∀ e ∈ m.entries, some e = (m.get? e.1).map (e.1, ·) := by
      intro e he
      rw [m.get?_eq_some_iff.mpr he]
      rfl
    rw [keys, List.filterMap_map]
    exact List.filterMap_some.symm.trans (List.filterMap_congr hentry)
  ext1
  rw [hentries m, hentries n, hkeys]
  simp only [h]

/-- Of two maps one over the other, the upper one counts where it has the key. -/
theorem get?_overlay (m n : OrderedMap κ α) (k : κ) :
    (m.overlay n).get? k = (n.get? k).or (m.get? k) := by
  obtain ⟨es, hn⟩ := n
  simp only [overlay, get?]
  induction es generalizing m with
  | nil => rfl
  | cons e es ih =>
    obtain ⟨he, hn⟩ := List.nodup_cons.mp hn
    have hlookup : es.lookup e.1 = none := by
      rw [Option.eq_none_iff_forall_ne_some]
      exact fun v hv => he (List.mem_map.mpr ⟨_, (lookup_eq_some_iff hn).mp hv, rfl⟩)
    have hinsert := m.get?_insert e.1 k e.2
    simp only [get?] at hinsert
    rw [List.foldl_cons, ih _ hn, hinsert, List.lookup_cons]
    by_cases hk : k = e.1
    · simp [hk, hlookup]
    · simp [hk, beq_eq_false_iff_ne.mpr hk]

/-- All values of a map have a property. -/
def All (p : α → Prop) (m : OrderedMap κ α) : Prop := ∀ k v, m.get? k = some v → p v

namespace All

variable {β : Type} {p : α → Prop} {q : β → Prop} {m n : OrderedMap κ α}

theorem empty : (∅ : OrderedMap κ α).All p := by simp [All]

theorem alter (h : m.All p) (k : κ) {f : Option α → α} (hnone : p (f none))
    (hsome : ∀ v, p v → p (f (some v))) : (m.alter k f).All p := by
  intro k' v hv
  rw [get?_alter] at hv
  split at hv
  · obtain rfl := Option.some.inj hv
    cases hk : m.get? k with
    | none => exact hnone
    | some v => exact hsome v (h k v hk)
  · exact h k' v hv

theorem map (h : m.All p) {f : α → β} (hf : ∀ v, p v → q (f v)) : (m.map f).All q := by
  intro k w hw
  rw [get?_map] at hw
  obtain ⟨v, hv, rfl⟩ := Option.map_eq_some_iff.mp hw
  exact hf v (h k v hv)

theorem overlay (hm : m.All p) (hn : n.All p) : (m.overlay n).All p := by
  intro k v hv
  rw [get?_overlay, Option.or_eq_some_iff] at hv
  rcases hv with hv | ⟨_, hv⟩
  · exact hn k v hv
  · exact hm k v hv

end All

end OrderedMap

end Provision
