import Mathlib.Data.List.Basic
import Provision.Files.Content

namespace Provision.Files

theorem startsWith_slash (s : String) : s.startsWith "/" = (s.toList.head? == some '/') := by
  rw [Bool.eq_iff_iff, String.startsWith_string_iff, beq_iff_eq, List.head?_eq_some_iff]
  exact ⟨fun ⟨rest, h⟩ => ⟨rest, h.symm⟩, fun ⟨rest, h⟩ => ⟨rest, h.symm⟩⟩

theorem endsWith_slash (s : String) : s.endsWith "/" = (s.toList.getLast? == some '/') := by
  rw [Bool.eq_iff_iff, String.endsWith_eq_endsWith_toSlice, String.Slice.endsWith_string_iff,
    String.copy_toSlice, beq_iff_eq, List.getLast?_eq_some_iff]
  exact ⟨fun ⟨before, h⟩ => ⟨before, h.symm⟩, fun ⟨before, h⟩ => ⟨before, h.symm⟩⟩

/-- A name that stands for something in a directory. -/
structure IsEntryName (name : String) : Prop where
  ne_dot : name ≠ "."
  ne_up : name ≠ ".."
  short : name.utf8ByteSize ≤ Tree.maxNameWidth

/-- Whether paths can lead on from what a node holds. -/
def Content.leads : Content → Bool
  | .directory .. => true
  | .link _ => true
  | _ => false

/-- A place, with a node at it if it is the free place `p`. -/
def Place.fill (p : Place) (id : Nat) (q : Place) : Place :=
  if q = p then { p with node := some id } else q

namespace Tree

/-- How names lead to a place, by way of so many links at most. -/
inductive Traces (t : Tree) (through : Bool) : (links here : Nat) → List String → Place → Prop
  | here (links here : Nat) : Traces t through links here [] ⟨t.above here, ".", some here⟩
  | stay {links here above : Nat} {entries : List (String × Nat)} {rest : List String} {q : Place}
      (hdirectory : t.content? here = some (.directory above entries))
      (h : Traces t through links here rest q) : Traces t through links here ("." :: rest) q
  | up {links here above : Nat} {entries : List (String × Nat)} {rest : List String} {q : Place}
      (hdirectory : t.content? here = some (.directory above entries))
      (h : Traces t through links above rest q) : Traces t through links here (".." :: rest) q
  | free {links here above : Nat} {entries : List (String × Nat)} {name : String}
      (hdirectory : t.content? here = some (.directory above entries)) (hname : IsEntryName name)
      (hlookup : entries.lookup name = none) :
      Traces t through links here [name] ⟨here, name, none⟩
  | last {links here above id : Nat} {entries : List (String × Nat)} {name : String}
      (hdirectory : t.content? here = some (.directory above entries)) (hname : IsEntryName name)
      (hlookup : entries.lookup name = some id)
      (hlink : through → ∀ path, t.content? id ≠ some (.link path)) :
      Traces t through links here [name] ⟨here, name, some id⟩
  | down {links here above id : Nat} {entries : List (String × Nat)} {name : String}
      {rest : List String} {q : Place}
      (hdirectory : t.content? here = some (.directory above entries)) (hname : IsEntryName name)
      (hlookup : entries.lookup name = some id) (hrest : rest ≠ [])
      (hlink : ∀ path, t.content? id ≠ some (.link path)) (h : Traces t through links id rest q) :
      Traces t through links here (name :: rest) q
  | link {links here above id : Nat} {entries : List (String × Nat)} {name path : String}
      {rest : List String} {q : Place}
      (hdirectory : t.content? here = some (.directory above entries)) (hname : IsEntryName name)
      (hlookup : entries.lookup name = some id) (hlink : t.content? id = some (.link path))
      (hthrough : rest ≠ [] ∨ through)
      (h : Traces t through links (if (Path.ofString path).absolute then root else here)
        ((Path.ofString path).names ++ rest) q) :
      Traces t through (links + 1) here (name :: rest) q

variable {t t' : Tree} {p q : Place} {through : Bool} {here id links : Nat} {names : List String}
  {path : Path}

theorem traces_of_walk {jump : Nat → List String → Except FileError Place}
    (hjump : ∀ {here names}, jump here names = .ok q →
      ∃ fewer, links = fewer + 1 ∧ Traces t through fewer here names q)
    (h : t.walk through jump here names = .ok q) : Traces t through links here names q := by
  induction names generalizing here with
  | nil =>
    cases h
    exact .here links here
  | cons name rest ih =>
    rw [walk] at h
    split at h
    · next above entries hdirectory =>
      by_cases hdot : name = "."
      · subst hdot
        exact .stay hdirectory (ih (by simpa using h))
      by_cases hup : name = ".."
      · subst hup
        exact .up hdirectory (ih (by simpa using h))
      rw [if_neg hdot, if_neg hup] at h
      split at h
      · cases h
      · next hlong =>
        have hname : IsEntryName name := ⟨hdot, hup, Nat.le_of_not_lt hlong⟩
        split at h
        · next hlookup =>
          split at h
          · next hrest =>
            obtain rfl : rest = [] := by simpa using hrest
            cases h
            exact .free hdirectory hname hlookup
          · cases h
        · next id hlookup =>
          split at h
          · next path hlink =>
            split at h
            · next hlast =>
              obtain ⟨rfl, hthrough⟩ : rest = [] ∧ through = false := by simpa using hlast
              cases h
              exact .last hdirectory hname hlookup (by simp [hthrough])
            · next hlast =>
              have hthrough : rest ≠ [] ∨ through := by
                by_cases hrest : rest = [] <;> simp_all
              obtain ⟨fewer, rfl, hnext⟩ := hjump h
              exact .link hdirectory hname hlookup hlink hthrough hnext
          · next hlink =>
            split at h
            · next hrest =>
              obtain rfl : rest = [] := by simpa using hrest
              cases h
              exact .last hdirectory hname hlookup fun _ => hlink
            · next hrest =>
              exact .down hdirectory hname hlookup (by simpa using hrest) hlink (ih h)
    · cases h

theorem traces_of_follow (h : t.follow through links here names = .ok q) :
    Traces t through links here names q := by
  induction links generalizing here names with
  | zero => exact traces_of_walk (fun h => by cases h) h
  | succ links ih => exact traces_of_walk (fun h => ⟨links, rfl, ih h⟩) h

theorem Traces.follow (h : Traces t through links here names q) :
    t.follow through links here names = .ok q := by
  have hfollow (links : Nat) : ∃ jump, ∀ here names,
      t.follow through links here names = t.walk through jump here names := by
    cases links with
    | zero => exact ⟨_, fun _ _ => rfl⟩
    | succ links => exact ⟨_, fun _ _ => rfl⟩
  induction h with
  | here links here =>
    obtain ⟨jump, hjump⟩ := hfollow links
    rw [hjump]
    rfl
  | @stay links here above entries rest q hdirectory h ih =>
    obtain ⟨jump, hjump⟩ := hfollow links
    rw [hjump] at ih ⊢
    simp [walk, hdirectory, ih]
  | @up links here above entries rest q hdirectory h ih =>
    obtain ⟨jump, hjump⟩ := hfollow links
    rw [hjump] at ih ⊢
    simp [walk, hdirectory, ih]
  | @free links here above entries name hdirectory hname hlookup =>
    obtain ⟨jump, hjump⟩ := hfollow links
    rw [hjump]
    simp [walk, hdirectory, hname.ne_dot, hname.ne_up, hname.short, hlookup]
  | @last links here above id entries name hdirectory hname hlookup hlink =>
    obtain ⟨jump, hjump⟩ := hfollow links
    rw [hjump]
    simp only [walk, hdirectory, hname.ne_dot, hname.ne_up, Nat.not_lt.mpr hname.short, hlookup,
      if_false]
    split
    · next hpath =>
      cases through with
      | false => rfl
      | true => exact absurd hpath (hlink rfl _)
    · rfl
  | @down links here above id entries name rest q hdirectory hname hlookup hrest hlink h ih =>
    obtain ⟨jump, hjump⟩ := hfollow links
    rw [hjump] at ih ⊢
    have hmore : rest.isEmpty = false := by simpa using hrest
    simp only [walk, hdirectory, hname.ne_dot, hname.ne_up, Nat.not_lt.mpr hname.short, hlookup,
      hmore, Bool.false_eq_true, if_false]
    exact ih
  | link hdirectory hname hlookup hlink hthrough h ih =>
    simp only [Tree.follow, walk, hdirectory, hname.ne_dot, hname.ne_up,
      Nat.not_lt.mpr hname.short, hlookup, hlink, if_false]
    rw [if_neg (by simpa [imp_iff_not_or] using hthrough)]
    exact ih

/-! ## The last link on a way -/

/-- What is free is found whether or not a link at the end is followed. -/
theorem Traces.through_of_free (h : Traces t false links here names q) (hfree : q.node = none) :
    Traces t true links here names q := by
  induction h with
  | here => cases hfree
  | stay hdirectory _ ih => exact .stay hdirectory (ih hfree)
  | up hdirectory _ ih => exact .up hdirectory (ih hfree)
  | free hdirectory hname hlookup => exact .free hdirectory hname hlookup
  | last => cases hfree
  | down hdirectory hname hlookup hrest hlink _ ih =>
    exact .down hdirectory hname hlookup hrest hlink (ih hfree)
  | link hdirectory hname hlookup hlink hthrough _ ih =>
    exact .link hdirectory hname hlookup hlink (.inr rfl) (ih hfree)

/-- Where there is something behind a link at the end, there is the link. -/
theorem Traces.exists_entry (h : Traces t true links here names q) (hnode : q.node ≠ none) :
    ∃ q', Traces t false links here names q' ∧ q'.node ≠ none := by
  induction h with
  | here links here => exact ⟨_, .here links here, by simp⟩
  | stay hdirectory _ ih =>
    obtain ⟨q', h', hnode'⟩ := ih hnode
    exact ⟨q', .stay hdirectory h', hnode'⟩
  | up hdirectory _ ih =>
    obtain ⟨q', h', hnode'⟩ := ih hnode
    exact ⟨q', .up hdirectory h', hnode'⟩
  | free => exact absurd rfl hnode
  | last hdirectory hname hlookup hlink =>
    exact ⟨_, .last hdirectory hname hlookup (by simp), by simp⟩
  | down hdirectory hname hlookup hrest hlink _ ih =>
    obtain ⟨q', h', hnode'⟩ := ih hnode
    exact ⟨q', .down hdirectory hname hlookup hrest hlink h', hnode'⟩
  | @link links here above id entries name path rest q hdirectory hname hlookup hlink hthrough _ ih =>
    by_cases hrest : rest = []
    · subst hrest
      exact ⟨_, .last hdirectory hname hlookup (by simp), by simp⟩
    · obtain ⟨q', h', hnode'⟩ := ih hnode
      exact ⟨q', .link hdirectory hname hlookup hlink (.inl hrest) h', hnode'⟩

/-- A free place is a name that its directory does not have. -/
theorem Traces.directory_of_free (h : Traces t through links here names q) (hfree : q.node = none) :
    ∃ above entries, t.content? q.directory = some (.directory above entries) ∧
      entries.lookup q.name = none := by
  induction h with
  | here => cases hfree
  | stay _ _ ih => exact ih hfree
  | up _ _ ih => exact ih hfree
  | free hdirectory hname hlookup => exact ⟨_, _, hdirectory, hlookup⟩
  | last => cases hfree
  | down _ _ _ _ _ _ ih => exact ih hfree
  | link _ _ _ _ _ _ ih => exact ih hfree

/-! ## Changes that keep paths -/

/-- The nodes from which paths lead on hold the same. -/
def SameLeads (t t' : Tree) : Prop :=
  ∀ id c, c.leads → (t'.content? id = some c ↔ t.content? id = some c)

theorem SameLeads.above (h : t.SameLeads t') (id : Nat) : t'.above id = t.above id := by
  unfold Tree.above
  split
  · next above entries hcontent => rw [(h id _ rfl).mp hcontent]
  · next hcontent =>
    split
    · next above entries hcontent' => exact absurd ((h id _ rfl).mpr hcontent') (hcontent _ _)
    · rfl

theorem Traces.congr (hleads : t.SameLeads t') (h : Traces t through links here names q) :
    Traces t' through links here names q := by
  have hnot {id : Nat} (hlink : ∀ path, t.content? id ≠ some (.link path)) (path : String) :
      t'.content? id ≠ some (.link path) := fun h => hlink path ((hleads id _ rfl).mp h)
  induction h with
  | here links here => exact hleads.above here ▸ .here links here
  | stay hdirectory _ ih => exact .stay ((hleads _ _ rfl).mpr hdirectory) ih
  | up hdirectory _ ih => exact .up ((hleads _ _ rfl).mpr hdirectory) ih
  | free hdirectory hname hlookup =>
    exact .free ((hleads _ _ rfl).mpr hdirectory) hname hlookup
  | last hdirectory hname hlookup hlink =>
    exact .last ((hleads _ _ rfl).mpr hdirectory) hname hlookup fun h => hnot (hlink h)
  | down hdirectory hname hlookup hrest hlink _ ih =>
    exact .down ((hleads _ _ rfl).mpr hdirectory) hname hlookup hrest (hnot hlink) ih
  | link hdirectory hname hlookup hlink hthrough _ ih =>
    exact .link ((hleads _ _ rfl).mpr hdirectory) hname hlookup ((hleads _ _ rfl).mpr hlink)
      hthrough ih

/-- The second tree is the first one with a new node at a free place. -/
structure Fills (t t' : Tree) (p : Place) (id : Nat) : Prop where
  free : p.node = none
  unused : t.content? id = none
  not_link : ∀ path, t'.content? id ≠ some (.link path)
  others : ∀ i, i ≠ p.directory → i ≠ id → t'.content? i = t.content? i
  directory : ∃ above entries, t.content? p.directory = some (.directory above entries) ∧
    entries.lookup p.name = none ∧
    t'.content? p.directory = some (.directory above (putEntry p.name id entries))

theorem lookup_putEntry (name other : String) (id : Nat) (entries : List (String × Nat)) :
    (putEntry name id entries).lookup other =
      if other = name then some id else entries.lookup other := by
  have hcons (first : String) (n : Nat) (rest : List (String × Nat)) :
      ((first, n) :: rest).lookup other = if other = first then some n else rest.lookup other := by
    rw [List.lookup_cons]
    by_cases h : other = first
    · simp [h]
    · rw [if_neg h, beq_eq_false_iff_ne.mpr h]
  induction entries with
  | nil => exact hcons name id []
  | cons entry entries ih =>
    obtain ⟨first, n⟩ := entry
    by_cases hfirst : first = name
    · rw [putEntry, if_pos hfirst, hcons, hcons, hfirst]
      split <;> rfl
    · rw [putEntry, if_neg hfirst, hcons, hcons, ih]
      by_cases h : other = first
      · simp [h, hfirst]
      · simp [h]

namespace Fills

variable {above : Nat} {entries : List (String × Nat)}

theorem exists_directory (h : t.Fills t' p id)
    (hdirectory : t.content? here = some (.directory above entries)) :
    ∃ entries', t'.content? here = some (.directory above entries') ∧ ∀ name,
      (here = p.directory ∧ name = p.name ∧ entries'.lookup name = some id ∧
        entries.lookup name = none) ∨
      (¬ (here = p.directory ∧ name = p.name) ∧ entries'.lookup name = entries.lookup name) := by
  have hid : here ≠ id := by
    rintro rfl
    simp [h.unused] at hdirectory
  by_cases hhere : here = p.directory
  · subst hhere
    obtain ⟨_, _, hold, hfree, hnew⟩ := h.directory
    obtain ⟨rfl, rfl⟩ : above = _ ∧ entries = _ := by simpa [hold] using hdirectory.symm
    refine ⟨_, hnew, fun name => ?_⟩
    by_cases hname : name = p.name
    · subst hname
      exact .inl ⟨rfl, rfl, by simp [lookup_putEntry], hfree⟩
    · exact .inr ⟨fun hand => hname hand.2, by simp [lookup_putEntry, hname]⟩
  · exact ⟨entries, (h.others here hhere hid).trans hdirectory, fun name =>
      .inr ⟨fun hand => hhere hand.1, rfl⟩⟩

theorem link_iff (h : t.Fills t' p id) {i : Nat} {path : String} :
    t'.content? i = some (.link path) ↔ t.content? i = some (.link path) := by
  by_cases hid : i = id
  · subst hid
    simp [h.unused, h.not_link path]
  by_cases hdirectory : i = p.directory
  · subst hdirectory
    obtain ⟨above, entries, hold, -, hnew⟩ := h.directory
    simp [hold, hnew]
  · rw [h.others i hdirectory hid]

theorem above_eq (h : t.Fills t' p id)
    (hid : ∀ above entries, t'.content? id ≠ some (.directory above entries)) (i : Nat) :
    t'.above i = t.above i := by
  have hnone {t : Tree} {i : Nat} (h : ∀ above entries, t.content? i ≠ some (.directory above entries)) :
      t.above i = root := by
    unfold Tree.above
    split
    · next hcontent => exact absurd hcontent (h _ _)
    · rfl
  by_cases hi : i = id
  · subst hi
    rw [hnone hid, hnone (by simp [h.unused])]
  by_cases hdirectory : i = p.directory
  · subst hdirectory
    obtain ⟨above, entries, hold, -, hnew⟩ := h.directory
    rw [Tree.above, Tree.above, hold, hnew]
  · rw [Tree.above, Tree.above, h.others i hdirectory hi]

/-- The new node is found where there was nothing, and nothing else changes for paths. -/
theorem traces (h : t.Fills t' p id)
    (hq : q.node = none ∨ ∀ above entries, t'.content? id ≠ some (.directory above entries))
    (htraces : Traces t through links here names q) :
    Traces t' through links here names (p.fill id q) := by
  have hnot {i : Nat} (hlink : ∀ path, t.content? i ≠ some (.link path)) (path : String) :
      t'.content? i ≠ some (.link path) := fun hpath => hlink path (h.link_iff.mp hpath)
  -- A name that stands for something keeps doing so.
  have hlookup {here above i : Nat} {entries : List (String × Nat)} {name : String}
      (hdirectory : t.content? here = some (.directory above entries))
      (hlookup : entries.lookup name = some i) : ∃ entries',
        t'.content? here = some (.directory above entries') ∧ entries'.lookup name = some i := by
    obtain ⟨entries', hdirectory', hentries⟩ := h.exists_directory hdirectory
    rcases hentries name with ⟨-, -, -, hnone⟩ | ⟨-, hsame⟩
    · simp [hnone] at hlookup
    · exact ⟨entries', hdirectory', hsame.trans hlookup⟩
  induction htraces with
  | here links here =>
    rw [Place.fill, if_neg (by rintro rfl; simpa using h.free),
      ← h.above_eq (hq.resolve_left (by simp))]
    exact .here links here
  | stay hdirectory _ ih =>
    obtain ⟨_, hdirectory', -⟩ := h.exists_directory hdirectory
    exact .stay hdirectory' (ih hq)
  | up hdirectory _ ih =>
    obtain ⟨_, hdirectory', -⟩ := h.exists_directory hdirectory
    exact .up hdirectory' (ih hq)
  | @free links here above entries name hdirectory hname hfree =>
    obtain ⟨_, hdirectory', hentries⟩ := h.exists_directory hdirectory
    rcases hentries name with ⟨rfl, rfl, hnew, -⟩ | ⟨hother, hsame⟩
    · rw [Place.fill, if_pos (by rw [← h.free])]
      exact .last hdirectory' hname hnew fun _ => h.not_link
    · rw [Place.fill, if_neg (by rintro rfl; exact hother ⟨rfl, rfl⟩)]
      exact .free hdirectory' hname (hsame.trans hfree)
  | last hdirectory hname hfound hlink =>
    obtain ⟨_, hdirectory', hfound'⟩ := hlookup hdirectory hfound
    rw [Place.fill, if_neg (by rintro rfl; simpa using h.free)]
    exact .last hdirectory' hname hfound' fun hthrough => hnot (hlink hthrough)
  | down hdirectory hname hfound hrest hlink _ ih =>
    obtain ⟨_, hdirectory', hfound'⟩ := hlookup hdirectory hfound
    exact .down hdirectory' hname hfound' hrest (hnot hlink) (ih hq)
  | link hdirectory hname hfound hlink hthrough _ ih =>
    obtain ⟨_, hdirectory', hfound'⟩ := hlookup hdirectory hfound
    exact .link hdirectory' hname hfound' (h.link_iff.mpr hlink) hthrough (ih hq)

end Fills

/-! ## Nodes that are added and changed -/

theorem content?_modify (t : Tree) (id : Nat) (f : Node → Node) (i : Nat) :
    (t.modify id f).content? i =
      if i = id then (t.node? i).map fun n => (f n).content else t.content? i := by
  unfold modify content? node?
  rw [Array.getElem?_modify]
  by_cases h : i = id
  · subst h
    simp [Function.comp_def]
  · simp [h, Ne.symm h]

theorem content?_add (t : Tree) (n : Node) (i : Nat) :
    (t.add n).2.content? i = if i = t.nodes.size then some n.content else t.content? i := by
  unfold add content? node?
  rw [Array.getElem?_push]
  split <;> simp_all

theorem content?_size (t : Tree) : t.content? t.nodes.size = none := by simp [content?, node?]

theorem content?_bind_of_ne (t : Tree) {directory i : Nat} (h : i ≠ directory) (name : String)
    (id : Nat) : (t.bind directory name id).content? i = t.content? i := by
  rw [bind, alterEntries, content?_modify, if_neg h]

theorem content?_bind {t : Tree} {directory above : Nat} {entries : List (String × Nat)}
    (h : t.content? directory = some (.directory above entries)) (name : String) (id : Nat) :
    (t.bind directory name id).content? directory =
      some (.directory above (putEntry name id entries)) := by
  obtain ⟨n, hn, hcontent⟩ := Option.map_eq_some_iff.mp h
  rw [bind, alterEntries, content?_modify, if_pos rfl, hn]
  simp [hcontent, stamped]

/-- A node that is no link is added at a free place. -/
theorem fills_add {n : Node} {above : Nat} {entries : List (String × Nat)} (hfree : p.node = none)
    (hdirectory : t.content? p.directory = some (.directory above entries))
    (hlookup : entries.lookup p.name = none) (hlink : ∀ path, n.content ≠ .link path) :
    t.Fills ((t.add n).2.bind p.directory p.name t.nodes.size) p t.nodes.size ∧
      ((t.add n).2.bind p.directory p.name t.nodes.size).content? t.nodes.size =
        some n.content := by
  have hne : p.directory ≠ t.nodes.size := by
    intro h
    rw [h, content?_size] at hdirectory
    cases hdirectory
  have hnew : ((t.add n).2.bind p.directory p.name t.nodes.size).content? t.nodes.size =
      some n.content := by
    rw [content?_bind_of_ne _ hne.symm, content?_add, if_pos rfl]
  have hkept : (t.add n).2.content? p.directory = some (.directory above entries) := by
    rw [content?_add, if_neg hne, hdirectory]
  refine ⟨⟨hfree, t.content?_size, fun path h => ?_, fun i hi hid => ?_,
    above, entries, hdirectory, hlookup, content?_bind hkept p.name _⟩, hnew⟩
  · rw [hnew] at h
    exact hlink path (Option.some.inj h)
  · rw [content?_bind_of_ne _ hi, content?_add, if_neg hid]

/-- To change the bytes of a file is no change for paths. -/
theorem sameLeads_updateBytes (t : Tree) (id : Nat) (f : List UInt8 → List UInt8) :
    t.SameLeads (t.updateBytes id f) := by
  intro i c hc
  rw [updateBytes, content?_modify]
  split
  · next hi =>
    unfold content?
    cases t.node? i with
    | none => rfl
    | some n =>
      cases hcontent : n.content <;> simp [hcontent, stamped]
      all_goals
        constructor <;> rintro rfl <;> cases hc
  · rfl

theorem node?_updateBytes {n : Node} (hn : t.node? id = some n) (hfile : n.isFile)
    (f : List UInt8 → List UInt8) :
    ∃ n', (t.updateBytes id f).node? id = some n' ∧ n'.isFile ∧ n'.bytes = f n.bytes := by
  have hnew (g : Node → Node) : (t.modify id g).node? id = some (g n) := by
    have hsome : t.nodes[id]? = some n := hn
    simp [modify, node?, Array.getElem?_modify, hsome]
  refine ⟨_, hnew _, ?_⟩
  cases hcontent : n.content <;> simp [Node.isFile, hcontent] at hfile
  all_goals simp [stamped, Node.isFile, Node.bytes, hcontent]

/-! ## Directories that are there -/

theorem trace_iff : t.trace through path = .ok q ↔
    Traces t through maxLinks (if path.absolute then root else t.working) path.names q :=
  ⟨traces_of_follow, Traces.follow⟩

/-- A path leads to a directory. -/
def HasDirectory (t : Tree) (path : Path) : Prop :=
  ∃ q id above entries, t.trace true path = .ok q ∧ q.node = some id ∧
    t.content? id = some (.directory above entries)

theorem HasDirectory.congr (hleads : t.SameLeads t') (hworking : t'.working = t.working)
    (h : t.HasDirectory path) : t'.HasDirectory path := by
  obtain ⟨q, id, above, entries, htrace, hnode, hcontent⟩ := h
  refine ⟨q, id, above, entries, ?_, hnode, (hleads id _ rfl).mpr hcontent⟩
  rw [trace_iff, hworking]
  exact (trace_iff.mp htrace).congr hleads

theorem HasDirectory.fills {other : Nat} (hfills : t.Fills t' p other)
    (hworking : t'.working = t.working)
    (hother : ∀ above entries, t'.content? other ≠ some (.directory above entries))
    (h : t.HasDirectory path) : t'.HasDirectory path := by
  obtain ⟨q, id, above, entries, htrace, hnode, hcontent⟩ := h
  obtain ⟨entries', hcontent', -⟩ := hfills.exists_directory hcontent
  have hq : p.fill other q = q := by
    refine if_neg ?_
    rintro rfl
    simp [hfills.free] at hnode
  refine ⟨q, id, above, entries', ?_, hnode, hcontent'⟩
  rw [trace_iff, hworking, ← hq]
  exact hfills.traces (.inr hother) (trace_iff.mp htrace)

theorem makeDirectoryAt_of_trace (h : t.trace false path = .ok p) (mode : Nat) :
    t.makeDirectoryAt path mode =
      t.createAt p (.fresh (.directory p.directory []) mode t.time) := by
  rw [makeDirectoryAt, h]
  rfl

/-- A directory that has been made is there. -/
theorem hasDirectory_makeDirectoryAt {mode : Nat} (h : t.makeDirectoryAt path mode = .ok t') :
    t'.HasDirectory path := by
  cases htrace : t.trace false path with
  | error e =>
    rw [makeDirectoryAt, htrace] at h
    cases h
  | ok p =>
    rw [makeDirectoryAt_of_trace htrace, createAt] at h
    cases hfree : p.node with
    | some id =>
      rw [hfree] at h
      cases h
    | none =>
      have hfound := trace_iff.mp htrace
      obtain ⟨above, entries, hdirectory, hlookup⟩ := hfound.directory_of_free hfree
      let n := Node.fresh (.directory p.directory []) mode t.time
      obtain ⟨hfills, hnew⟩ := fills_add (n := n) hfree hdirectory hlookup (by simp [n, Node.fresh])
      rw [hfree] at h
      obtain rfl : (t.add n).2.bind p.directory p.name t.nodes.size = t' := Except.ok.inj h
      refine ⟨{ p with node := some t.nodes.size }, t.nodes.size, p.directory, [], ?_, rfl, hnew⟩
      have htraces := hfills.traces (.inl hfree) (hfound.through_of_free hfree)
      rw [Place.fill, if_pos rfl] at htraces
      exact trace_iff.mpr htraces

/-- Where there is a directory, no other can be made. -/
theorem HasDirectory.makeDirectoryAt (h : t.HasDirectory path) (mode : Nat) :
    t.makeDirectoryAt path mode = .error .exists := by
  obtain ⟨q, id, above, entries, htrace, hnode, -⟩ := h
  obtain ⟨q', hentry, hnode'⟩ := (trace_iff.mp htrace).exists_entry (by simp [hnode])
  obtain ⟨id', hid⟩ := Option.ne_none_iff_exists'.mp hnode'
  rw [makeDirectoryAt_of_trace (trace_iff.mpr hentry), createAt, hid]

theorem any_isDirectory_iff {node : Option Nat} :
    (node.bind t.node?).any Node.isDirectory ↔
      ∃ id above entries, node = some id ∧ t.content? id = some (.directory above entries) := by
  constructor
  · intro hany
    cases node with
    | none => simp at hany
    | some id =>
      cases hn : t.node? id with
      | none => simp [hn] at hany
      | some n =>
        have hdirectory : n.isDirectory := by simpa [hn] using hany
        cases hcontent : n.content <;> simp [Node.isDirectory, hcontent] at hdirectory
        exact ⟨id, _, _, rfl, by rw [content?, hn, Option.map_some, hcontent]⟩
  · rintro ⟨id, above, entries, rfl, hcontent⟩
    obtain ⟨n, hn, hdirectory⟩ := Option.map_eq_some_iff.mp hcontent
    simp [hn, Node.isDirectory, hdirectory]

theorem HasDirectory.ensureDirectory (h : t.HasDirectory path) (mode : Nat) :
    t.ensureDirectory path mode = (.ok (), t) := by
  rw [Tree.ensureDirectory, h.makeDirectoryAt mode]
  obtain ⟨q, id, above, entries, htrace, hnode, hcontent⟩ := h
  have hthere := any_isDirectory_iff.mpr ⟨id, above, entries, hnode, hcontent⟩
  simp [htrace, hthere]

theorem hasDirectory_ensureDirectory {mode : Nat} (h : t.ensureDirectory path mode = (.ok (), t')) :
    t'.HasDirectory path := by
  rw [ensureDirectory] at h
  split at h
  · next hmade =>
    cases h
    exact hasDirectory_makeDirectoryAt hmade
  · next e hmade =>
    cases htrace : t.trace true path with
    | error e' => simp [htrace] at h
    | ok q =>
      rw [htrace] at h
      dsimp only at h
      split at h
      · next hthere =>
        cases h
        obtain ⟨id, above, entries, hnode, hcontent⟩ := any_isDirectory_iff.mp hthere
        exact ⟨q, id, above, entries, htrace, hnode, hcontent⟩
      · cases h

/-- What is made with the directories above it is there. -/
theorem hasDirectory_makeDirectories {directory : String}
    (h : t.makeDirectories directory = (.ok (), t')) (hne : directory ≠ "") :
    ∃ path, check directory = .ok path ∧ t'.HasDirectory path := by
  rw [makeDirectories, if_neg (by simpa using hne)] at h
  split at h
  · cases h
  · next path hcheck =>
    refine ⟨path, hcheck, ?_⟩
    split at h
    · split at h
      · exact hasDirectory_ensureDirectory h
      · cases h
    · next hmade =>
      cases h
      exact hasDirectory_makeDirectoryAt hmade
    · exact hasDirectory_ensureDirectory h

theorem HasDirectory.makeDirectories {directory : String} (hcheck : check directory = .ok path)
    (h : t.HasDirectory path) : t.makeDirectories directory = (.ok (), t) := by
  rw [Tree.makeDirectories, hcheck]
  split
  · rfl
  · simp [h.makeDirectoryAt, h.ensureDirectory]

/-! ## Files that grow -/

theorem place_mono {place : String} {f : Place → Place}
    (htrace : ∀ path q, t.trace through path = .ok q → t'.trace through path = .ok (f q))
    (h : t.place through place = .ok q) : t'.place through place = .ok (f q) := by
  rw [Tree.place] at h ⊢
  cases hcheck : check place with
  | error e =>
    rw [hcheck] at h
    cases h
  | ok path =>
    rw [hcheck] at h
    exact htrace _ q h

theorem exists_trace_of_place {place : String} (h : t.place through place = .ok q) :
    ∃ path, t.trace through path = .ok q := by
  rw [Tree.place] at h
  cases hcheck : check place with
  | error e =>
    rw [hcheck] at h
    cases h
  | ok path =>
    rw [hcheck] at h
    exact ⟨_, h⟩

/-- What is added to at a path: a file with some bytes, or a file that there is not yet. -/
inductive Grows (t : Tree) (place : String) : List UInt8 → Prop
  | free {p : Place} (hplace : t.place true place = .ok p) (hfree : p.node = none) :
      Grows t place []
  | file {p : Place} {id : Nat} {n : Node} (hplace : t.place true place = .ok p)
      (hnode : p.node = some id) (hn : t.node? id = some n) (hfile : n.isFile) :
      Grows t place n.bytes

theorem isDirectory_of_isFile {n : Node} (h : n.isFile) : n.isDirectory = false := by
  cases hcontent : n.content <;> simp_all [Node.isFile, Node.isDirectory]

section File

variable {place : String} {n : Node} (hplace : t.place true place = .ok p)
  (hnode : p.node = some id) (hn : t.node? id = some n) (hfile : n.isFile)
include hplace hnode hn hfile

theorem read_file : t.read place = .ok n.bytes := by
  have hdirectory := isDirectory_of_isFile hfile
  have hlocate : t.locate place = .ok id := by
    rw [locate, hplace]
    simp only [Bind.bind, Except.bind, hnode]
  rw [read, find, hlocate]
  simp [Bind.bind, Except.bind, hn, hdirectory]

theorem ensureFile_file (mode : Nat) : t.ensureFile place mode = .ok (id, t) := by
  have hdirectory := isDirectory_of_isFile hfile
  rw [ensureFile, hplace]
  simp only [Bind.bind, Except.bind, hnode, content?, hn, Option.map_some]
  split
  · next hcontent =>
    simp [Node.isDirectory, Option.some.inj hcontent] at hdirectory
  · rfl

/-- A change of the bytes of a file changes nothing else for paths. -/
theorem grows_updateBytes (f : List UInt8 → List UInt8) :
    (t.updateBytes id f).Grows place (f n.bytes) ∧
      (t.updateBytes id f).read place = .ok (f n.bytes) ∧
      ∀ path, t.HasDirectory path → (t.updateBytes id f).HasDirectory path := by
  have hleads := t.sameLeads_updateBytes id f
  obtain ⟨n', hn', hfile', hbytes⟩ := node?_updateBytes hn hfile f
  have hplace' : (t.updateBytes id f).place true place = .ok p :=
    place_mono (fun path q h => trace_iff.mpr ((trace_iff.mp h).congr hleads)) hplace
  rw [← hbytes]
  exact ⟨.file hplace' hnode hn' hfile', read_file hplace' hnode hn' hfile',
    fun path h => h.congr hleads rfl⟩

end File

/-- A file that is made at a free place is found there, and nothing else changes for paths. -/
theorem ensureFile_free {place : String} (hplace : t.place true place = .ok p)
    (hfree : p.node = none) (hslash : place.endsWith "/" = false) (mode : Nat) :
    ∃ id t' n q, t.ensureFile place mode = .ok (id, t') ∧ t'.place true place = .ok q ∧
      q.node = some id ∧ t'.node? id = some n ∧ n.isFile ∧ n.bytes = [] ∧
      ∀ path, t.HasDirectory path → t'.HasDirectory path := by
  obtain ⟨path, htrace⟩ := exists_trace_of_place hplace
  obtain ⟨above, entries, hdirectory, hlookup⟩ := (trace_iff.mp htrace).directory_of_free hfree
  let n := Node.fresh (.file []) mode t.time
  obtain ⟨hfills, hnew⟩ := fills_add (n := n) hfree hdirectory hlookup (by simp [n, Node.fresh])
  have hother (above : Nat) (entries : List (String × Nat)) :
      (t.create p mode).2.content? t.nodes.size ≠ some (.directory above entries) := by
    intro h
    cases hnew.symm.trans h
  obtain ⟨m, hm, hcontent⟩ := Option.map_eq_some_iff.mp hnew
  have hplace' := place_mono
    (fun path q h => trace_iff.mpr (hfills.traces (.inr hother) (trace_iff.mp h))) hplace
  rw [Place.fill, if_pos rfl] at hplace'
  refine ⟨t.nodes.size, (t.create p mode).2, m, { p with node := some t.nodes.size }, ?_, hplace',
    rfl, hm, by simp [Node.isFile, hcontent, n, Node.fresh],
    by simp [Node.bytes, hcontent, n, Node.fresh], fun path h => h.fills hfills rfl hother⟩
  rw [ensureFile, hplace]
  simp only [Bind.bind, Except.bind, hfree, hslash]
  rfl

/-- To add to a file changes nothing but its bytes, and makes it if there is none. -/
theorem Grows.append {place : String} {bytes : List UInt8} (h : t.Grows place bytes)
    (hslash : place.endsWith "/" = false) (more : List UInt8) :
    ∃ t', t.append place more = .ok t' ∧ t'.Grows place (bytes ++ more) ∧
      t'.read place = .ok (bytes ++ more) ∧
      ∀ path, t.HasDirectory path → t'.HasDirectory path := by
  cases h with
  | @file p id n hplace hnode hn hfile =>
    refine ⟨t.updateBytes id (· ++ more), ?_, grows_updateBytes hplace hnode hn hfile _⟩
    rw [Tree.append, update, ensureFile_file hplace hnode hn hfile]
    rfl
  | @free p hplace hfree =>
    obtain ⟨id, t', n, q, hmade, hplace', hnode, hn, hfile, hbytes, hdirectories⟩ :=
      ensureFile_free hplace hfree hslash 0o644
    obtain ⟨hgrows, hread, hdirectories'⟩ := grows_updateBytes hplace' hnode hn hfile (· ++ more)
    rw [hbytes] at hgrows hread
    refine ⟨t'.updateBytes id (· ++ more), ?_, hgrows, hread, fun path h =>
      hdirectories' path (hdirectories path h)⟩
    rw [Tree.append, update, hmade]
    rfl

end Tree

end Provision.Files
