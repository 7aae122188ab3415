import Provision.Proofs.Document.Step

namespace Provision

/-- A script is one line; a call may come from any number of them. -/
def Action.IsLine : Action → Prop
  | .shell script => IsScriptLine script
  | .call _ => True

namespace Document

structure Declaration.WellFormed (d : Declaration) : Prop where
  heading : d.heading.WellFormed
  methods : ∀ b ∈ d.methods, b.WellFormed

def Place.WellFormed : Place → Prop
  | .shortcut name _ => IsName name
  | .inline declaration _ _ => declaration.WellFormed
  | .block b => b.close.WellFormed

def Mode.WellFormed : Mode → Prop
  | .top => True
  | .methods declaration => declaration.WellFormed
  | .block b => b.close.WellFormed
  | .invocation place call => place.WellFormed ∧ Text.isName call.name

/-- All that has been read so far is well formed. -/
structure Reader.WellFormed (r : Reader) : Prop where
  items : ∀ i ∈ r.items, i.WellFormed
  mode : r.mode.WellFormed

/-- The line that begins a declaration, and those that begin its methods. -/
def Declaration.lines (d : Declaration) : List Nat := d.line :: d.methods.map MethodBody.line

def Place.lines : Place → List Nat
  | .shortcut _ line => [line]
  | .inline declaration _ line => declaration.lines ++ [line]
  | .block b => b.close.lines

def Mode.lines : Mode → List Nat
  | .top => []
  | .methods declaration => declaration.lines
  | .block b => b.close.lines
  | .invocation place _ => place.lines

/-- The lines on which the items and methods begin that a reader has come upon. -/
def Reader.lines (r : Reader) : List Nat := r.items.flatMap Item.lines ++ r.mode.lines

variable {items : List Item} {i : Item} {r s t : Reader} {l : Line} {d : Declaration} {p : Place}
  {m : Mode} {a : Action} {column n : Nat}

/-! ## Items, actions and names -/

theorem Declaration.WellFormed.add (h : d.WellFormed) {b : MethodBody} (hb : b.WellFormed) :
    (d.add b).WellFormed :=
  ⟨h.heading, by simpa [Declaration.add, or_imp, forall_and] using ⟨h.methods, hb⟩⟩

theorem Block.wellFormed_close_add {b : Block} (h : b.close.WellFormed) (ha : a.WellFormed) :
    (b.add a).close.WellFormed := by
  obtain ⟨hheading, hmethods⟩ := h
  simp only [Block.close, Declaration.add, List.mem_append, List.mem_singleton, or_imp, forall_and,
    forall_eq] at hmethods
  refine ⟨hheading, ?_⟩
  simp only [Block.close, Block.add, Declaration.add, List.mem_append, List.mem_singleton, or_imp,
    forall_and, forall_eq]
  refine ⟨hmethods.1, fun a' ha' => ?_⟩
  rcases List.mem_append.mp ha' with ha' | ha'
  · exact hmethods.2 a' ha'
  · rwa [List.mem_singleton.mp ha']

theorem Declaration.WellFormed.close (h : d.WellFormed) (hi : d.close = .ok i) : i.WellFormed := by
  obtain ⟨hne, rfl⟩ := eq_of_close hi
  have hheading := h.heading
  cases hd : d.heading with
  | target name =>
    rw [hd] at hheading
    exact ⟨hheading, hne, h.methods⟩
  | recipe name parameters column =>
    rw [hd] at hheading
    exact ⟨hheading.1, hheading.2, hne, h.methods⟩

namespace Reader

theorem wellFormed_concat (hitems : ∀ i ∈ items, i.WellFormed) (hi : i.WellFormed) :
    WellFormed ⟨items ++ [i], .top⟩ := by
  refine ⟨fun j hj => ?_, trivial⟩
  rcases List.mem_append.mp hj with hj | hj
  · exact hitems j hj
  · rwa [List.mem_singleton.mp hj]

theorem WellFormed.closes (h : r.WellFormed) (hc : Closes r t) : t.WellFormed := by
  induction hc with
  | nothing r => exact h
  | block _ ih => exact ih ⟨h.items, h.mode⟩
  | declaration hclose => exact wellFormed_concat h.items (h.mode.close hclose)

theorem wellFormed_of_begins (h : m.WellFormed) (hp : Begins n m p) : p.WellFormed := by
  cases hp with
  | shortcut hname => exact hname
  | inline d method => exact h
  | block b => exact h

theorem wellFormed_of_put (hitems : ∀ i ∈ items, i.WellFormed) (hp : p.WellFormed)
    (ha : a.WellFormed) (h : put items column a p = .ok s) : s.WellFormed := by
  cases p with
  | shortcut name line =>
    cases a with
    | shell script => cases h
    | call invocation =>
      cases h
      exact wellFormed_concat hitems ⟨hp, ha⟩
  | inline declaration method line =>
    cases h
    have hbody : MethodBody.WellFormed ⟨method, [a], line⟩ := by simpa [MethodBody.WellFormed]
    exact ⟨hitems, Declaration.WellFormed.add hp hbody⟩
  | block b =>
    cases h
    exact ⟨hitems, Block.wellFormed_close_add hp ha⟩

theorem WellFormed.adds (h : t.WellFormed) (hl : l.IsTrimmed) (ha : Adds l t s) :
    s.WellFormed := by
  obtain ⟨hitems, hmode⟩ := h
  cases ha with
  | nothing r => exact ⟨hitems, hmode⟩
  | heading items hheading _ => exact ⟨hitems, hheading, by simp⟩
  | relation items hrelation => exact wellFormed_concat hitems hrelation
  | header items d method =>
    have hbody : MethodBody.WellFormed ⟨method, [], l.number⟩ := by simp [MethodBody.WellFormed]
    exact ⟨hitems, Declaration.WellFormed.add hmode hbody⟩
  | action hp ha hs => exact wellFormed_of_put hitems (wellFormed_of_begins hmode hp) (ha hl) hs
  | opening items hp hname _ => exact ⟨hitems, wellFormed_of_begins hmode hp, hname⟩
  | more items p c inner depth => exact ⟨hitems, hmode.1, hmode.2⟩
  | @closing items p c inner s hs =>
    have hcall : (Action.call (invocation c.name inner)).WellFormed :=
      wellFormed_invocation hmode.2 inner
    exact wellFormed_of_put hitems hmode.1 hcall hs

theorem WellFormed.feed (h : r.WellFormed) (hl : l.IsTrimmed) (hs : feed r l = .ok s) :
    s.WellFormed := by
  obtain ⟨t, hclose, hadd⟩ := exists_of_feed hs
  exact (h.closes hclose).adds hl hadd

theorem WellFormed.foldlM {ls : List Line} (h : r.WellFormed) (hls : ∀ l ∈ ls, l.IsTrimmed)
    (hs : ls.foldlM Reader.feed r = .ok s) : s.WellFormed := by
  induction ls generalizing r with
  | nil =>
    cases hs
    exact h
  | cons l ls ih =>
    obtain ⟨hl, hls⟩ := List.forall_mem_cons.mp hls
    rw [List.foldlM_cons] at hs
    obtain ⟨t, ht, hs⟩ := exists_of_bind_ok hs
    exact ih (h.feed hl ht) hls hs

/-! ## Lines -/

theorem lines_of_closes (h : Closes r t) : t.lines = r.lines := by
  induction h with
  | nothing r => rfl
  | block _ ih => exact ih
  | @declaration items d i hclose =>
    have hlines : i.lines = d.lines := by
      rw [Item.lines, Declaration.methods_of_close hclose, (Declaration.eq_of_close hclose).2]
      cases d.heading <;> rfl
    simp [Reader.lines, Mode.lines, hlines]

theorem lines_of_begins (h : Begins n m p) : p.lines = m.lines ∨ p.lines = m.lines ++ [n] := by
  cases h with
  | shortcut _ => exact .inr rfl
  | inline d method => exact .inr rfl
  | block b => exact .inl rfl

theorem lines_of_put (h : put items column a p = .ok s) :
    s.lines = items.flatMap Item.lines ++ p.lines := by
  cases p with
  | shortcut name line =>
    cases a with
    | shell script => cases h
    | call invocation =>
      cases h
      simp [Reader.lines, Mode.lines, Place.lines, Item.lines, Item.line, Item.methods]
  | inline declaration method line =>
    cases h
    simp [Reader.lines, Mode.lines, Place.lines, Declaration.lines, Declaration.add]
  | block b =>
    cases h
    simp [Reader.lines, Mode.lines, Place.lines, Declaration.lines, Declaration.add, Block.close,
      Block.add]

/-- On one line no more than one thing begins. -/
theorem lines_of_adds (h : Adds l t s) : s.lines = t.lines ∨ s.lines = t.lines ++ [l.number] := by
  have hplace {items : List Item} {m : Mode} {p : Place} (hp : Begins l.number m p) :
      items.flatMap Item.lines ++ p.lines = Reader.lines ⟨items, m⟩ ∨
        items.flatMap Item.lines ++ p.lines = Reader.lines ⟨items, m⟩ ++ [l.number] := by
    rcases lines_of_begins hp with hlines | hlines
    · exact .inl (by rw [hlines, Reader.lines])
    · exact .inr (by rw [hlines, Reader.lines, List.append_assoc])
  cases h with
  | nothing r => exact .inl rfl
  | heading items _ _ => exact .inr (by simp [Reader.lines, Mode.lines, Declaration.lines])
  | relation items _ =>
    exact .inr (by simp [Reader.lines, Mode.lines, Item.lines, Item.line, Item.methods])
  | header items d method =>
    exact .inr (by simp [Reader.lines, Mode.lines, Declaration.lines, Declaration.add, Block.close])
  | action hp _ hs =>
    rw [lines_of_put hs]
    exact hplace hp
  | opening items hp _ _ => exact hplace hp
  | more items p c inner depth => exact .inl rfl
  | closing hs => exact .inl (lines_of_put hs)

theorem lines_of_feed (h : feed r l = .ok s) :
    s.lines = r.lines ∨ s.lines = r.lines ++ [l.number] := by
  obtain ⟨t, hclose, hadd⟩ := exists_of_feed h
  rw [← lines_of_closes hclose]
  exact lines_of_adds hadd

/-- Things that begin on later lines come later. -/
theorem lines_of_foldlM {ls : List (List Char)} {first : Nat}
    (h : (Line.ofTexts first ls).foldlM feed r = .ok s) (hr : r.lines.Pairwise (· < ·))
    (hfirst : ∀ n ∈ r.lines, n < first) : s.lines.Pairwise (· < ·) := by
  induction ls generalizing r first with
  | nil =>
    cases h
    exact hr
  | cons raw ls ih =>
    rw [Line.ofTexts, List.foldlM_cons] at h
    obtain ⟨t, ht, h⟩ := exists_of_bind_ok h
    rcases lines_of_feed ht with hlines | hlines
    · refine ih h (hlines ▸ hr) fun n hn => ?_
      exact Nat.lt_succ_of_lt (hfirst n (hlines ▸ hn))
    · have hnumber : (Line.ofText first raw).number = first := rfl
      rw [hnumber] at hlines
      refine ih h ?_ fun n hn => ?_
      · rw [hlines, List.pairwise_append]
        exact ⟨hr, List.pairwise_singleton .., by simpa using hfirst⟩
      · rw [hlines, List.mem_append, List.mem_singleton] at hn
        rcases hn with hn | rfl
        · exact Nat.lt_succ_of_lt (hfirst n hn)
        · exact Nat.lt_succ_self n

end Reader

/-! ## Documents -/

variable {text : String} {document : Document}

theorem items_of_parse (h : parse text = .ok document) : ∀ i ∈ document, i.WellFormed := by
  obtain ⟨r, hr, hfinish⟩ := exists_of_bind_ok h
  have hstart : Reader.start.WellFormed := ⟨by simp [Reader.start], trivial⟩
  have hread := hstart.foldlM
    (fun l hl => Line.isTrimmed_of_mem_ofTexts (fun _ => Text.not_mem_lines) hl) hr
  exact (hread.closes (Reader.closes_of_finish hfinish)).items

theorem lines_of_parse (h : parse text = .ok document) :
    (document.flatMap Item.lines).Pairwise (· < ·) := by
  obtain ⟨r, hr, hfinish⟩ := exists_of_bind_ok h
  have hread := Reader.lines_of_foldlM hr .nil (by simp [Reader.start, Reader.lines, Mode.lines])
  rw [← Reader.lines_of_closes (Reader.closes_of_finish hfinish)] at hread
  simpa [Reader.lines, Mode.lines] using hread

/-- Each script of a document that has been read is a line. -/
theorem isLine_of_parse (h : parse text = .ok document) :
    ∀ a ∈ document.flatMap Item.actions, a.IsLine := by
  intro a ha
  obtain ⟨i, hi, ha⟩ := List.mem_flatMap.mp ha
  obtain ⟨b, hb, ha⟩ := List.mem_flatMap.mp ha
  have hbody : b.WellFormed := by
    have hitem := items_of_parse h i hi
    cases i with
    | recipe name parameters methods line => exact hitem.2.2.2 b hb
    | target name methods line => exact hitem.2.2 b hb
    | shortcut name invocation line => simp [Item.methods] at hb
    | dependency relation line => simp [Item.methods] at hb
  have haction := hbody a ha
  cases a with
  | shell script => exact haction
  | call invocation => exact trivial

/-- Each dependency of a document that has been read relates a name to one name or more. -/
theorem related_of_parse (h : parse text = .ok document) :
    ∀ r ∈ document.filterMap Item.relation?, r.WellFormed := by
  intro r hr
  obtain ⟨i, hi, hrelation⟩ := List.mem_filterMap.mp hr
  have hitem := items_of_parse h i hi
  cases i with
  | dependency relation line =>
    obtain rfl : relation = r := by simpa [Item.relation?] using hrelation
    exact hitem
  | recipe name parameters methods line => simp [Item.relation?] at hrelation
  | target name methods line => simp [Item.relation?] at hrelation
  | shortcut name invocation line => simp [Item.relation?] at hrelation

/-- Whatever text is read, the document is well formed. -/
theorem wellFormed_of_parse (h : parse text = .ok document) : document.WellFormed :=
  ⟨items_of_parse h, lines_of_parse h⟩

/-- A document with an item of each kind, in which two calls go over several lines, one of them with
a comment between, and a method holds nothing. -/
theorem wellFormed_kitchen :
    let document : Document :=
      [.recipe "brew" ["leaf"]
          [⟨.setup, [.call ⟨"steep", [["leaf"], ["cup"], []]⟩], 2⟩,
            ⟨.isSetup, [.shell "test # three", .call ⟨"pour", [["cup"]]⟩], 5⟩] 1,
        .target "pot" [⟨.setup, [.shell "lid)"], 10⟩, ⟨.isSetup, [], 11⟩] 9,
        .shortcut "tea" ⟨"brew", [["(green)"]]⟩ 12,
        .dependency ⟨"tea", .dependedUpon, ["-pot", "cup"]⟩ 15]
    parse ("recipe brew(leaf):\n  setup: steep(leaf # one\n # two\n,cup ,)\n" ++
        "  is_setup:\n   test # three \n  # four\n   pour(cup)\n" ++
        "pot:\n  setup: lid)\n  is_setup:\n" ++
        "tea:brew(\n\n(green)) # five\ntea<--pot\u00a0cup\r\n") = .ok document ∧
      document.WellFormed :=
  (and_iff_left_of_imp wellFormed_of_parse).mpr (by decide +kernel)

end Document

end Provision
