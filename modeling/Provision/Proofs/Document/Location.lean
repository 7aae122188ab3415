import Provision.Proofs.Document.Step

namespace Provision

/-- A column of the text of a line is one of the line as it stands in the document. -/
theorem Line.HasColumn.isColumn {n column : Nat} {raw : List Char}
    (h : (ofText n raw).HasColumn column) : Text.IsColumn raw column := by
  obtain ⟨k, hk, rfl⟩ := h
  have htext : Text.IsColumn (Text.trimStart raw) k := hk.mono (Text.isPrefix_trimEnd _)
  have hraw := htext.append_left (Text.margin raw)
  rwa [Text.margin_append_trimStart] at hraw

theorem Line.exists_of_mem_ofTexts {first : Nat} {ls : List (List Char)} {l : Line}
    (h : l ∈ ofTexts first ls) : ∃ i raw, ls[i]? = some raw ∧ l = ofText (first + i) raw := by
  induction ls generalizing first with
  | nil => simp [ofTexts] at h
  | cons raw ls ih =>
    rcases List.mem_cons.mp h with rfl | h
    · exact ⟨0, raw, rfl, rfl⟩
    · obtain ⟨i, raw', hraw, rfl⟩ := ih h
      exact ⟨i + 1, raw', hraw, by rw [Nat.add_assoc, Nat.add_comm 1]⟩

namespace Document

/-- A step that fails does so at once, or in what follows it. -/
theorem exists_of_bind_error {ε α β : Type} {x : Except ε α} {k : α → Except ε β} {e : ε}
    (h : (x >>= k) = .error e) : x = .error e ∨ ∃ a, x = .ok a ∧ k a = .error e := by
  cases x with
  | error e' => exact .inl (by cases h; rfl)
  | ok a => exact .inr ⟨a, rfl, h⟩

variable {items : List Item} {r s t : Reader} {l : Line} {ls : List Line} {d : Declaration}
  {p : Place} {m : Mode} {c : OpenInvocation} {a : Action} {e : ParseError}
  {text rest : List Char} {line column n : Nat}

/-! ## What is read in one piece -/

/-- An error in a heading stands where the name of the recipe begins or ends. -/
theorem isColumn_of_readRecipeHeading_error {before : List Char}
    (htext : text = before ++ Text.trimStart rest)
    (h : readRecipeHeading line text rest = .error e) :
    e.line = line ∧ Text.IsColumn text e.column := by
  unfold readRecipeHeading at h
  dsimp only at h
  split at h
  · cases h
    exact ⟨rfl, Text.isColumn_of_append htext⟩
  · split at h
    · cases h
      have hname := Text.splitName_append (Text.trimStart rest)
      refine ⟨rfl, before ++ (Text.splitName (Text.trimStart rest)).1, ?_, ?_⟩
      · rw [htext]
        exact (List.prefix_append_right_inj before).mpr ⟨_, hname⟩
      · rw [htext, Text.width_append, Nat.add_sub_cancel, Text.width_append]
        exact Nat.add_right_comm ..
    · split at h
      · cases h
        exact ⟨rfl, Text.isColumn_of_append htext⟩
      · cases h

theorem eq_append_of_splitArrow? {before : List Char} {arrow : Arrow}
    (h : splitArrow? text = some (before, arrow, rest)) :
    text = before ++ arrow.symbol.toList ++ rest := by
  fun_induction splitArrow? text generalizing before arrow rest with
  | case1 cs =>
    cases h
    rfl
  | case2 cs =>
    cases h
    rfl
  | case3 c cs _ _ ih =>
    obtain ⟨⟨before', arrow', rest'⟩, hsplit, heq⟩ := Option.map_eq_some_iff.mp h
    cases heq
    rw [ih hsplit]
    rfl
  | case4 => cases h

/-- An error in a dependency stands at its beginning, at an operand, or behind the arrow. -/
theorem isColumn_of_readDependency_error (h : readDependency line text = .error e) :
    e.line = line ∧ Text.IsColumn text e.column := by
  unfold readDependency at h
  split at h
  · cases h
  · next before arrow rest hsplit =>
    have htext := eq_append_of_splitArrow? hsplit
    dsimp only at h
    split at h
    · cases h
      exact ⟨rfl, Text.isColumn_one _⟩
    · split at h
      · next other hother =>
        cases h
        refine ⟨rfl, _, ?_, rfl⟩
        cases hbefore : Text.before? other text with
        | none =>
          rw [htext, List.append_assoc]
          exact List.prefix_append ..
        | some preceding => exact Text.isPrefix_of_before? hbefore
      · split at h
        · cases h
          refine ⟨rfl, before ++ arrow.symbol.toList, htext ▸ List.prefix_append .., ?_⟩
          cases arrow <;> simp [Arrow.symbol] <;> rfl
        · cases h

theorem Declaration.place_of_close_error (h : d.close = .error e) :
    e.line = d.line ∧ e.column = d.heading.column := by
  obtain ⟨heading, line, methods⟩ := d
  cases methods with
  | nil => cases heading <;> cases h <;> exact ⟨rfl, rfl⟩
  | cons b bs => cases heading <;> cases h

namespace Reader

/-- Only a script right after the name of a target is out of place. -/
theorem place_of_put_error (h : put items column a p = .error e) :
    ∃ name script, p = .shortcut name e.line ∧ a = .shell script ∧ e.column = column := by
  cases p with
  | shortcut name line =>
    cases a with
    | shell script =>
      cases h
      exact ⟨name, script, rfl, rfl, rfl⟩
    | call invocation => cases h
  | inline declaration method line => cases h
  | block b => cases h

theorem place_of_readStatement_error (hp : Begins line m p)
    (h : readStatement items line column text p = .error e) :
    e.line = line ∧ e.column = column := by
  unfold readStatement at h
  split at h
  · obtain ⟨name, script, rfl, -, hcolumn⟩ := place_of_put_error h
    cases hp with
    | shortcut _ => exact ⟨rfl, hcolumn⟩
  · cases h

theorem place_of_readItem_error (h : readItem items l = .error e) :
    e.line = l.number ∧ l.HasColumn e.column := by
  unfold readItem at h
  dsimp only at h
  split at h
  · cases h
    exact ⟨rfl, l.hasColumn_indent⟩
  · next hindent =>
    have hcolumn {column : Nat} (h : Text.IsColumn l.text column) : l.HasColumn column :=
      Line.hasColumn_of_indent (not_not.mp hindent) h
    have hprefix := isPrefix_dropAnyComment l.text
    split at h
    · next rest hrecipe =>
      rcases exists_of_bind_error h with h | ⟨heading, -, h⟩
      · obtain ⟨before, htext⟩ := exists_append_of_recipeHeading? hrecipe
        obtain ⟨hline, hheading⟩ := isColumn_of_readRecipeHeading_error htext h
        exact ⟨hline, hcolumn (hheading.mono hprefix)⟩
      · cases h
    · split at h
      · next name rest hsplit =>
        split at h
        · cases h
        · have hname : IsName (String.ofList name) := by
            simpa [IsName] using (exists_of_splitHeading? hsplit).1
          obtain ⟨hline, hstatement⟩ := place_of_readStatement_error (.shortcut hname) h
          exact ⟨hline, hstatement ▸ hcolumn (isColumn_of_splitHeading? hsplit)⟩
      · rcases exists_of_bind_error h with h | ⟨item, -, h⟩
        · obtain ⟨hline, hdependency⟩ := isColumn_of_readDependency_error h
          exact ⟨hline, hcolumn (hdependency.mono hprefix)⟩
        · cases item with
          | none =>
            cases h
            exact ⟨rfl, hcolumn (Text.isColumn_one _)⟩
          | some item => cases h

theorem place_of_readMethod_error (h : readMethod items d l = .error e) :
    e.line = l.number ∧ l.HasColumn e.column := by
  unfold readMethod at h
  split at h
  · cases h
    exact ⟨rfl, l.hasColumn_indent⟩
  · next name rest hsplit =>
    split at h
    · cases h
      exact ⟨rfl, l.hasColumn_indent⟩
    · next method _ =>
      dsimp only at h
      split at h
      · cases h
      · obtain ⟨hline, hstatement⟩ := place_of_readStatement_error (.inline d method) h
        exact ⟨hline, hstatement ▸ hasColumn_of_splitHeading? hsplit⟩

/-- Behind the parenthesis that closes an invocation, the text of a line can only be too long. -/
theorem place_of_continueInvocation_error (h : continueInvocation items p c l = .error e) :
    e.line = l.number ∧ l.HasColumn e.column := by
  unfold continueInvocation at h
  dsimp only at h
  split at h
  · cases h
  · next inner tail hclosing =>
    split at h
    · obtain ⟨_, _, -, hscript, -⟩ := place_of_put_error h
      cases hscript
    · cases h
      have hprefix : inner ++ [')'] <+: dropComment l.text :=
        ⟨tail, by simp [eq_append_of_closing hclosing]⟩
      refine ⟨rfl, Text.width inner + 2,
        ⟨inner ++ [')'], hprefix.trans (isPrefix_dropComment l.text), ?_⟩, Nat.add_assoc ..⟩
      simp
      rfl

end Reader

/-! ## What can still be reported -/

/-- One of the lines says something, and has this number and this column. -/
def HasPlace (ls : List Line) (line column : Nat) : Prop :=
  ∃ l ∈ ls, l.isCode ∧ line = l.number ∧ l.HasColumn column

/-- A declaration without methods is reported at its heading. -/
def Declaration.IsPlaced (ls : List Line) (d : Declaration) : Prop :=
  HasPlace ls d.line d.heading.column

def Place.IsPlaced (ls : List Line) : Place → Prop
  | .shortcut _ _ => True
  | .inline declaration _ _ => declaration.IsPlaced ls
  | .block b => b.declaration.IsPlaced ls

/-- What is being read began in the lines, so that what is amiss with it can be reported there. -/
def Mode.IsPlaced (ls : List Line) : Mode → Prop
  | .top => True
  | .methods declaration => declaration.IsPlaced ls
  | .block b => b.declaration.IsPlaced ls
  | .invocation place call => place.IsPlaced ls ∧ HasPlace ls call.line call.column

theorem Declaration.IsPlaced.error (hd : d.IsPlaced ls) (h : d.close = .error e) :
    HasPlace ls e.line e.column := by
  obtain ⟨hline, hcolumn⟩ := place_of_close_error h
  rw [hline, hcolumn]
  exact hd

theorem Mode.IsPlaced.skipLine (h : m.IsPlaced ls) : m.skipLine.IsPlaced ls := by
  cases m with
  | top => exact trivial
  | methods d => exact h
  | block b => exact h
  | invocation p c => exact h

namespace Reader

theorem isPlaced_of_closes (h : Closes r t) (hr : r.mode.IsPlaced ls) : t.mode.IsPlaced ls := by
  induction h with
  | nothing r => exact hr
  | block _ ih => exact ih hr
  | declaration _ => exact trivial

theorem isPlaced_of_begins (h : Begins n m p) (hm : m.IsPlaced ls) : p.IsPlaced ls := by
  cases h with
  | shortcut _ => exact trivial
  | inline d method => exact hm
  | block b => exact hm

theorem isPlaced_of_put (h : put items column a p = .ok s) (hp : p.IsPlaced ls) :
    s.mode.IsPlaced ls := by
  cases p with
  | shortcut name line =>
    cases a with
    | shell script => cases h
    | call invocation =>
      cases h
      exact trivial
  | inline declaration method line =>
    cases h
    exact hp
  | block b =>
    cases h
    exact hp

theorem isPlaced_of_adds (hl : l ∈ ls) (hcode : l.isCode) (h : Adds l t s)
    (ht : t.mode.IsPlaced ls) : s.mode.IsPlaced ls := by
  cases h with
  | nothing r => exact ht
  | heading items _ hcolumn => exact ⟨l, hl, hcode, rfl, hcolumn⟩
  | relation items _ => exact trivial
  | header items d method => exact ht
  | action hp _ hs => exact isPlaced_of_put hs (isPlaced_of_begins hp ht)
  | opening items hp _ hcolumn =>
    exact ⟨isPlaced_of_begins hp ht, l, hl, hcode, rfl, hcolumn⟩
  | more items p c inner depth => exact ht
  | closing hs => exact isPlaced_of_put hs ht.1

theorem isPlaced_of_feed (hl : l ∈ ls) (h : feed r l = .ok s) (hr : r.mode.IsPlaced ls) :
    s.mode.IsPlaced ls := by
  rcases l.kinds with hcomment | hempty | hcode
  · rw [feed_comment hcomment] at h
    cases h
    exact hr
  · rw [feed_empty hempty] at h
    cases h
    exact hr.skipLine
  · obtain ⟨t, hclose, hadd⟩ := exists_of_feed h
    exact isPlaced_of_adds hl hcode hadd (isPlaced_of_closes hclose hr)

/-- A line is either at fault itself, or it is the first not to belong to a declaration that is. -/
theorem hasPlace_of_feed_error (hl : l ∈ ls) (h : feed r l = .error e)
    (hr : r.mode.IsPlaced ls) : HasPlace ls e.line e.column := by
  rcases l.kinds with hcomment | hempty | hcode
  · rw [feed_comment hcomment] at h
    cases h
  · rw [feed_empty hempty] at h
    cases h
  · have hplace (h : e.line = l.number ∧ l.HasColumn e.column) : HasPlace ls e.line e.column :=
      ⟨l, hl, hcode, h⟩
    have hafter {items : List Item} {d : Declaration} (hd : d.IsPlaced ls)
        (h : afterMethod items d l = .error e) : HasPlace ls e.line e.column := by
      unfold afterMethod at h
      split at h
      · rcases exists_of_bind_error h with h | ⟨item, -, h⟩
        · exact hd.error h
        · exact hplace (place_of_readItem_error h)
      · exact hplace (place_of_readMethod_error h)
    obtain ⟨items, mode⟩ := r
    cases mode with
    | top =>
      rw [feed_top hcode] at h
      exact hplace (place_of_readItem_error h)
    | methods d =>
      rw [feed_methods hcode] at h
      exact hafter hr h
    | block b =>
      by_cases hindent : b.indent < l.indent
      · rw [feed_block hcode hindent] at h
        obtain ⟨hline, hcolumn⟩ := place_of_readStatement_error (.block b) h
        exact hplace ⟨hline, hcolumn ▸ l.hasColumn_indent⟩
      · rw [feed_dedent hcode (Nat.le_of_not_lt hindent)] at h
        have hclose : b.close.IsPlaced ls := hr
        exact hafter hclose h
    | invocation p c =>
      rw [feed_invocation (Line.isCode_iff.mp hcode).2] at h
      exact hplace (place_of_continueInvocation_error h)

theorem hasPlace_of_finish_error (h : r.finish = .error e) (hr : r.mode.IsPlaced ls) :
    HasPlace ls e.line e.column := by
  have hclose {items : List Item} {d : Declaration} (hd : d.IsPlaced ls)
      (h : (do return items ++ [← d.close] : Except ParseError Document) = .error e) :
      HasPlace ls e.line e.column := by
    rcases exists_of_bind_error h with h | ⟨item, -, h⟩
    · exact hd.error h
    · cases h
  obtain ⟨items, mode⟩ := r
  cases mode with
  | top => cases h
  | methods d => exact hclose hr h
  | block b =>
    have hblock : b.close.IsPlaced ls := hr
    exact hclose hblock h
  | invocation p c =>
    cases h
    exact hr.2

/-- What is reported while lines are read, or once they have been, has its place in them. -/
theorem hasPlace_of_foldlM {tail : List Line} (htail : ∀ l ∈ tail, l ∈ ls)
    (hr : r.mode.IsPlaced ls) (h : (tail.foldlM feed r >>= finish) = .error e) :
    HasPlace ls e.line e.column := by
  induction tail generalizing r with
  | nil => exact hasPlace_of_finish_error h hr
  | cons l tail ih =>
    obtain ⟨hl, htail⟩ := List.forall_mem_cons.mp htail
    rw [List.foldlM_cons, bind_assoc] at h
    rcases exists_of_bind_error h with h | ⟨s, hs, h⟩
    · exact hasPlace_of_feed_error hl h hr
    · exact ih htail (isPlaced_of_feed hl hs hr) h

end Reader

/-- What is wrong with a document is reported at a line of it that says something, and before one
of the characters of the line or behind the last one. -/
theorem location_of_parse {document : String} (h : parse document = .error e) :
    ∃ raw, 1 ≤ e.line ∧ e.line ≤ (Text.lines document.toList).length ∧
      (Text.lines document.toList)[e.line - 1]? = some raw ∧
      Text.isAllBlank raw = false ∧ (Text.trim raw).head? ≠ some '#' ∧
      1 ≤ e.column ∧ e.column ≤ (String.ofList raw).utf8ByteSize + 1 ∧
      ∃ before, before <+: raw ∧ (String.ofList before).utf8ByteSize = e.column - 1 := by
  obtain ⟨l, hl, hcode, hline, hcolumn⟩ :=
    Reader.hasPlace_of_foldlM (r := Reader.start) (fun _ => id) trivial h
  obtain ⟨i, raw, hraw, rfl⟩ := Line.exists_of_mem_ofTexts hl
  obtain ⟨hempty, hcomment⟩ := Line.isCode_iff.mp hcode
  have hnumber : e.line = 1 + i := hline
  have hindex : e.line - 1 = i := by omega
  have hlength : i < (Text.lines document.toList).length := (List.getElem?_eq_some_iff.mp hraw).1
  have hplace := hcolumn.isColumn
  refine ⟨raw, by omega, by omega, hindex ▸ hraw, ?_, ?_, hplace.one_le, ?_, ?_⟩
  · rw [← Bool.not_eq_true, ← Text.trim_eq_nil_iff]
    simpa [Line.isEmpty, Line.ofText] using hempty
  · simpa [Line.isComment, Line.ofText] using hcomment
  · rw [Text.utf8ByteSize_ofList]
    exact hplace.le_width
  · obtain ⟨before, hbefore, hcolumn⟩ := hplace
    refine ⟨before, hbefore, ?_⟩
    rw [Text.utf8ByteSize_ofList, hcolumn, Nat.add_sub_cancel]

/-- The fault of an invocation can be on a later line than its beginning. Here blanks of two and
three bytes stand before the text of either line, which has letters of two bytes. -/
theorem location_kettle :
    let document :=
      "\u3000# drinks\n\nkettle:\n\u00a0 setup: boil(t\u00e9\n\u2003\u2003l\u00fc) x\n"
    parse document = .error ⟨5, 11, .textAfterInvocation "boil"⟩ ∧
      ∃ raw, 1 ≤ 5 ∧ 5 ≤ (Text.lines document.toList).length ∧
        (Text.lines document.toList)[5 - 1]? = some raw ∧
        Text.isAllBlank raw = false ∧ (Text.trim raw).head? ≠ some '#' ∧
        1 ≤ 11 ∧ 11 ≤ (String.ofList raw).utf8ByteSize + 1 ∧
        ∃ before, before <+: raw ∧ (String.ofList before).utf8ByteSize = 11 - 1 :=
  (and_iff_left_of_imp fun h => location_of_parse h).mpr (by decide +kernel)

end Document

end Provision
