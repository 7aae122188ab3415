import Provision.Proofs.Document.RoundTrip

namespace Provision

/-- Blanks within a line. -/
def Text.IsSpace (cs : List Char) : Prop := ∀ c ∈ cs, isBlank c ∧ c ≠ '\n'

instance (cs : List Char) : Decidable (Text.IsSpace cs) :=
  decidable_of_iff (cs.all fun c => Text.isBlank c && c != '\n') (by simp [Text.IsSpace])

/-- What can stand between the parts of a call: blanks, line breaks, empty lines, and comments on
lines of their own. It begins with such a comment only where it begins a line, as `fresh` says. -/
inductive Text.IsGap : Bool → List Char → Prop
  | space {fresh : Bool} {cs : List Char} (h : IsSpace cs) : IsGap fresh cs
  | line {fresh : Bool} {cs rest : List Char} (h : IsSpace cs) (hrest : IsGap true rest) :
      IsGap fresh (cs ++ '\n' :: rest)
  | comment {cs text rest : List Char} (h : IsSpace cs) (htext : '\n' ∉ text)
      (hrest : IsGap true rest) : IsGap true (cs ++ '#' :: (text ++ '\n' :: rest))

/-- The tokens of a group, with gaps around them. Between two tokens the gap is not empty; `after`
says that a token stands right before the text. -/
inductive Text.SpellsGroup (Gap : List Char → Prop) : Bool → List String → List Char → Prop
  | nil {after : Bool} {gap : List Char} (hgap : Gap gap) : SpellsGroup Gap after [] gap
  | cons {after : Bool} {gap rest : List Char} {token : String} {tokens : List String}
      (hgap : Gap gap) (hne : after → gap ≠ []) (hrest : SpellsGroup Gap true tokens rest) :
      SpellsGroup Gap after (token :: tokens) (gap ++ (token.toList ++ rest))

/-- Groups with commas between them. -/
inductive Text.SpellsGroups (Gap : List Char → Prop) : List (List String) → List Char → Prop
  | nil {gap : List Char} (hgap : Gap gap) : SpellsGroups Gap [] gap
  | one {group : List String} {cs : List Char} (h : SpellsGroup Gap false group cs) :
      SpellsGroups Gap [group] cs
  | cons {group next : List String} {groups : List (List String)} {cs rest : List Char}
      (h : SpellsGroup Gap false group cs) (hrest : SpellsGroups Gap (next :: groups) rest) :
      SpellsGroups Gap (group :: next :: groups) (cs ++ ',' :: rest)

namespace Text

variable {a b cs gap rest y : List Char} {fresh after : Bool} {tokens : List String}
  {gs : List (List String)} {token : String}

theorem IsSpace.isAllBlank (h : IsSpace cs) : isAllBlank cs :=
  isAllBlank_iff.mpr fun c hc => (h c hc).1

theorem IsSpace.no_break (h : IsSpace cs) : '\n' ∉ cs := fun hmem => (h '\n' hmem).2 rfl

/-! ## Texts without breaks and comments -/

/-- What is neither in a gap nor in a token is not in a group. -/
theorem SpellsGroup.not_mem {Gap : List Char → Prop} {c : Char}
    (h : SpellsGroup Gap after tokens cs) (hc : ∀ gap, Gap gap → c ∉ gap)
    (htokens : ∀ token ∈ tokens, c ∉ token.toList) : c ∉ cs := by
  induction h with
  | nil hgap => exact hc _ hgap
  | cons hgap _ _ ih =>
    obtain ⟨htoken, htokens⟩ := List.forall_mem_cons.mp htokens
    simp [hc _ hgap, htoken, ih htokens]

theorem SpellsGroups.not_mem {c : Char} (h : SpellsGroups (Text.isAllBlank · = true) gs cs)
    (hc : isBlank c = false) (hcomma : c ≠ ',') (htokens : ∀ group ∈ gs, ∀ token ∈ group,
      c ∉ token.toList) : c ∉ cs := by
  induction h with
  | nil hgap => exact Document.not_mem_of_isAllBlank hc hgap
  | one h => exact h.not_mem (fun _ => Document.not_mem_of_isAllBlank hc) (htokens _ (by simp))
  | cons h _ ih =>
    obtain ⟨hgroup, hgroups⟩ := List.forall_mem_cons.mp htokens
    simp [h.not_mem (fun _ => Document.not_mem_of_isAllBlank hc) hgroup, hcomma, ih hgroups]

theorem runs_append_of_blank (h : Text.isAllBlank gap) (b : List Char) :
    runs isBlank (gap ++ b) = runs isBlank b := by
  induction gap with
  | nil => rfl
  | cons c gap ih =>
    obtain ⟨hc, hgap⟩ : isBlank c ∧ Text.isAllBlank gap := by simpa using h
    rw [List.cons_append, runs_cons_separator hc, ih hgap]

theorem runs_token (h : IsToken token) (hrest : ∀ c ∈ rest.head?, isBlank c) :
    runs isBlank (token.toList ++ rest) = token.toList :: runs isBlank rest :=
  runs_word (by simpa using h.1) (fun c hc => by simpa using (h.2 c hc).1) hrest

/-- A group is cut where its tokens end. -/
theorem SpellsGroup.runs_eq (h : SpellsGroup (Text.isAllBlank · = true) after tokens cs)
    (htokens : ∀ token ∈ tokens, IsToken token) :
    runs isBlank cs = tokens.map String.toList ∧ (after → ∀ c ∈ cs.head?, isBlank c) := by
  induction h with
  | nil hgap =>
    refine ⟨runs_eq_nil (isAllBlank_iff.mp hgap), fun _ c hc => ?_⟩
    exact isAllBlank_iff.mp hgap c (List.mem_of_mem_head? hc)
  | @cons after gap rest token tokens hgap hne _ ih =>
    obtain ⟨htoken, htokens⟩ := List.forall_mem_cons.mp htokens
    obtain ⟨hruns, hhead⟩ := ih htokens
    refine ⟨?_, fun hafter c hc => ?_⟩
    · rw [runs_append_of_blank hgap, runs_token htoken (hhead rfl), hruns]
      rfl
    · rw [List.head?_append_of_ne_nil _ (hne hafter)] at hc
      exact isAllBlank_iff.mp hgap c (List.mem_of_mem_head? hc)

theorem SpellsGroups.fields_eq (h : SpellsGroups (Text.isAllBlank · = true) gs cs) (hne : gs ≠ [])
    (htokens : ∀ group ∈ gs, ∀ token ∈ group, IsToken token) :
    (fields (· == ',') cs).map (fun group => (runs isBlank group).map String.ofList) = gs := by
  have hgroup {group : List String} {cs : List Char}
      (h : SpellsGroup (Text.isAllBlank · = true) false group cs)
      (htokens : ∀ token ∈ group, IsToken token) :
      fields (· == ',') cs = [cs] ∧ (runs isBlank cs).map String.ofList = group := by
    have hcomma : ',' ∉ cs :=
      h.not_mem (fun _ => Document.not_mem_of_isAllBlank (by decide))
        fun token ht hmem => ((htokens token ht).2 ',' hmem).2 rfl
    exact ⟨fields_of_not_mem hcomma, by simp [(h.runs_eq htokens).1]⟩
  induction h with
  | nil => exact absurd rfl hne
  | one h =>
    obtain ⟨hfields, hruns⟩ := hgroup h (htokens _ (by simp))
    rw [hfields, List.map_singleton, hruns]
  | cons h _ ih =>
    obtain ⟨hfirst, hmore⟩ := List.forall_mem_cons.mp htokens
    obtain ⟨hfields, hruns⟩ := hgroup h hfirst
    rw [fields_append_separator rfl, hfields, List.map_append, List.map_singleton, hruns,
      ih (by simp) hmore]
    rfl

theorem SpellsGroups.groups_eq (h : SpellsGroups (Text.isAllBlank · = true) gs cs)
    (hone : gs ≠ [[]]) (htokens : ∀ group ∈ gs, ∀ token ∈ group, IsToken token) :
    Document.groups cs = gs := by
  by_cases hne : gs = []
  · subst hne
    cases h with
    | nil hgap => simp [Document.groups, hgap]
  · have hfields := h.fields_eq hne htokens
    cases hblank : Text.isAllBlank cs with
    | false => simpa [Document.groups, hblank] using hfields
    | true =>
      have hcomma : ',' ∉ cs := Document.not_mem_of_isAllBlank (by decide) hblank
      rw [fields_of_not_mem hcomma, List.map_singleton, runs_eq_nil (isAllBlank_iff.mp hblank)]
        at hfields
      exact absurd hfields.symm hone

/-! ## What a call gathers from its lines -/

/-- The lines of a call from the second one on: comments are left out, and margins cut off. -/
def joinLines (pieces : List (List Char)) : List Char :=
  (pieces.filter fun piece => (trim piece).head? ≠ some '#').flatMap ('\n' :: trim ·)

/-- What a call gathers from a text that begins in its first line. -/
def gathered (cs : List Char) : List Char :=
  match fields (· == '\n') cs with
  | [] => []
  | first :: more => trimEnd first ++ joinLines more

theorem joinLines_cons_of_comment (h : (trim a).head? = some '#') (pieces : List (List Char)) :
    joinLines (a :: pieces) = joinLines pieces := by
  simp [joinLines, h]

theorem joinLines_cons (h : (trim a).head? ≠ some '#') (pieces : List (List Char)) :
    joinLines (a :: pieces) = '\n' :: (trim a ++ joinLines pieces) := by
  simp [joinLines, h]

theorem gathered_of_fields {f : List Char} {fs : List (List Char)}
    (h : fields (· == '\n') cs = f :: fs) : gathered cs = trimEnd f ++ joinLines fs := by
  rw [gathered, h]

/-- A text begins with something that is neither a blank nor a comment. -/
def IsSolid (cs : List Char) : Prop := ∃ c ∈ cs.head?, isBlank c = false ∧ c ≠ '#'

theorem IsSolid.append (h : IsSolid a) (b : List Char) : IsSolid (a ++ b) := by
  obtain ⟨c, hc, hsolid⟩ := h
  obtain ⟨rest, rfl⟩ := List.head?_eq_some_iff.mp hc
  exact ⟨c, rfl, hsolid⟩

/-- The first line of a text that begins solidly begins likewise. -/
theorem IsSolid.exists_fields (h : IsSolid y) :
    ∃ c f fs, fields (· == '\n') y = (c :: f) :: fs ∧ isBlank c = false ∧ c ≠ '#' := by
  obtain ⟨c, hc, hblank, hash⟩ := h
  obtain ⟨rest, rfl⟩ := List.head?_eq_some_iff.mp hc
  obtain ⟨f, fs, hf⟩ := List.exists_cons_of_ne_nil (fields_ne_nil (· == '\n') rest)
  have hbreak : '\n' ∉ [c] := by
    rw [List.mem_singleton]
    rintro rfl
    exact absurd hblank (by decide)
  exact ⟨c, f, fs, fields_append_of_not_mem hbreak hf, hblank, hash⟩

theorem gathered_append_of_trimEnd (h : trimEnd a = a) (hbreak : '\n' ∉ a) (b : List Char) :
    gathered (a ++ b) = a ++ gathered b := by
  obtain ⟨f, fs, hf⟩ := List.exists_cons_of_ne_nil (fields_ne_nil (· == '\n') b)
  rw [gathered_of_fields (fields_append_of_not_mem hbreak hf), gathered_of_fields hf,
    trimEnd_append_of_trimEnd h, List.append_assoc]

theorem gathered_space_append (h : IsSpace a) (hy : IsSolid y) :
    gathered (a ++ y) = a ++ gathered y := by
  obtain ⟨c, f, fs, hf, hblank, -⟩ := hy.exists_fields
  have hcf : Text.isAllBlank (c :: f) = false := by simp [hblank]
  rw [gathered_of_fields (fields_append_of_not_mem h.no_break hf), gathered_of_fields hf,
    trimEnd_append hcf, List.append_assoc]

/-- What is gathered from a gap that begins a line is a line break and more blanks. -/
theorem IsGap.exists_joinLines (h : IsGap fresh gap) (hy : IsSolid y) :
    ∃ gap', Text.isAllBlank gap' ∧
      joinLines (fields (· == '\n') (gap ++ y)) = '\n' :: (gap' ++ gathered y) := by
  induction h with
  | @space fresh cs h =>
    obtain ⟨c, f, fs, hf, hblank, hash⟩ := hy.exists_fields
    have htrim : trim (cs ++ c :: f) = trimEnd (c :: f) := by
      rw [trim_append_of_blank h.isAllBlank, trim, trimStart_cons, hblank]
      rfl
    have hcode : (trim (cs ++ c :: f)).head? ≠ some '#' := by
      rw [htrim, trimEnd_cons hblank]
      simpa using hash
    refine ⟨[], rfl, ?_⟩
    rw [fields_append_of_not_mem h.no_break hf, joinLines_cons hcode, htrim,
      gathered_of_fields hf]
    rfl
  | @line fresh cs rest h _ ih =>
    obtain ⟨gap', hgap', hjoin⟩ := ih
    have htrim : trim cs = [] := trim_eq_nil_iff.mpr h.isAllBlank
    refine ⟨'\n' :: gap', by simpa using ⟨by decide, hgap'⟩, ?_⟩
    rw [List.append_assoc, List.cons_append, fields_line h.no_break,
      joinLines_cons (by simp [htrim]), htrim, hjoin]
    rfl
  | @comment cs text rest h htext _ ih =>
    obtain ⟨gap', hgap', hjoin⟩ := ih
    refine ⟨gap', hgap', ?_⟩
    have hbreak : '\n' ∉ cs ++ '#' :: text := by simp [h.no_break, htext]
    have hcomment : (trim (cs ++ '#' :: text)).head? = some '#' := by
      simpa [Line.isComment, Line.ofText] using Line.isComment_ofText h.isAllBlank 0 text
    have htext : cs ++ '#' :: (text ++ '\n' :: rest) ++ y =
        cs ++ '#' :: text ++ '\n' :: (rest ++ y) := by simp
    rw [htext, fields_line hbreak, joinLines_cons_of_comment hcomment, hjoin]

/-- A gap is gathered as blanks, and not as none where there are some. -/
theorem IsGap.exists_gathered (h : IsGap false gap) (hy : IsSolid y) :
    ∃ gap', Text.isAllBlank gap' ∧ (gap ≠ [] → gap' ≠ []) ∧
      gathered (gap ++ y) = gap' ++ gathered y := by
  cases h with
  | space h => exact ⟨gap, h.isAllBlank, id, gathered_space_append h hy⟩
  | @line _ cs rest h hrest =>
    obtain ⟨gap', hgap', hjoin⟩ := hrest.exists_joinLines hy
    refine ⟨'\n' :: gap', by simpa using ⟨by decide, hgap'⟩, by simp, ?_⟩
    have hfields := fields_line h.no_break (rest ++ y)
    rw [List.append_assoc, List.cons_append, gathered_of_fields hfields,
      trimEnd_eq_nil_iff.mpr h.isAllBlank, hjoin]
    rfl

theorem gathered_token_append (h : IsToken token) (b : List Char) :
    gathered (token.toList ++ b) = token.toList ++ gathered b := by
  have hblank : ∀ c ∈ token.toList, isBlank c = false := fun c hc => by simpa using (h.2 c hc).1
  have hbreak : '\n' ∉ token.toList := fun hmem => absurd (hblank '\n' hmem) (by decide)
  exact gathered_append_of_trimEnd (trimEnd_eq_self hblank) hbreak b

theorem isSolid_token (h : IsToken token) (hash : '#' ∉ token.toList) : IsSolid token.toList := by
  obtain ⟨c, cs, hcs⟩ := List.exists_cons_of_ne_nil (by simpa using h.1 : token.toList ≠ [])
  have hc : c ∈ token.toList := by simp [hcs]
  refine ⟨c, by simp [hcs], by simpa using (h.2 c hc).1, ?_⟩
  rintro rfl
  exact hash hc

theorem SpellsGroup.exists_gathered (h : SpellsGroup (IsGap false) after tokens cs)
    (htokens : ∀ token ∈ tokens, IsToken token ∧ '#' ∉ token.toList) (hy : IsSolid y) :
    ∃ cs', SpellsGroup (Text.isAllBlank · = true) after tokens cs' ∧
      gathered (cs ++ y) = cs' ++ gathered y := by
  induction h with
  | nil hgap =>
    obtain ⟨gap', hgap', -, hgathered⟩ := hgap.exists_gathered hy
    exact ⟨gap', .nil hgap', hgathered⟩
  | @cons after gap rest token tokens hgap hne _ ih =>
    obtain ⟨⟨htoken, hash⟩, htokens⟩ := List.forall_mem_cons.mp htokens
    obtain ⟨rest', hrest', hgathered⟩ := ih htokens
    have hsolid : IsSolid (token.toList ++ (rest ++ y)) := (isSolid_token htoken hash).append _
    obtain ⟨gap', hgap', hne', hgap⟩ := hgap.exists_gathered hsolid
    refine ⟨gap' ++ (token.toList ++ rest'), .cons hgap' (fun ha => hne' (hne ha)) hrest', ?_⟩
    rw [List.append_assoc, List.append_assoc, hgap, gathered_token_append htoken, hgathered]
    simp only [List.append_assoc]

/-- However a call is laid out, what it gathers are its tokens and commas with blanks between
them. -/
theorem SpellsGroups.exists_gathered (h : SpellsGroups (IsGap false) gs cs)
    (htokens : ∀ group ∈ gs, ∀ token ∈ group, IsToken token ∧ '#' ∉ token.toList)
    (hy : IsSolid y) :
    ∃ cs', SpellsGroups (Text.isAllBlank · = true) gs cs' ∧
      gathered (cs ++ y) = cs' ++ gathered y := by
  induction h with
  | nil hgap =>
    obtain ⟨gap', hgap', -, hgathered⟩ := hgap.exists_gathered hy
    exact ⟨gap', .nil hgap', hgathered⟩
  | one h =>
    obtain ⟨cs', hcs', hgathered⟩ := h.exists_gathered (htokens _ (by simp)) hy
    exact ⟨cs', .one hcs', hgathered⟩
  | @cons group next groups cs rest h _ ih =>
    obtain ⟨hgroup, hgroups⟩ := List.forall_mem_cons.mp htokens
    obtain ⟨rest', hrest', hgathered⟩ := ih hgroups
    have hcomma : IsSolid (',' :: (rest ++ y)) := ⟨',', rfl, by decide, by decide⟩
    obtain ⟨cs', hcs', hgroup⟩ := h.exists_gathered hgroup hcomma
    have hjoined : gathered ([','] ++ (rest ++ y)) = [','] ++ gathered (rest ++ y) :=
      gathered_append_of_trimEnd (by decide) (by decide) _
    refine ⟨cs' ++ ',' :: rest', .cons hcs' hrest', ?_⟩
    rw [List.append_assoc, List.cons_append, hgroup, ← List.singleton_append, hjoined, hgathered]
    simp

end Text

/-! ## Reading what is gathered -/

namespace Document

variable {items : List Item} {n depth column : Nat} {r : Reader} {p : Place} {c : OpenInvocation}
  {a cs f inner l text : List Char} {fs ls : List (List Char)} {call : Invocation}

theorem isBalanced_filter (cs : List Char) (depth : Nat) :
    Text.isBalanced depth (cs.filter (!Text.isBlank ·)) = Text.isBalanced depth cs := by
  induction cs generalizing depth with
  | nil => rfl
  | cons c cs ih =>
    cases hc : Text.isBlank c with
    | true =>
      have hopen : c ≠ '(' := by
        rintro rfl
        exact absurd hc (by decide)
      have hclose : c ≠ ')' := by
        rintro rfl
        exact absurd hc (by decide)
      rw [List.filter_cons_of_neg (by simp [hc]), ih]
      simp [Text.isBalanced, hopen, hclose]
    | false =>
      rw [List.filter_cons_of_pos (by simp [hc])]
      simp only [Text.isBalanced, ih]

/-- Blanks have no part in whether the parentheses of a text match, and the groups of a text tell
all else. -/
theorem isBalanced_of_groups (h : call.WellFormed) (hprint : call.Printable)
    (hgroups : groups cs = call.groups) : Text.isBalanced 0 cs := by
  have hfilter : cs.filter (!Text.isBlank ·) =
      (",".intercalate call.values).toList.filter (!Text.isBlank ·) := by
    rw [← intercalate_groups, ← intercalate_groups, hgroups, groups_values h]
  rw [← isBalanced_filter, hfilter, isBalanced_filter]
  exact hprint.balanced

theorem Closing.exists_of_after {x : Closing} {rest : List Char}
    (h : x.after a = .closed inner rest) : ∃ more, x = .closed more rest ∧ inner = a ++ more := by
  cases x with
  | unclosed depth => cases h
  | closed more rest =>
    cases h
    exact ⟨more, rfl, rfl⟩

theorem isComment_ofText_iff (n : Nat) (a : List Char) :
    (Line.ofText n a).isComment ↔ (Text.trim a).head? = some '#' := by
  simp [Line.isComment, Line.ofText]

namespace Reader

theorem foldlM_of_joinLines (h : Text.joinLines ls = []) (r : Reader) (n : Nat) :
    (Line.ofTexts n ls).foldlM feed r = .ok r := by
  induction ls generalizing n with
  | nil => rfl
  | cons a ls ih =>
    by_cases ha : (Text.trim a).head? = some '#'
    · rw [Text.joinLines_cons_of_comment ha] at h
      rw [Line.ofTexts, List.foldlM_cons, feed_comment ((isComment_ofText_iff n a).mpr ha)]
      exact ih h (n + 1)
    · rw [Text.joinLines_cons ha] at h
      cases h

/-- Behind the end of a call only comments are left. -/
theorem bind_of_joinLines (h : Text.joinLines ls = []) (x : Except ParseError Reader) (n : Nat) :
    (x >>= fun r => (Line.ofTexts n ls).foldlM feed r) = x := by
  simp only [foldlM_of_joinLines h]
  exact bind_pure x

/-- A call goes on as though its lines were one text. -/
theorem foldlM_joinLines (hash : '#' ∉ Text.joinLines ls)
    (h : closing c.depth (Text.joinLines ls) = .closed inner []) (n : Nat) :
    (Line.ofTexts n ls).foldlM feed ⟨items, .invocation p c⟩ =
      put items c.column (.call (invocation c.name (c.inner ++ inner))) p := by
  induction ls generalizing c inner n with
  | nil => simp [Text.joinLines, closing] at h
  | cons a ls ih =>
    by_cases ha : (Text.trim a).head? = some '#'
    · rw [Text.joinLines_cons_of_comment ha] at h hash
      rw [Line.ofTexts, List.foldlM_cons, feed_comment ((isComment_ofText_iff n a).mpr ha)]
      exact ih hash h (n + 1)
    · have hcode : (Line.ofText n a).isComment = false := by
        simpa [← isComment_ofText_iff n a] using ha
      rw [Text.joinLines_cons ha] at h hash
      obtain ⟨hline, hmore⟩ : '#' ∉ Text.trim a ∧ '#' ∉ Text.joinLines ls := by simpa using hash
      have hdrop : dropComment (Line.ofText n a).text = Text.trim a := dropComment_of_not_mem hline
      have hbreak : closing c.depth ('\n' :: Text.trim a) =
          (closing c.depth (Text.trim a)).cons '\n' := by simp [closing]
      rw [← List.cons_append, closing_append, hbreak] at h
      rw [Line.ofTexts, List.foldlM_cons, feed_invocation hcode, continueInvocation, hdrop]
      cases hclosing : closing c.depth (Text.trim a) with
      | unclosed depth =>
        rw [hclosing] at h
        obtain ⟨more, hclosed, rfl⟩ := Closing.exists_of_after h
        have hrest := ih (c := { c with inner := c.inner ++ '\n' :: Text.trim a, depth }) hmore
          hclosed (n + 1)
        rw [List.append_assoc] at hrest
        exact hrest
      | closed first tail =>
        rw [hclosing] at h
        obtain ⟨rfl, rfl, hnone⟩ : '\n' :: first = inner ∧ tail = [] ∧ Text.joinLines ls = [] := by
          simpa [Closing.cons] using h
        exact bind_of_joinLines hnone _ _

/-- A call that begins with the text of a statement ends where the text of all its lines says. -/
theorem readStatement_gathered {name : List Char} (hname : Text.isName name)
    (hash : '#' ∉ f ++ Text.joinLines fs)
    (h : closing 1 (f ++ Text.joinLines fs) = .closed inner []) (m : Nat) :
    (readStatement items n column (name ++ '(' :: f) p >>= fun r =>
        (Line.ofTexts m fs).foldlM feed r) =
      put items column (.call (invocation name inner)) p := by
  have hsplit : Text.splitName (name ++ '(' :: f) = (name, '(' :: f) :=
    Text.splitName_of_isName hname (by simp; decide)
  have hstatement := statement_of_open hsplit (Text.isName_iff.mp hname).1
  obtain ⟨hfirst, hmore⟩ : '#' ∉ f ∧ '#' ∉ Text.joinLines fs := by simpa using hash
  rw [closing_append] at h
  cases hclosing : closing 1 f with
  | unclosed depth =>
    rw [hclosing] at h
    obtain ⟨more, hclosed, rfl⟩ := Closing.exists_of_after h
    rw [hclosing] at hstatement
    rw [readStatement, hstatement, dropComment_of_not_mem hfirst]
    exact foldlM_joinLines (c := ⟨name, f, depth, n, column⟩) hmore hclosed m
  | closed first tail =>
    rw [hclosing] at h
    obtain ⟨rfl, rfl, hnone⟩ : first = inner ∧ tail = [] ∧ Text.joinLines fs = [] := by
      simpa using h
    rw [hclosing] at hstatement
    rw [readStatement, hstatement]
    exact bind_of_joinLines hnone _ _

end Reader

end Document

/-- The text of a call in which the text of the arguments is the given one. -/
def Invocation.spelled (call : Invocation) (arguments : List Char) : List Char :=
  call.name.toList ++ '(' :: (arguments ++ [')'])

namespace Document

variable {items : List Item} {n column : Nat} {p : Place} {f : List Char} {fs : List (List Char)}
  {cs gap lead margin name rest : List Char} {call : Invocation}

/-- What stands behind the open parenthesis of a call, which is `f` in the first line and `fs` in
those below, is gathered as the arguments of the call. -/
structure LaidOut (call : Invocation) (cs f : List Char) (fs : List (List Char)) : Prop where
  name : IsName call.name
  lines : Text.fields (· == '\n') (cs ++ [')']) = f :: fs
  no_comment : '#' ∉ Text.trimEnd f ++ Text.joinLines fs
  closed : ∃ inner, closing 1 (Text.trimEnd f ++ Text.joinLines fs) = .closed inner [] ∧
    groups inner = call.groups

/-- The arguments are gathered from every spelling of them. -/
theorem exists_laidOut (h : call.WellFormed) (hprint : call.Printable)
    (hcs : Text.SpellsGroups (Text.IsGap false) call.groups cs) :
    ∃ f fs, LaidOut call cs f fs := by
  obtain ⟨f, fs, hlines⟩ :=
    List.exists_cons_of_ne_nil (Text.fields_ne_nil (· == '\n') (cs ++ [')']))
  have hclose : Text.IsSolid [')'] := ⟨')', rfl, by decide, by decide⟩
  have htokens : ∀ group ∈ call.groups, ∀ token ∈ group, IsToken token ∧ '#' ∉ token.toList :=
    fun group hgroup token htoken =>
      ⟨h.tokens group hgroup token htoken, hprint.no_comment group hgroup token htoken⟩
  obtain ⟨inner, hinner, hgathered⟩ := hcs.exists_gathered htokens hclose
  have hall : Text.trimEnd f ++ Text.joinLines fs = inner ++ [')'] := by
    rw [← Text.gathered_of_fields hlines, hgathered]
    rfl
  have hgroups : groups inner = call.groups := hinner.groups_eq h.groups_ne h.tokens
  have hash : '#' ∉ inner := hinner.not_mem (by decide) (by decide) hprint.no_comment
  refine ⟨f, fs, h.name, hlines, by simp [hall, hash], inner, ?_, hgroups⟩
  rw [hall]
  exact closing_of_isBalanced (isBalanced_of_groups h hprint hgroups)

namespace LaidOut

theorem bind_readStatement (h : LaidOut call cs f fs) (m : Nat) :
    (Reader.readStatement items n column (call.name.toList ++ '(' :: Text.trimEnd f) p >>= fun r =>
        (Line.ofTexts m fs).foldlM Reader.feed r) = Reader.put items column (.call call) p := by
  obtain ⟨inner, hclosed, hgroups⟩ := h.closed
  have hcall : invocation call.name.toList inner = call := by
    rw [invocation, hgroups, String.ofList_toList]
  rw [Reader.readStatement_gathered h.name h.no_comment hclosed, hcall]

/-- The first line of a call is fed with what stands before the call, and the others one by one. -/
theorem read_spelled (h : LaidOut call cs f fs) (hlead : '\n' ∉ lead) (r : Reader) (n : Nat) :
    r.read n (lead ++ call.spelled cs) =
      (Reader.feed r (.ofText n (lead ++ (call.name.toList ++ '(' :: f))) >>= fun r =>
        (Line.ofTexts (n + 1) fs).foldlM Reader.feed r) := by
  have htext : lead ++ call.spelled cs = lead ++ (call.name.toList ++ ['(']) ++ (cs ++ [')']) := by
    simp [Invocation.spelled]
  have hend : ¬ Text.EndsLine (lead ++ call.spelled cs) := by
    rw [htext, ← List.append_assoc, Text.EndsLine, List.getLast?_concat]
    simp
  have hname : '\n' ∉ call.name.toList := not_mem_of_isName (by decide) h.name
  have hbreak : '\n' ∉ lead ++ (call.name.toList ++ ['(']) := by simp [hlead, hname]
  rw [Reader.read_of_not_endsLine hend, htext, Text.fields_append_of_not_mem hbreak h.lines,
    Line.ofTexts, List.foldlM_cons]
  simp only [List.append_assoc, List.singleton_append]

end LaidOut

/-! ## Where a call stands -/

theorem isBlank_getLast_open (rest f : List Char) :
    ∀ c ∈ (rest ++ '(' :: Text.trimEnd f).getLast?, Text.isBlank c = false := by
  have hopen : Text.isBlank '(' = false := by decide
  have htrim : Text.trim ('(' :: f) = '(' :: Text.trimEnd f := by
    rw [Text.trim, Text.trimStart_cons, hopen, if_neg Bool.false_ne_true, Text.trimEnd_cons hopen]
  rw [List.getLast?_append_of_ne_nil _ (by simp), ← htrim]
  exact Text.isBlank_getLast_trim _

/-- A line with an open parenthesis behind a name. -/
theorem ofText_open (hmargin : Text.isAllBlank margin) (hname : Text.isName name)
    (n : Nat) (rest f : List Char) :
    Line.ofText n (margin ++ (name ++ (rest ++ '(' :: f))) =
      ⟨n, Text.width margin, name ++ (rest ++ '(' :: Text.trimEnd f)⟩ := by
  obtain ⟨tail, htail, hf⟩ := Text.exists_append_trimEnd f
  have htext : margin ++ (name ++ (rest ++ '(' :: f)) =
      margin ++ (name ++ (rest ++ '(' :: Text.trimEnd f)) ++ tail := by
    conv_lhs => rw [hf]
    simp only [List.append_assoc, List.cons_append]
  have hopen : Text.isBlank '(' = false := by decide
  have hsolid : Text.isAllBlank (margin ++ (name ++ (rest ++ '(' :: Text.trimEnd f))) = false := by
    simp [hopen]
  have htrim := Text.trim_of_isName hname (isBlank_getLast_open rest f)
  rw [htext, Line.ofText_append_of_blank hsolid htail, Line.ofText_margin hmargin htrim]

/-- What stands right behind the header of a method is a statement. -/
theorem Reader.exists_readMethod_statement {d : Declaration} {indent : Nat} {text : List Char}
    (method : Method) (hgap : Text.isAllBlank gap) (hne : text ≠ []) (htrim : Text.trim text = text)
    (hash : text.head? ≠ some '#') :
    ∃ column, readMethod items d ⟨n, indent, method.name.toList ++ ':' :: (gap ++ text)⟩ =
      readStatement items n column text (.inline d method n) := by
  have hname := isName_method method
  have hrest : Text.trim (gap ++ text) = text := by rw [Text.trim_append_of_blank hgap, htrim]
  refine ⟨indent + (Text.width (method.name.toList ++ ':' :: (gap ++ text)) -
    Text.width (Text.trimStart (gap ++ text))) + 1, ?_⟩
  simp [readMethod, splitHeading?_of_isName hname, hrest, hne, hash]

namespace LaidOut

variable (h : LaidOut call cs f fs)
include h

theorem trim_first : Text.trim (call.name.toList ++ '(' :: Text.trimEnd f) =
    call.name.toList ++ '(' :: Text.trimEnd f :=
  Text.trim_of_isName h.name (isBlank_getLast_open [] f)

theorem not_mem_first : '#' ∉ call.name.toList ++ '(' :: Text.trimEnd f := by
  have hname := not_mem_of_isName (c := '#') (by decide) h.name
  have hrest := h.no_comment
  simp_all

theorem read_shortcut {r : Reader} {d : Document} {name : String} (hr : r.finish = .ok d)
    (hname : IsName name) (hgap : Text.IsSpace gap) (n : Nat) :
    r.read n (name.toList ++ ':' :: (gap ++ call.spelled cs)) =
      .ok ⟨d ++ [.shortcut name call n], .top⟩ := by
  have hbreak : '\n' ∉ name.toList ++ ':' :: gap := by
    simp [not_mem_of_isName (c := '\n') (by decide) hname, hgap.no_break]
  have hline := @ofText_open [] _ rfl hname n (':' :: (gap ++ call.name.toList)) f
  obtain ⟨column, hitem⟩ := @Reader.exists_readItem_statement d n _ _ _ hname
    hgap.isAllBlank (by simp) h.trim_first h.not_mem_first
  have hread := h.read_spelled hbreak r n
  simp only [List.append_assoc, List.cons_append, List.nil_append] at hline hread
  rw [hread, hline, Text.width_nil, Reader.feed_of_finish hr (isCode_of_isName hname n 0 _) rfl,
    hitem, h.bind_readStatement]
  rfl

theorem read_inline {m : Mode} {d : Declaration} (method : Method)
    (hm : m.Takes d (Text.width margin)) (hmargin : Text.IsSpace margin) (hne : margin ≠ [])
    (hgap : Text.IsSpace gap) (n : Nat) :
    Reader.read ⟨items, m⟩ n (margin ++ (method.name.toList ++ ':' :: (gap ++ call.spelled cs))) =
      .ok ⟨items, .methods (d.add ⟨method, [.call call], n⟩)⟩ := by
  have hname := isName_method method
  have hbreak : '\n' ∉ margin ++ (method.name.toList ++ ':' :: gap) := by
    simp [not_mem_of_isName (c := '\n') (by decide) hname, hmargin.no_break, hgap.no_break]
  have hline := ofText_open hmargin.isAllBlank hname n (':' :: (gap ++ call.name.toList)) f
  have hstart : (call.name.toList ++ '(' :: Text.trimEnd f).head? ≠ some '#' :=
    fun hhead => h.not_mem_first (List.mem_of_head? hhead)
  obtain ⟨column, hmethod⟩ := @Reader.exists_readMethod_statement items n _ d
    (Text.width margin) _ method hgap.isAllBlank (by simp) h.trim_first hstart
  have hread := h.read_spelled hbreak ⟨items, m⟩ n
  simp only [List.append_assoc, List.cons_append] at hline hread
  rw [hread, hline, Reader.feed_of_takes hm (isCode_of_isName hname n _ _)
    (Text.width_ne_zero hne), hmethod, h.bind_readStatement]
  rfl

theorem read_block {b : Block} (hindent : b.indent < Text.width margin)
    (hmargin : Text.IsSpace margin) (n : Nat) :
    Reader.read ⟨items, .block b⟩ n (margin ++ call.spelled cs) =
      .ok ⟨items, .block (b.add (.call call))⟩ := by
  have hline := ofText_open hmargin.isAllBlank h.name n [] f
  rw [List.nil_append, List.nil_append] at hline
  rw [h.read_spelled hmargin.no_break, hline,
    Reader.feed_block (isCode_of_isName h.name n _ _) hindent, h.bind_readStatement]
  rfl

end LaidOut

/-- The name of a target opens a declaration for what stands below it. -/
theorem parse_target_header {name : String} (h : IsName name) (rest : List Char) :
    parse (.ofList (name.toList ++ ':' :: '\n' :: rest)) =
      (Reader.read ⟨[], .methods ⟨.target name, 1, []⟩⟩ 2 rest >>= Reader.finish) := by
  have hbreak : '\n' ∉ name.toList ++ [':'] := by
    simp [not_mem_of_isName (c := '\n') (by decide) h]
  have htext : name.toList ++ ':' :: '\n' :: rest = name.toList ++ [':'] ++ '\n' :: rest := by simp
  have hline := @ofText_header _ [] rfl h 1
  rw [List.nil_append, Text.width_nil] at hline
  rw [parse_eq_read, String.toList_ofList, htext, Reader.read_line hbreak, hline, Reader.start,
    Reader.feed_top (isCode_of_isName h 1 0 _), Reader.readItem_target h]
  rfl

/-- The header of a method opens a block for what stands below it. -/
theorem read_method_header {m : Mode} {d : Declaration} (method : Method)
    (hm : m.Takes d (Text.width margin)) (hmargin : Text.IsSpace margin) (hne : margin ≠ [])
    (n : Nat) (rest : List Char) :
    Reader.read ⟨items, m⟩ n (margin ++ (method.name.toList ++ ':' :: '\n' :: rest)) =
      Reader.read ⟨items, .block ⟨d, ⟨method, [], n⟩, Text.width margin⟩⟩ (n + 1) rest := by
  have hname := isName_method method
  have hbreak : '\n' ∉ margin ++ (method.name.toList ++ [':']) := by
    simp [not_mem_of_isName (c := '\n') (by decide) hname, hmargin.no_break]
  have htext : margin ++ (method.name.toList ++ ':' :: '\n' :: rest) =
      margin ++ (method.name.toList ++ [':']) ++ '\n' :: rest := by simp
  rw [htext, Reader.read_line hbreak, ofText_header hmargin.isAllBlank hname,
    Reader.feed_of_takes hm (isCode_of_isName hname n _ _) (Text.width_ne_zero hne),
    Reader.readMethod_header]
  rfl

/-- A text is read as a call wherever a call can stand: behind the name of a target, behind the
header of a method, and in a block. -/
structure ReadsAs (text : List Char) (call : Invocation) : Prop where
  shortcut {r : Reader} {d : Document} {name : String} {gap : List Char} (n : Nat)
    (hr : r.finish = .ok d) (hname : IsName name) (hgap : Text.IsSpace gap) :
    r.read n (name.toList ++ ':' :: (gap ++ text)) = .ok ⟨d ++ [.shortcut name call n], .top⟩
  inline {items : List Item} {m : Mode} {d : Declaration} {margin gap : List Char} (n : Nat)
    (method : Method) (hm : m.Takes d (Text.width margin)) (hmargin : Text.IsSpace margin)
    (hne : margin ≠ []) (hgap : Text.IsSpace gap) :
    Reader.read ⟨items, m⟩ n (margin ++ (method.name.toList ++ ':' :: (gap ++ text))) =
      .ok ⟨items, .methods (d.add ⟨method, [.call call], n⟩)⟩
  block {items : List Item} {b : Block} {margin : List Char} (n : Nat)
    (hindent : b.indent < Text.width margin) (hmargin : Text.IsSpace margin) :
    Reader.read ⟨items, .block b⟩ n (margin ++ text) = .ok ⟨items, .block (b.add (.call call))⟩

/-- However a call is laid out, it is read as that call in each place where a call can stand, also
where it is all that the document says. -/
theorem parse_spelled (h : call.WellFormed) (hprint : call.Printable)
    (hcs : Text.SpellsGroups (Text.IsGap false) call.groups cs) :
    ReadsAs (call.spelled cs) call ∧
      ∀ (name : String) (method : Method) (gap margin deeper : List Char), IsName name →
        Text.IsSpace gap → Text.IsSpace margin → Text.IsSpace deeper → margin ≠ [] →
        Text.width margin < Text.width deeper →
        parse (.ofList (name.toList ++ ':' :: (gap ++ call.spelled cs))) =
            .ok [.shortcut name call 1] ∧
          parse (.ofList (name.toList ++ ':' :: '\n' ::
              (margin ++ (method.name.toList ++ ':' :: (gap ++ call.spelled cs))))) =
            .ok [.target name [⟨method, [.call call], 2⟩] 1] ∧
          parse (.ofList (name.toList ++ ':' :: '\n' ::
              (margin ++ (method.name.toList ++ ':' :: '\n' :: (deeper ++ call.spelled cs))))) =
            .ok [.target name [⟨method, [.call call], 2⟩] 1] := by
  obtain ⟨f, fs, hlaid⟩ := exists_laidOut h hprint hcs
  have hreads : ReadsAs (call.spelled cs) call :=
    { shortcut := fun n hr hname hgap => hlaid.read_shortcut hr hname hgap n
      inline := fun n method hm hmargin hne hgap =>
        hlaid.read_inline method hm hmargin hne hgap n
      block := fun n hindent hmargin => hlaid.read_block hindent hmargin n }
  refine ⟨hreads, fun name method gap margin deeper hname hgap hmargin hdeeper hne hwidth =>
    ⟨?_, ?_, ?_⟩⟩
  · have hstart : Reader.start.finish = .ok [] := rfl
    rw [parse_eq_read, String.toList_ofList, hreads.shortcut 1 hstart hname hgap]
    rfl
  · rw [parse_target_header hname, hreads.inline 2 method .methods hmargin hne hgap]
    rfl
  · rw [parse_target_header hname, read_method_header method .methods hmargin hne,
      hreads.block 3 hwidth hdeeper]
    rfl

/-- Parentheses that match across lines, an empty line, a comment with a parenthesis, and a group
without tokens. -/
theorem parse_spelled_tea :
    parse "tea: brew( \n\n # (hot\n  green $((cup\n\t)) ,\n,x\n)" =
        .ok [.shortcut "tea" ⟨"brew", [["green", "$((cup", "))"], [], ["x"]]⟩ 1] ∧
      parse "tea:\n  setup: brew( \n\n # (hot\n  green $((cup\n\t)) ,\n,x\n)" =
        .ok [.target "tea"
          [⟨.setup, [.call ⟨"brew", [["green", "$((cup", "))"], [], ["x"]]⟩], 2⟩] 1] ∧
      parse "tea:\n  setup:\n   brew( \n\n # (hot\n  green $((cup\n\t)) ,\n,x\n)" =
        .ok [.target "tea"
          [⟨.setup, [.call ⟨"brew", [["green", "$((cup", "))"], [], ["x"]]⟩], 2⟩] 1] := by
  have hcall : (⟨"brew", [["green", "$((cup", "))"], [], ["x"]]⟩ : Invocation).WellFormed := by
    decide +kernel
  have hprint : (⟨"brew", [["green", "$((cup", "))"], [], ["x"]]⟩ : Invocation).Printable :=
    ⟨by decide +kernel, by decide +kernel⟩
  have hspace (cs : List Char) (h : Text.IsSpace cs) : Text.IsGap false cs := .space h
  have hbreak (cs : List Char) (h : Text.IsSpace cs) : Text.IsGap false ([] ++ '\n' :: cs) :=
    .line (by decide) (.space h)
  have hcomment : Text.IsGap false ([' '] ++ '\n' :: ([] ++ '\n' :: ([' '] ++
      '#' :: ([' ', '(', 'h', 'o', 't'] ++ '\n' :: [' ', ' '])))) :=
    .line (by decide) (.line (by decide) (.comment (by decide) (by decide) (.space (by decide))))
  have hfirst : Text.SpellsGroup (Text.IsGap false) false ["green", "$((cup", "))"] _ :=
    .cons hcomment (by simp) (.cons (hspace [' '] (by decide)) (by simp)
      (.cons (hbreak ['\t'] (by decide)) (by simp) (.nil (hspace [' '] (by decide)))))
  have hlast : Text.SpellsGroup (Text.IsGap false) false ["x"] _ :=
    .cons (hspace [] (by decide)) (by simp) (.nil (hbreak [] (by decide)))
  have hgroups := Text.SpellsGroups.cons hfirst (.cons (.nil (hbreak [] (by decide))) (.one hlast))
  obtain ⟨hshortcut, hinline, hblock⟩ := (parse_spelled hcall hprint hgroups).2 "tea" .setup [' ']
    [' ', ' '] [' ', ' ', ' '] (by decide) (by decide) (by decide) (by decide) (by simp) (by decide)
  -- The spelled calls are the ones in the texts above.
  exact ⟨(congrArg parse (by decide +kernel)).trans hshortcut,
    (congrArg parse (by decide +kernel)).trans hinline,
    (congrArg parse (by decide +kernel)).trans hblock⟩

end Document

end Provision
