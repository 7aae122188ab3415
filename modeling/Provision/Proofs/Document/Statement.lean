import Provision.Document.Header
import Provision.Proofs.Text.Blank
import Provision.Proofs.Text.Lines

namespace Provision.Document

variable {cs gap comment : List Char}

/-! ## Trailing comments -/

theorem beforeComment?_of_not_mem (h : '#' ∉ cs) (afterBlank : Bool) :
    beforeComment? afterBlank cs = none := by
  induction cs generalizing afterBlank with
  | nil => rfl
  | cons c cs ih =>
    obtain ⟨hc, hcs⟩ : '#' ≠ c ∧ '#' ∉ cs := by simpa using h
    rw [beforeComment?, if_neg fun hand => hc hand.1.symm, ih hcs]
    rfl

theorem dropComment_of_not_mem (h : '#' ∉ cs) : dropComment cs = cs := by
  rw [dropComment, beforeComment?_of_not_mem h]

/-- A text without a `#` has no part in where a comment begins behind it. -/
theorem exists_beforeComment?_append (h : '#' ∉ cs) (afterBlank : Bool) :
    ∃ afterBlank', ∀ rest, beforeComment? afterBlank (cs ++ rest) =
      (beforeComment? afterBlank' rest).map (cs ++ ·) := by
  induction cs generalizing afterBlank with
  | nil => exact ⟨afterBlank, fun rest => by simp⟩
  | cons c cs ih =>
    obtain ⟨hc, hcs⟩ : '#' ≠ c ∧ '#' ∉ cs := by simpa using h
    obtain ⟨afterBlank', hrest⟩ := ih hcs (Text.isBlank c)
    refine ⟨afterBlank', fun rest => ?_⟩
    rw [List.cons_append, beforeComment?, if_neg fun hand => hc hand.1.symm, hrest]
    simp [Function.comp_def]

theorem beforeComment?_append {c : Char} (h : '#' ∉ cs) (hc : Text.isBlank c) (hash : c ≠ '#')
    (comment : List Char) (afterBlank : Bool) :
    beforeComment? afterBlank (cs ++ c :: '#' :: comment) = some (cs ++ [c]) := by
  obtain ⟨afterBlank', happend⟩ := exists_beforeComment?_append h afterBlank
  rw [happend]
  simp [beforeComment?, hash, hc]

theorem not_mem_of_isAllBlank {c : Char} (hc : Text.isBlank c = false) (h : Text.isAllBlank gap) :
    c ∉ gap := by
  intro hmem
  simp [Text.isAllBlank_iff.mp h c hmem] at hc

/-- A `#` behind blanks begins a comment, whatever follows it. -/
theorem dropComment_append (h : '#' ∉ cs) (hgap : Text.isAllBlank gap) (hne : gap ≠ [])
    (comment : List Char) : dropComment (cs ++ gap ++ '#' :: comment) = Text.trimEnd cs := by
  have hash : '#' ∉ gap := not_mem_of_isAllBlank (by decide) hgap
  obtain ⟨init, c, rfl⟩ : ∃ init c, gap = init ++ [c] :=
    ⟨_, _, (List.dropLast_append_getLast hne).symm⟩
  have hc : Text.isBlank c := Text.isAllBlank_iff.mp hgap c (by simp)
  have hinit : '#' ∉ cs ++ init := by simp_all
  have hne' : c ≠ '#' := by
    rintro rfl
    simp at hash
  have hbefore := beforeComment?_append hinit hc hne' comment true
  have htext : cs ++ (init ++ [c]) ++ '#' :: comment = cs ++ init ++ c :: '#' :: comment := by simp
  rw [dropComment, htext, hbefore]
  dsimp only
  rw [List.append_assoc, Text.trimEnd_append_of_blank hgap]

theorem dropAnyComment_of_not_mem (h : '#' ∉ cs) : dropAnyComment cs = cs := if_neg h

theorem dropAnyComment_append (h : '#' ∉ cs) (hgap : Text.isAllBlank gap) (comment : List Char) :
    dropAnyComment (cs ++ gap ++ '#' :: comment) = Text.trimEnd cs := by
  have hash : '#' ∉ gap := not_mem_of_isAllBlank (by decide) hgap
  have hkeep : ∀ c ∈ cs ++ gap, (c != '#') = true := by
    intro c hc
    rw [bne_iff_ne]
    rintro rfl
    rcases List.mem_append.mp hc with hc | hc
    · exact h hc
    · exact hash hc
  rw [dropAnyComment, if_pos (by simp), List.takeWhile_append_of_pos hkeep]
  simp [Text.trimEnd_append_of_blank hgap]

/-- What begins with neither a comment nor the end of a text keeps its beginning. -/
theorem dropAnyComment_append_of_trimEnd (h : '#' ∉ cs) (htrim : Text.trimEnd cs = cs)
    (rest : List Char) : dropAnyComment (cs ++ rest) = cs ++ dropAnyComment rest := by
  have hkeep : ∀ c ∈ cs, (c != '#') = true := by
    intro c hc
    rw [bne_iff_ne]
    rintro rfl
    exact h hc
  by_cases hash : '#' ∈ rest
  · rw [dropAnyComment, if_pos (by simp [hash]), dropAnyComment, if_pos hash,
      List.takeWhile_append_of_pos hkeep, Text.trimEnd_append_of_trimEnd htrim]
  · rw [dropAnyComment_of_not_mem hash, dropAnyComment_of_not_mem (by simp [h, hash])]

theorem not_mem_dropAnyComment (cs : List Char) : '#' ∉ dropAnyComment cs := by
  unfold dropAnyComment
  split
  · intro hmem
    have hkept := (Text.isPrefix_trimEnd _).subset hmem
    exact absurd (List.mem_takeWhile_imp hkept) (by decide)
  · assumption

theorem isPrefix_dropComment (cs : List Char) : dropComment cs <+: cs := by
  have hbefore (afterBlank : Bool) :
      ∀ before, beforeComment? afterBlank cs = some before → before <+: cs := by
    induction cs generalizing afterBlank with
    | nil => simp [beforeComment?]
    | cons c cs ih =>
      intro before h
      rw [beforeComment?] at h
      split at h
      · cases h
        exact List.nil_prefix
      · obtain ⟨rest, hrest, rfl⟩ := Option.map_eq_some_iff.mp h
        exact (List.cons_prefix_cons).mpr ⟨rfl, ih _ rest hrest⟩
  unfold dropComment
  split
  · rename_i before h
    exact (Text.isPrefix_trimEnd before).trans (hbefore true before h)
  · exact List.prefix_rfl

theorem isPrefix_dropAnyComment (cs : List Char) : dropAnyComment cs <+: cs := by
  unfold dropAnyComment
  split
  · exact (Text.isPrefix_trimEnd _).trans (List.takeWhile_prefix _)
  · exact List.prefix_rfl

/-! ## Parentheses -/

/-- Puts a text before what has been looked through. -/
def Closing.after (cs : List Char) : Closing → Closing
  | .unclosed depth => .unclosed depth
  | .closed inner rest => .closed (cs ++ inner) rest

@[simp] theorem Closing.cons_after (c : Char) (cs : List Char) (r : Closing) :
    (r.after cs).cons c = r.after (c :: cs) := by
  cases r <;> rfl

/-- To look through two texts one after the other is to look through both together. -/
theorem closing_append (depth : Nat) (a b : List Char) :
    closing depth (a ++ b) =
      match closing depth a with
      | .unclosed depth => (closing depth b).after a
      | .closed inner rest => .closed inner (rest ++ b) := by
  induction a generalizing depth with
  | nil =>
    simp only [List.nil_append, closing]
    cases closing depth b <;> rfl
  | cons c a ih =>
    have hstep (depth : Nat) : (closing depth (a ++ b)).cons c =
        match (closing depth a).cons c with
        | .unclosed depth => (closing depth b).after (c :: a)
        | .closed inner rest => .closed inner (rest ++ b) := by
      rw [ih]
      cases closing depth a with
      | unclosed depth => exact Closing.cons_after ..
      | closed inner rest => rfl
    simp only [List.cons_append, closing]
    split
    · exact hstep _
    · split
      · split
        · rfl
        · exact hstep _
      · exact hstep _

theorem eq_append_of_closing {depth : Nat} {inner rest : List Char}
    (h : closing depth cs = .closed inner rest) : cs = inner ++ ')' :: rest := by
  induction cs generalizing depth inner with
  | nil => simp [closing] at h
  | cons c cs ih =>
    have hstep {depth : Nat} (h : (closing depth cs).cons c = .closed inner rest) :
        c :: cs = inner ++ ')' :: rest := by
      cases hcs : closing depth cs with
      | unclosed depth => simp [hcs, Closing.cons] at h
      | closed first after =>
        rw [hcs] at h
        obtain ⟨rfl, rfl⟩ : c :: first = inner ∧ after = rest := by simpa [Closing.cons] using h
        rw [ih hcs]
        rfl
    rw [closing] at h
    split at h
    · exact hstep h
    · split at h
      · rename_i hc
        split at h
        · obtain ⟨rfl, rfl⟩ : [] = inner ∧ cs = rest := by simpa using h
          rw [hc]
          rfl
        · exact hstep h
      · exact hstep h

theorem closing_of_not_mem (depth : Nat) (hopen : '(' ∉ cs) (hclose : ')' ∉ cs) :
    closing depth cs = .unclosed depth := by
  induction cs with
  | nil => rfl
  | cons c cs ih =>
    obtain ⟨hc, hcs⟩ : '(' ≠ c ∧ '(' ∉ cs := by simpa using hopen
    obtain ⟨hc', hcs'⟩ : ')' ≠ c ∧ ')' ∉ cs := by simpa using hclose
    rw [closing, if_neg (Ne.symm hc), if_neg (Ne.symm hc'), ih hcs hcs']
    rfl

/-- The parentheses of a text add up to what has been found behind so many open ones. -/
def Closing.Balances (depth : Nat) (cs : List Char) : Closing → Prop
  | .unclosed left => 1 ≤ left ∧ cs.count '(' + depth = cs.count ')' + left
  | .closed inner _ => inner.count '(' + depth = inner.count ')' + 1

theorem Closing.Balances.cons {c : Char} {cs : List Char} {r : Closing} {depth next : Nat}
    (h : r.Balances next cs) (hc : [c].count '(' + depth = [c].count ')' + next) :
    (r.cons c).Balances depth (c :: cs) := by
  cases r with
  | unclosed left =>
    obtain ⟨hleft, hcs⟩ := h
    refine ⟨hleft, ?_⟩
    rw [← List.singleton_append, List.count_append, List.count_append]
    omega
  | closed inner rest =>
    have hinner : inner.count '(' + next = inner.count ')' + 1 := h
    show (c :: inner).count '(' + depth = (c :: inner).count ')' + 1
    rw [← List.singleton_append, List.count_append, List.count_append]
    omega

theorem balances_closing {depth : Nat} (hdepth : 1 ≤ depth) (cs : List Char) :
    (closing depth cs).Balances depth cs := by
  induction cs generalizing depth with
  | nil => exact ⟨hdepth, rfl⟩
  | cons c cs ih =>
    rw [closing]
    by_cases hopen : c = '('
    · rw [if_pos hopen]
      exact (ih (by omega)).cons (by simp [hopen, Nat.add_comm])
    · rw [if_neg hopen]
      by_cases hclose : c = ')'
      · rw [if_pos hclose]
        split
        · have hone : depth = 1 := by omega
          simp [Closing.Balances, hone]
        · exact (@ih (depth - 1) (by omega)).cons (by simp [hclose]; omega)
      · rw [if_neg hclose]
        exact (ih hdepth).cons (by simp [hopen, hclose])

/-! ## Groups -/

theorem intercalate_filter_fields (keep : Char → Bool) (hcomma : keep ',') (cs : List Char) :
    [','].intercalate ((Text.fields (· == ',') cs).map (List.filter keep)) = cs.filter keep := by
  induction cs with
  | nil => rfl
  | cons c cs ih =>
    obtain ⟨f, fs, hf⟩ := List.exists_cons_of_ne_nil (Text.fields_ne_nil (· == ',') cs)
    rw [hf, List.map_cons] at ih
    by_cases hc : c = ','
    · have hfields : Text.fields (· == ',') (c :: cs) = [] :: f :: fs := by
        simp [Text.fields, hc, hf]
      rw [hfields, List.map_cons, List.map_cons, List.intercalate_cons_cons, ih]
      simp [hc, hcomma]
    · rw [Text.fields_cons_of_not (by simpa using hc) hf, List.map_cons]
      cases hkeep : keep c with
      | true =>
        rw [List.filter_cons_of_pos hkeep, List.filter_cons_of_pos hkeep, ← ih]
        cases fs <;> rfl
      | false =>
        have hdrop : ¬ keep c := by simp [hkeep]
        rw [List.filter_cons_of_neg hdrop, List.filter_cons_of_neg hdrop, ih]

/-- The groups of a text tell all of it, blanks apart. -/
theorem intercalate_groups (cs : List Char) :
    [','].intercalate ((groups cs).map fun group => group.flatMap String.toList) =
      cs.filter (!Text.isBlank ·) := by
  cases hblank : Text.isAllBlank cs with
  | true =>
    have hnil : cs.filter (!Text.isBlank ·) = [] := by
      simpa using Text.isAllBlank_iff.mp hblank
    simp [groups, hblank, hnil]
  | false =>
    have hgroup : (fun group => group.flatMap String.toList) ∘ (fun group : List Char =>
        (Text.runs Text.isBlank group).map String.ofList) = List.filter (!Text.isBlank ·) := by
      funext group
      rw [Function.comp_apply, ← Text.flatten_runs]
      simp [List.flatMap_map, List.flatMap_id']
    rw [groups, hblank, if_neg Bool.false_ne_true, List.map_map, hgroup,
      intercalate_filter_fields _ (by decide)]

/-- One line break parts tokens as well as two. -/
theorem groups_skip_break (a b : List Char) :
    groups (a ++ '\n' :: '\n' :: b) = groups (a ++ '\n' :: b) := by
  have hbreak : Text.isBlank '\n' := by decide
  have hblank : Text.isAllBlank (a ++ '\n' :: '\n' :: b) = Text.isAllBlank (a ++ '\n' :: b) := by
    simp [hbreak]
  obtain ⟨us, u, -, hfields⟩ := Text.exists_fields_append (· == ',') a
  obtain ⟨f, fs, hf⟩ := List.exists_cons_of_ne_nil (Text.fields_ne_nil (· == ',') b)
  have hone := Text.fields_cons_of_not (c := '\n') (by decide) hf
  have htwo := Text.fields_cons_of_not (c := '\n') (by decide) hone
  have hruns : Text.runs Text.isBlank (u ++ '\n' :: '\n' :: f) =
      Text.runs Text.isBlank (u ++ '\n' :: f) := by
    rw [Text.runs_append_separator hbreak, Text.runs_append_separator hbreak,
      Text.runs_cons_separator hbreak]
  simp only [groups, hblank, hfields _ _ _ hone, hfields _ _ _ htwo, List.map_append, List.map_cons,
    hruns]

/-! ## Statements -/

variable {text name inner tail : List Char} {depth : Nat} {call : Invocation}

theorem statement_of_open (h : Text.splitName text = (name, '(' :: cs)) (hne : name ≠ []) :
    statement text =
      match closing 1 cs with
      | .closed inner tail =>
        if Text.isAllBlank (dropComment tail) then .action (.call (invocation name inner))
        else .action (.shell (String.ofList text))
      | .unclosed depth => .unclosed name (dropComment cs) depth := by
  have hempty : name.isEmpty = false := by simpa using hne
  simp only [statement, h, hempty]
  cases closing 1 cs <;> rfl

/-- Only a name right before a parenthesis makes a statement more than a script. -/
theorem exists_of_statement_ne (h : ∀ script, statement text ≠ .action (.shell script)) :
    ∃ name cs, Text.splitName text = (name, '(' :: cs) ∧ name ≠ [] := by
  unfold statement at h
  generalize Text.splitName text = parts at h ⊢
  obtain ⟨name, rest⟩ := parts
  dsimp only at h
  split at h
  · rename_i cs
    refine ⟨name, cs, rfl, ?_⟩
    rintro rfl
    exact h _ rfl
  · exact absurd rfl (h _)

theorem exists_of_statement_call (h : statement text = .action (.call call)) :
    ∃ name cs inner tail, Text.splitName text = (name, '(' :: cs) ∧ name ≠ [] ∧
      closing 1 cs = .closed inner tail ∧ Text.isAllBlank (dropComment tail) ∧
      call = invocation name inner := by
  have hscript : ∀ script, statement text ≠ .action (.shell script) := by simp [h]
  obtain ⟨name, cs, hsplit, hne⟩ := exists_of_statement_ne hscript
  rw [statement_of_open hsplit hne] at h
  cases hclosing : closing 1 cs with
  | unclosed depth => simp [hclosing] at h
  | closed inner tail =>
    simp only [hclosing] at h
    split at h
    · refine ⟨name, cs, inner, tail, hsplit, hne, hclosing, ‹_›, ?_⟩
      simpa using h.symm
    · simp at h

theorem exists_of_statement_unclosed (h : statement text = .unclosed name inner depth) :
    ∃ cs, Text.splitName text = (name, '(' :: cs) ∧ name ≠ [] ∧
      closing 1 cs = .unclosed depth ∧ inner = dropComment cs := by
  have hscript : ∀ script, statement text ≠ .action (.shell script) := by simp [h]
  obtain ⟨name', cs, hsplit, hne⟩ := exists_of_statement_ne hscript
  rw [statement_of_open hsplit hne] at h
  cases hclosing : closing 1 cs with
  | closed inner' tail =>
    simp only [hclosing] at h
    split at h <;> simp at h
  | unclosed depth' =>
    simp only [hclosing, Statement.unclosed.injEq] at h
    obtain ⟨rfl, rfl, rfl⟩ := h
    exact ⟨cs, hsplit, hne, hclosing, rfl⟩

end Provision.Document
