import Provision.Proofs.Document.Trail

namespace Provision.Document

variable {cs text name inner : List Char} {items : List Item} {r s : Reader} {l : Line}

/-! ## Calls that differ in empty lines -/

/-- Two readers that are alike up to line breaks where a call goes on: such breaks part tokens, be
they one or many. -/
inductive Alike : Reader → Reader → Prop
  | refl (r : Reader) : Alike r r
  | breaks (items : List Item) (p : Place) (c : OpenInvocation) (inner : List Char)
      (h : ∀ rest, groups (c.inner ++ '\n' :: rest) = groups (inner ++ '\n' :: rest)) :
      Alike ⟨items, .invocation p c⟩ ⟨items, .invocation p { c with inner }⟩

namespace Alike

theorem feed {r' : Reader} (h : Alike r s) (hr : r.feed l = .ok r') :
    ∃ s', s.feed l = .ok s' ∧ Alike r' s' := by
  cases h with
  | refl => exact ⟨r', hr, .refl r'⟩
  | breaks items p c inner hgroups =>
    cases hcomment : l.isComment with
    | true =>
      rw [Reader.feed_comment hcomment] at hr ⊢
      cases hr
      exact ⟨_, rfl, .breaks items p c inner hgroups⟩
    | false =>
      rw [Reader.feed_invocation hcomment, Reader.continueInvocation] at hr
      rw [Reader.feed_invocation hcomment, Reader.continueInvocation]
      dsimp only at hr ⊢
      cases hclosing : closing c.depth (dropComment l.text) with
      | unclosed depth =>
        rw [hclosing] at hr
        cases hr
        refine ⟨_, rfl, .breaks items p _ _ fun rest => ?_⟩
        rw [List.append_assoc, List.append_assoc]
        exact hgroups _
      | closed first tail =>
        rw [hclosing] at hr
        dsimp only at hr ⊢
        have hcall : invocation c.name (c.inner ++ '\n' :: first) =
            invocation c.name (inner ++ '\n' :: first) := by
          rw [invocation, hgroups, ← invocation]
        rw [← hcall]
        exact ⟨r', hr, .refl r'⟩

theorem foldlM {ls : List Line} {r' : Reader} (h : Alike r s)
    (hr : ls.foldlM Reader.feed r = .ok r') :
    ∃ s', ls.foldlM Reader.feed s = .ok s' ∧ Alike r' s' := by
  induction ls generalizing r s with
  | nil =>
    cases hr
    exact ⟨s, rfl, h⟩
  | cons l ls ih =>
    rw [List.foldlM_cons] at hr ⊢
    obtain ⟨t, ht, hr⟩ := exists_of_bind_ok hr
    obtain ⟨t', ht', halike⟩ := h.feed ht
    rw [ht']
    exact ih halike hr

theorem finish (h : Alike r s) : r.finish = s.finish := by
  cases h <;> rfl

end Alike

/-! ## Lines whose comment does nothing -/

def Statement.isScript : Statement → Bool
  | .action (.shell _) => true
  | .action (.call _) => false
  | .unclosed _ _ _ => false

/-- A line that says something to the reader itself, and not to a shell: one inside a call, or one
that is neither empty nor a script. -/
def Mode.IsStructural (m : Mode) (l : Line) : Prop :=
  match m with
  | .invocation _ _ => True
  | m => l.text ≠ [] ∧ ∀ text ∈ m.statement? l, (statement text).isScript = false

instance (l : Line) : (m : Mode) → Decidable (m.IsStructural l)
  | .top => inferInstanceAs (Decidable (_ ∧ ∀ text ∈ Mode.top.statement? l, _ = _))
  | .methods d => inferInstanceAs (Decidable (_ ∧ ∀ text ∈ (Mode.methods d).statement? l, _ = _))
  | .block b => inferInstanceAs (Decidable (_ ∧ ∀ text ∈ (Mode.block b).statement? l, _ = _))
  | .invocation _ _ => isTrue trivial

/-- Behind a call that goes on, the comment closes as many parentheses as it opens, and none before
it has opened one. -/
def Statement.LeavesOpen (comment : List Char) : Statement → Prop
  | .action _ => True
  | .unclosed _ _ depth => closing depth comment = .unclosed depth

instance (comment : List Char) : (s : Statement) → Decidable (s.LeavesOpen comment)
  | .action _ => isTrue trivial
  | .unclosed _ _ depth => inferInstanceAs (Decidable (closing depth comment = .unclosed depth))

/-- Where the comment of a line is read with its statement, it leaves the statement as it is. -/
def Mode.Overlooks (m : Mode) (l : Line) (comment : List Char) : Prop :=
  ∀ text ∈ m.statement? l, (statement text).LeavesOpen comment

instance (m : Mode) (l : Line) (comment : List Char) : Decidable (m.Overlooks l comment) :=
  inferInstanceAs (Decidable (∀ text ∈ m.statement? l, (statement text).LeavesOpen comment))

theorem Mode.IsStructural.ne_nil {m : Mode} (h : m.IsStructural l)
    (htext : m.statement? l = some text) : l.text ≠ [] := by
  cases m with
  | top => cases htext
  | methods d => exact h.1
  | block b => exact h.1
  | invocation p c => cases htext

theorem Mode.IsStructural.not_script {m : Mode} (h : m.IsStructural l)
    (htext : m.statement? l = some text) (script : String) :
    statement text ≠ .action (.shell script) := by
  have hstatement : (statement text).isScript = false := by
    cases m with
    | top => cases htext
    | methods d => exact h.2 text htext
    | block b => exact h.2 text htext
    | invocation p c => cases htext
  intro hscript
  simp [hscript, Statement.isScript] at hstatement

theorem isPlain_ofText {raw : List Char} (hblank : Text.isAllBlank raw = false) (hash : '#' ∉ raw)
    (n : Nat) : (Line.ofText n raw).IsPlain where
  ne_nil := by simp [Line.ofText, Text.trim_eq_nil_iff, hblank]
  trimmed := Text.trimEnd_trim raw
  hash := fun hmem => hash (Text.mem_of_mem_trim hmem)

theorem closing_of_isAllBlank (h : Text.isAllBlank cs) (depth : Nat) :
    closing depth cs = .unclosed depth :=
  closing_of_not_mem depth (not_mem_of_isAllBlank (by decide) h)
    (not_mem_of_isAllBlank (by decide) h)

/-- A comment is read without the blanks at its end, and with those before it. -/
theorem exists_commented {raw : List Char} (hblank : Text.isAllBlank raw = false) (n : Nat)
    (comment : List Char) :
    ∃ t : Trail, Line.ofText n (raw ++ ' ' :: '#' :: comment) = (Line.ofText n raw).commented t ∧
      ∀ depth,
        closing depth t.text = .unclosed depth ↔ closing depth comment = .unclosed depth := by
  have hash : Text.isBlank '#' = false := by decide
  obtain ⟨gap, hgap, hraw⟩ := Text.exists_append_trimEnd (Text.trimStart raw)
  obtain ⟨tail, htail, hcomment⟩ := Text.exists_append_trimEnd comment
  have hspace : Text.isBlank ' ' := by decide
  have hgap' : Text.isAllBlank (gap ++ [' ']) := by simp [hgap, hspace]
  let t : Trail := ⟨gap ++ [' '], Text.trimEnd comment, hgap', by simp,
    by rw [Text.trimEnd_cons hash, Text.trimEnd_trimEnd]⟩
  have htext : t.text = (gap ++ [' ']) ++ '#' :: Text.trimEnd comment := rfl
  refine ⟨t, ?_, fun depth => ?_⟩
  · have hnot : Text.isAllBlank (' ' :: '#' :: comment) = false := by simp [hash]
    have hend : Text.trimEnd (' ' :: '#' :: comment) = ' ' :: '#' :: Text.trimEnd comment := by
      rw [← List.singleton_append, Text.trimEnd_append (by simp [hash]), Text.trimEnd_cons hash]
      rfl
    have htrim : Text.trim (raw ++ ' ' :: '#' :: comment) = Text.trim raw ++ t.text := by
      rw [Text.trim, Text.trimStart_append hblank, Text.trimEnd_append hnot, hend, htext, Text.trim]
      conv_lhs => rw [hraw]
      simp
    rw [Line.ofText, Line.commented, Text.margin_append hblank, htrim]
    rfl
  · have hbefore := closing_of_isAllBlank hgap' depth
    rw [htext, closing_append, hbefore]
    conv_rhs => rw [hcomment, closing_append]
    dsimp only
    have hsharp : closing depth ('#' :: Text.trimEnd comment) =
        (closing depth (Text.trimEnd comment)).cons '#' := rfl
    rw [hsharp]
    cases closing depth (Text.trimEnd comment) with
    | unclosed left => simp [Closing.cons, Closing.after, closing_of_isAllBlank htail]
    | closed inner rest => simp [Closing.cons, Closing.after]

namespace Reader

/-- A comment behind a line that overlooks it leaves the reader as it is, empty lines of a call
apart. -/
theorem feed_overlooked {raw : List Char} (hash : '#' ∉ raw) (n : Nat) (comment : List Char)
    (hline : r.mode.IsStructural (.ofText n raw))
    (hover : r.mode.Overlooks (.ofText n raw) comment) (h : feed r (.ofText n raw) = .ok s) :
    ∃ s', feed r (.ofText n (raw ++ ' ' :: '#' :: comment)) = .ok s' ∧ Alike s s' := by
  cases hblank : Text.isAllBlank raw with
  | true =>
    have hempty : (Line.ofText n raw).text = [] := Text.trim_eq_nil_iff.mpr hblank
    have hcomment : (Line.ofText n (raw ++ ' ' :: '#' :: comment)).isComment := by
      have htext : raw ++ ' ' :: '#' :: comment = (raw ++ [' ']) ++ '#' :: comment := by simp
      have hspace : Text.isBlank ' ' := by decide
      rw [htext]
      exact Line.isComment_ofText (by simp [hblank, hspace]) n comment
    obtain ⟨items, mode⟩ := r
    cases mode with
    | top => exact absurd hempty hline.1
    | methods d => exact absurd hempty hline.1
    | block b => exact absurd hempty hline.1
    | invocation p c =>
      rw [feed_empty (List.isEmpty_iff.mpr hempty)] at h
      cases h
      refine ⟨_, feed_comment hcomment, .breaks items p _ c.inner fun rest => ?_⟩
      rw [List.append_assoc]
      exact groups_skip_break c.inner rest
  | false =>
    obtain ⟨t, hcommented, hclosing⟩ := exists_commented hblank n comment
    have hl := isPlain_ofText hblank hash n
    rw [hcommented]
    refine ⟨s, ?_, .refl s⟩
    cases htext : r.mode.statement? (.ofText n raw) with
    | none => exact feed_of_none t hl htext h
    | some text =>
      obtain ⟨column, p, -, hplain, hcomment⟩ := feed_of_statement t hl htext h
      obtain ⟨hash', hend⟩ := plain_of_statement? hl htext
      have hscript := hline.not_script htext
      have hquiet (name inner : List Char) (depth : Nat)
          (hopen : statement text = .unclosed name inner depth) :
          closing depth t.text = .unclosed depth := by
        have hleaves := hover text htext
        rw [hopen] at hleaves
        exact (hclosing depth).mpr hleaves
      rw [hcomment, readStatement_trail t hash' hend hscript hquiet, ← hplain]
      exact h

end Reader

end Provision.Document
