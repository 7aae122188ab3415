import Provision.Proofs.Document.Statement
import Provision.Proofs.Document.Step

namespace Provision

/-- What a comment adds to the text of a line: blanks, and from a `#` on anything that does not end
in blanks. -/
structure Trail where
  gap : List Char
  comment : List Char
  gap_blank : Text.isAllBlank gap
  gap_ne : gap ≠ []
  trimmed : Text.trimEnd ('#' :: comment) = '#' :: comment

namespace Trail

variable (t : Trail) {cs : List Char}

def text : List Char := t.gap ++ '#' :: t.comment

theorem not_blank : Text.isAllBlank t.text = false := by
  have hash : Text.isBlank '#' = false := by decide
  simp [text, hash]

theorem trimEnd_text : Text.trimEnd t.text = t.text := by
  have hash : Text.isBlank '#' = false := by decide
  rw [text, Text.trimEnd_append (by simp [hash]), t.trimmed]

theorem trimStart_text : Text.trimStart t.text = '#' :: t.comment := by
  have hash : Text.isBlank '#' = false := by decide
  rw [text, Text.trimStart_append_of_blank t.gap_blank, Text.trimStart_cons, hash]
  rfl

/-- A comment behind blanks leaves a comment alone. -/
theorem trim_append_of_blank (h : Text.isAllBlank cs) :
    Text.trim (cs ++ t.text) = '#' :: t.comment := by
  rw [Text.trim, Text.trimStart_append_of_blank h, t.trimStart_text, t.trimmed]

theorem trim_append (h : Text.isAllBlank cs = false) (hend : Text.trimEnd cs = cs) :
    Text.trim (cs ++ t.text) = Text.trim cs ++ t.text := by
  have hstart : Text.trimEnd (Text.trimStart cs) = Text.trimStart cs := by
    rw [← Text.margin_append_trimStart cs] at hend
    exact Text.trimEnd_eq_self_of_append hend
  rw [Text.trim, Text.trim, Text.trimStart_append h, Text.trimEnd_append t.not_blank,
    t.trimEnd_text, hstart]

theorem head?_text : ∀ c ∈ t.text.head?, Text.isNameChar c = false := by
  intro c hc
  obtain ⟨d, gap, hgap⟩ := List.exists_cons_of_ne_nil t.gap_ne
  obtain rfl : d = c := by simpa [text, hgap] using hc
  have hd : Text.isBlank d := Text.isAllBlank_iff.mp t.gap_blank d (by simp [hgap])
  exact Text.isNameChar_of_isBlank hd

end Trail

namespace Line

/-- A line of code without a `#`, whose text ends where its last word ends. -/
structure IsPlain (l : Line) : Prop where
  ne_nil : l.text ≠ []
  trimmed : Text.trimEnd l.text = l.text
  hash : '#' ∉ l.text

/-- The same line with a comment behind its text. -/
def commented (t : Trail) (l : Line) : Line := { l with text := l.text ++ t.text }

@[simp] theorem indent_commented (t : Trail) (l : Line) : (l.commented t).indent = l.indent := rfl

variable {l : Line}

theorem IsPlain.isComment (h : l.IsPlain) : l.isComment = false := by
  obtain ⟨c, cs, hcs⟩ := List.exists_cons_of_ne_nil h.ne_nil
  have hc : c ≠ '#' := by
    rintro rfl
    exact h.hash (by simp [hcs])
  simp [Line.isComment, hcs, hc]

theorem IsPlain.isCode (h : l.IsPlain) : l.isCode := by
  simp [Line.isCode, h.isComment, Line.isEmpty, h.ne_nil]

theorem IsPlain.isComment_commented (h : l.IsPlain) (t : Trail) :
    (l.commented t).isComment = false := by
  obtain ⟨c, cs, hcs⟩ := List.exists_cons_of_ne_nil h.ne_nil
  have hcomment := h.isComment
  simp only [Line.isComment, hcs, List.head?_cons] at hcomment
  simp only [Line.isComment, commented, hcs, List.cons_append, List.head?_cons, hcomment]

theorem IsPlain.isCode_commented (h : l.IsPlain) (t : Trail) : (l.commented t).isCode := by
  have hne : (l.commented t).isEmpty = false := by simp [commented, Line.isEmpty, h.ne_nil]
  simp [Line.isCode, h.isComment_commented t, hne]

end Line

namespace Document

variable {cs text name rest : List Char} {items : List Item} {r s : Reader} {l : Line}

/-! ## Comments behind headers and statements -/

theorem dropComment_trail (t : Trail) (h : '#' ∉ cs) :
    dropComment (cs ++ t.text) = Text.trimEnd cs := by
  rw [Trail.text, ← List.append_assoc]
  exact dropComment_append h t.gap_blank t.gap_ne t.comment

theorem dropAnyComment_trail (t : Trail) (h : '#' ∉ cs) :
    dropAnyComment (cs ++ t.text) = Text.trimEnd cs := by
  rw [Trail.text, ← List.append_assoc]
  exact dropAnyComment_append h t.gap_blank t.comment

theorem splitHeading?_trail (t : Trail) (cs : List Char) :
    splitHeading? (cs ++ t.text) =
      (splitHeading? cs).map fun (name, rest) => (name, rest ++ t.text) := by
  simp only [splitHeading?, Text.splitName_append_of_head t.head?_text]
  cases hblank : Text.isAllBlank (Text.splitName cs).2 with
  | true =>
    rw [Text.trimStart_append_of_blank hblank, t.trimStart_text,
      Text.trimStart_eq_nil_iff.mpr hblank]
    rfl
  | false =>
    rw [Text.trimStart_append hblank]
    cases hrest : Text.trimStart (Text.splitName cs).2 with
    | nil => simp [Text.trimStart_eq_nil_iff.mp hrest] at hblank
    | cons c after =>
      by_cases hc : c = ':'
      · subst hc
        cases (Text.splitName cs).1.isEmpty <;> rfl
      · simp [hc]

theorem mem_of_splitName {c : Char} (h : Text.splitName text = (name, rest)) (hc : c ∈ rest) :
    c ∈ text := by
  have happend := Text.splitName_append text
  rw [h] at happend
  rw [← happend]
  exact List.mem_append_right _ hc

/-- A call on one line is the same call with a comment behind it. -/
theorem statement_call_trail (t : Trail) (hash : '#' ∉ text) {call : Invocation}
    (h : statement text = .action (.call call)) :
    statement (text ++ t.text) = .action (.call call) := by
  obtain ⟨name, cs, inner, tail, hsplit, hne, hclosing, htail, rfl⟩ := exists_of_statement_call h
  have hsplit' : Text.splitName (text ++ t.text) = (name, '(' :: (cs ++ t.text)) := by
    rw [Text.splitName_append_of_head t.head?_text, hsplit]
    rfl
  have hash' : '#' ∉ tail := by
    intro hmem
    have hcs := eq_append_of_closing hclosing
    exact hash (mem_of_splitName hsplit (by simp [hcs, hmem]))
  rw [dropComment_of_not_mem hash'] at htail
  have hblank : Text.isAllBlank (dropComment (tail ++ t.text)) := by
    rw [dropComment_trail t hash', Text.trimEnd_eq_nil_iff.mpr htail]
    rfl
  rw [statement_of_open hsplit' hne, closing_append, hclosing]
  exact if_pos hblank

/-- What an open call with a comment behind it comes to is up to the parentheses of the comment. -/
theorem statement_unclosed_trail (t : Trail) (hash : '#' ∉ text) (hend : Text.trimEnd text = text)
    {inner : List Char} {depth : Nat} (h : statement text = .unclosed name inner depth) :
    statement (text ++ t.text) =
      match closing depth t.text with
      | .unclosed depth => .unclosed name inner depth
      | .closed more tail =>
        if Text.isAllBlank (dropComment tail) then .action (.call (invocation name (inner ++ more)))
        else .action (.shell (String.ofList (text ++ t.text))) := by
  obtain ⟨cs, hsplit, hne, hclosing, rfl⟩ := exists_of_statement_unclosed h
  have hsplit' : Text.splitName (text ++ t.text) = (name, '(' :: (cs ++ t.text)) := by
    rw [Text.splitName_append_of_head t.head?_text, hsplit]
    rfl
  have hash' : '#' ∉ cs := fun hmem => hash (mem_of_splitName hsplit (by simp [hmem]))
  have hcs : Text.trimEnd cs = cs := by
    have happend := Text.splitName_append text
    rw [hsplit] at happend
    rw [← happend] at hend
    refine Text.trimEnd_eq_self_of_append (a := name ++ ['(']) ?_
    simpa using hend
  rw [statement_of_open hsplit' hne, closing_append, hclosing, dropComment_trail t hash', hcs,
    dropComment_of_not_mem hash']
  dsimp only
  cases closing depth t.text <;> rfl

/-! ## Comments behind the lines of a document -/

theorem rest_of_splitHeading? (hl : l.IsPlain) (h : splitHeading? l.text = some (name, rest)) :
    Text.trimEnd rest = rest ∧ '#' ∉ rest := by
  obtain ⟨-, gap, -, htext⟩ := exists_of_splitHeading? h
  have htext : l.text = name ++ (gap ++ [':']) ++ rest := by simp [htext]
  have htrimmed := hl.trimmed
  have hhash := hl.hash
  rw [htext] at htrimmed hhash
  exact ⟨Text.trimEnd_eq_self_of_append htrimmed, fun hmem => hhash (List.mem_append_right _ hmem)⟩

/-- The statement behind the header of a method. -/
def inlineStatement? (text : List Char) : Option (List Char) :=
  match splitHeading? text with
  | none => none
  | some (_, rest) => if Text.isAllBlank rest then none else some (Text.trim rest)

theorem exists_of_inlineStatement? {header : List Char}
    (h : inlineStatement? header = some text) :
    ∃ name rest, splitHeading? header = some (name, rest) ∧ Text.isAllBlank rest = false ∧
      text = Text.trim rest := by
  unfold inlineStatement? at h
  split at h
  · simp at h
  · rename_i name rest hheading
    split at h
    · simp at h
    · rename_i hblank
      exact ⟨name, rest, hheading, by simpa using hblank, by simpa using h.symm⟩

/-- The same, for a line that can be the header of a method. -/
def indentedStatement? (l : Line) : Option (List Char) :=
  if l.indent = 0 then none else inlineStatement? l.text

/-- The statement that a line holds, if it is one of those that are read with their comment. -/
def Mode.statement? (l : Line) : Mode → Option (List Char)
  | .top => none
  | .methods _ => indentedStatement? l
  | .block b => if b.indent < l.indent then some l.text else indentedStatement? l
  | .invocation _ _ => none

theorem plain_of_inlineStatement? (hl : l.IsPlain) (h : inlineStatement? l.text = some text) :
    '#' ∉ text ∧ Text.trimEnd text = text := by
  obtain ⟨name, rest, hheading, -, rfl⟩ := exists_of_inlineStatement? h
  obtain ⟨-, hash⟩ := rest_of_splitHeading? hl hheading
  exact ⟨fun hmem => hash (Text.mem_of_mem_trim hmem), Text.trimEnd_trim rest⟩

theorem plain_of_statement? (hl : l.IsPlain) {m : Mode} (h : m.statement? l = some text) :
    '#' ∉ text ∧ Text.trimEnd text = text := by
  have hindented (h : indentedStatement? l = some text) :
      '#' ∉ text ∧ Text.trimEnd text = text := by
    unfold indentedStatement? at h
    split at h
    · cases h
    · exact plain_of_inlineStatement? hl h
  cases m with
  | top => cases h
  | methods d => exact hindented h
  | block b =>
    by_cases hindent : b.indent < l.indent
    · obtain rfl : l.text = text := by simpa [Mode.statement?, hindent] using h
      exact ⟨hl.hash, hl.trimmed⟩
    · simp only [Mode.statement?, if_neg hindent] at h
      exact hindented h
  | invocation p c => cases h

namespace Reader

theorem readStatement_trail (t : Trail) (hash : '#' ∉ text) (hend : Text.trimEnd text = text)
    (hscript : ∀ script, statement text ≠ .action (.shell script))
    (hquiet : ∀ name inner depth, statement text = .unclosed name inner depth →
      closing depth t.text = .unclosed depth)
    (items : List Item) (line column : Nat) (p : Place) :
    readStatement items line column (text ++ t.text) p =
      readStatement items line column text p := by
  unfold readStatement
  cases h : statement text with
  | action a =>
    cases a with
    | shell script => exact absurd h (hscript script)
    | call call => rw [statement_call_trail t hash h]
  | unclosed name inner depth =>
    rw [statement_unclosed_trail t hash hend h, hquiet name inner depth h]

theorem continueInvocation_trail (t : Trail) (hl : l.IsPlain) (items : List Item) (p : Place)
    (c : OpenInvocation) :
    continueInvocation items p c (l.commented t) = continueInvocation items p c l := by
  have htext : dropComment (l.commented t).text = dropComment l.text := by
    rw [Line.commented, dropComment_trail t hl.hash, dropComment_of_not_mem hl.hash, hl.trimmed]
  rw [continueInvocation, continueInvocation, htext]
  rfl

/-- A header with a statement hands the statement on, with the comment if there is one. -/
theorem readMethod_of_inline (t : Trail) (hl : l.IsPlain) {d : Declaration}
    (htext : inlineStatement? l.text = some text) (h : readMethod items d l = .ok s) :
    ∃ column method,
      readMethod items d l =
        readStatement items l.number column text (.inline d method l.number) ∧
      readMethod items d (l.commented t) =
        readStatement items l.number column (text ++ t.text) (.inline d method l.number) := by
  obtain ⟨name, rest, hheading, hblank, rfl⟩ := exists_of_inlineStatement? htext
  obtain ⟨hend, hash⟩ := rest_of_splitHeading? hl hheading
  cases hmethod : Method.ofName? (String.ofList name) with
  | none => simp [readMethod, hheading, hmethod] at h
  | some method =>
    have hne : Text.trim rest ≠ [] := by simp [Text.trim_eq_nil_iff, hblank]
    obtain ⟨c, cs, hcs⟩ := List.exists_cons_of_ne_nil hne
    have hc : c ≠ '#' := by
      rintro rfl
      exact hash (Text.mem_of_mem_trim (by simp [hcs]))
    have hcode : ((Text.trim rest).isEmpty || (Text.trim rest).head? == some '#') = false := by
      simp [hcs, hc]
    have hcode' : ((Text.trim rest ++ t.text).isEmpty ||
        (Text.trim rest ++ t.text).head? == some '#') = false := by
      simp [hcs, hc]
    refine ⟨l.indent + (Text.width l.text - Text.width (Text.trimStart rest)) + 1, method, ?_, ?_⟩
    · simp only [readMethod, hheading, hmethod, hcode]
      rfl
    · simp only [readMethod, Line.commented, splitHeading?_trail, hheading, Option.map_some,
        hmethod, t.trim_append hblank hend, hcode', Text.trimStart_append hblank, Text.width_append,
        Nat.add_sub_add_right]
      rfl

theorem readMethod_of_none (t : Trail) {d : Declaration} (htext : inlineStatement? l.text = none)
    (h : readMethod items d l = .ok s) : readMethod items d (l.commented t) = .ok s := by
  cases hheading : splitHeading? l.text with
  | none => simp [readMethod, hheading] at h
  | some heading =>
    obtain ⟨name, rest⟩ := heading
    have hblank : Text.isAllBlank rest := by
      by_contra hblank
      simp [inlineStatement?, hheading, hblank] at htext
    simp only [readMethod, hheading, Text.trim_eq_nil_iff.mpr hblank] at h
    simp only [readMethod, Line.commented, splitHeading?_trail, hheading, Option.map_some,
      t.trim_append_of_blank hblank]
    exact h

theorem readItem_trail (t : Trail) (hl : l.IsPlain)
    (h : readItem items l = .ok s) : readItem items (l.commented t) = .ok s := by
  have htext : dropAnyComment (l.text ++ t.text) = dropAnyComment l.text := by
    rw [dropAnyComment_trail t hl.hash, dropAnyComment_of_not_mem hl.hash, hl.trimmed]
  rw [readItem] at h
  rw [readItem, Line.commented, htext]
  dsimp only at h ⊢
  split at h
  · simp at h
  · rename_i hindent
    rw [if_neg hindent]
    cases hrecipe : recipeHeading? (dropAnyComment l.text) with
    | some rest =>
      rw [hrecipe] at h
      exact h
    | none =>
      simp only [hrecipe] at h
      dsimp only
      rw [splitHeading?_trail]
      cases hheading : splitHeading? l.text with
      | some heading =>
        obtain ⟨name, rest⟩ := heading
        obtain ⟨hend, hash⟩ := rest_of_splitHeading? hl hheading
        simp only [hheading, dropComment_of_not_mem hash] at h
        simp only [Option.map_some, dropComment_trail t hash, hend, Text.width_append,
          Nat.add_sub_add_right]
        exact h
      | none =>
        rw [hheading] at h
        obtain ⟨item, hdependency, h⟩ := exists_of_bind_ok h
        dsimp only [Option.map_none]
        rw [hdependency]
        cases item with
        | none => cases h
        | some item => exact h

theorem afterMethod_of_none (t : Trail) (hl : l.IsPlain) {d : Declaration}
    (htext : indentedStatement? l = none) (h : afterMethod items d l = .ok s) :
    afterMethod items d (l.commented t) = .ok s := by
  rw [afterMethod] at h
  rw [afterMethod, Line.indent_commented]
  by_cases hindent : l.indent = 0
  · rw [if_pos hindent] at h
    rw [if_pos hindent]
    obtain ⟨item, hclose, h⟩ := exists_of_bind_ok h
    rw [hclose]
    exact readItem_trail t hl h
  · rw [if_neg hindent] at h
    rw [if_neg hindent]
    rw [indentedStatement?, if_neg hindent] at htext
    exact readMethod_of_none t htext h

/-- Where no statement is read with its comment, the comment does nothing. -/
theorem feed_of_none (t : Trail) (hl : l.IsPlain) (htext : r.mode.statement? l = none)
    (h : feed r l = .ok s) : feed r (l.commented t) = .ok s := by
  have hcode := hl.isCode
  have hcode' := hl.isCode_commented t
  obtain ⟨items, mode⟩ := r
  cases mode with
  | top =>
    rw [feed_top hcode] at h
    rw [feed_top hcode']
    exact readItem_trail t hl h
  | methods d =>
    rw [feed_methods hcode] at h
    rw [feed_methods hcode']
    exact afterMethod_of_none t hl htext h
  | block b =>
    by_cases hindent : b.indent < l.indent
    · simp [Mode.statement?, hindent] at htext
    · simp only [Mode.statement?, if_neg hindent] at htext
      rw [feed_dedent hcode (Nat.le_of_not_lt hindent)] at h
      rw [feed_dedent hcode' (Nat.le_of_not_lt hindent)]
      exact afterMethod_of_none t hl htext h
  | invocation p c =>
    rw [feed_invocation hl.isComment] at h
    rw [feed_invocation (hl.isComment_commented t), continueInvocation_trail t hl]
    exact h

theorem afterMethod_of_statement (t : Trail) (hl : l.IsPlain) {d : Declaration}
    (htext : indentedStatement? l = some text) (h : afterMethod items d l = .ok s) :
    ∃ column p, p.IsMethod ∧
      afterMethod items d l = readStatement items l.number column text p ∧
      afterMethod items d (l.commented t) =
        readStatement items l.number column (text ++ t.text) p := by
  by_cases hindent : l.indent = 0
  · simp [indentedStatement?, hindent] at htext
  · rw [indentedStatement?, if_neg hindent] at htext
    rw [afterMethod, if_neg hindent] at h
    obtain ⟨column, method, hplain, hcomment⟩ := readMethod_of_inline t hl htext h
    refine ⟨column, .inline d method l.number, trivial, ?_, ?_⟩
    · rw [afterMethod, if_neg hindent, hplain]
    · rw [afterMethod, Line.indent_commented, if_neg hindent, hcomment]

/-- The statements of methods are read with the comment behind them. -/
theorem feed_of_statement (t : Trail) (hl : l.IsPlain) (htext : r.mode.statement? l = some text)
    (h : feed r l = .ok s) :
    ∃ column p, p.IsMethod ∧ feed r l = readStatement r.items l.number column text p ∧
      feed r (l.commented t) = readStatement r.items l.number column (text ++ t.text) p := by
  have hcode := hl.isCode
  have hcode' := hl.isCode_commented t
  obtain ⟨items, mode⟩ := r
  cases mode with
  | top => simp [Mode.statement?] at htext
  | methods d =>
    rw [feed_methods hcode] at h ⊢
    rw [feed_methods hcode']
    exact afterMethod_of_statement t hl htext h
  | block b =>
    by_cases hindent : b.indent < l.indent
    · obtain rfl : l.text = text := by simpa [Mode.statement?, hindent] using htext
      refine ⟨l.indent + 1, .block b, trivial, feed_block hcode hindent, ?_⟩
      exact feed_block hcode' hindent
    · simp only [Mode.statement?, if_neg hindent] at htext
      rw [feed_dedent hcode (Nat.le_of_not_lt hindent)] at h ⊢
      rw [feed_dedent hcode' (Nat.le_of_not_lt hindent)]
      exact afterMethod_of_statement t hl htext h
  | invocation p c => simp [Mode.statement?] at htext

end Reader

end Document

end Provision
