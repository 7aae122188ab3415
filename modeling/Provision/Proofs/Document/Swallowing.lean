import Provision.Proofs.Document.Trailing

namespace Provision.Document

variable {cs text name inner : List Char} {items : List Item} {r s : Reader} {l : Line}
  {p : Place} {d : Document}

/-! ## What is read of a call that goes on -/

/-- The blanks apart, a text does not begin with a `#`. -/
def NotHashed (cs : List Char) : Prop := (cs.filter (!Text.isBlank ·)).head? ≠ some '#'

theorem not_notHashed {gap : List Char} (h : Text.isAllBlank gap) (cs : List Char) :
    ¬ NotHashed (gap ++ '#' :: cs) := by
  have hgap : gap.filter (!Text.isBlank ·) = [] := by simpa using Text.isAllBlank_iff.mp h
  have hash : Text.isBlank '#' = false := by decide
  simp [NotHashed, hgap, hash]

theorem NotHashed.cons {c : Char} (h : NotHashed cs) (hc : Text.isBlank c) :
    NotHashed (c :: cs) := by
  rw [NotHashed, List.filter_cons_of_neg (by simp [hc])]
  exact h

/-- A line that is no comment does not begin with a `#`, so nothing that it begins with does. -/
theorem NotHashed.append {l : Line} (htext : ∀ c ∈ l.text.head?, Text.isBlank c = false)
    (hcomment : l.isComment = false) {cs tail : List Char} (hcs : cs <+: l.text)
    (h : NotHashed tail) : NotHashed (cs ++ tail) := by
  cases cs with
  | nil => exact h
  | cons c cs =>
    obtain ⟨rest, hrest⟩ := hcs
    have hhead : l.text.head? = some c := by rw [← hrest]; rfl
    have hc : Text.isBlank c = false := htext c hhead
    have hne : c ≠ '#' := by
      rintro rfl
      simp [Line.isComment, hhead] at hcomment
    rw [NotHashed, List.cons_append, List.filter_cons_of_pos (by simp [hc])]
    simpa using hne

namespace Reader

/-- A call that goes on ends in some later line, where it is added to the actions. Its text goes on
with lines of which none is a comment, and that close all parentheses. -/
theorem exists_call_of_foldlM {ls : List Line}
    (hls : ∀ l ∈ ls, ∀ c ∈ l.text.head?, Text.isBlank c = false) (hp : p.IsMethod)
    {c : OpenInvocation} (hdepth : 1 ≤ c.depth)
    (h : ls.foldlM feed ⟨items, .invocation p c⟩ = .ok s) (hd : s.finish = .ok d) :
    ∃ tail, items.flatMap Item.actions ++ p.actions ++
        [.call (invocation c.name (c.inner ++ tail))] <+: d.flatMap Item.actions ∧
      tail.count '(' + c.depth = tail.count ')' + 1 ∧ NotHashed tail := by
  induction ls generalizing c with
  | nil =>
    cases h
    cases hd
  | cons l ls ih =>
    rw [List.foldlM_cons] at h
    obtain ⟨t, ht, h⟩ := exists_of_bind_ok h
    have hls' : ∀ l ∈ ls, ∀ c ∈ l.text.head?, Text.isBlank c = false := by
      intro l hl
      exact hls l (List.mem_cons_of_mem _ hl)
    cases hcomment : l.isComment with
    | true =>
      rw [feed_comment hcomment] at ht
      cases ht
      exact ih hls' hdepth h
    | false =>
      rw [feed_invocation hcomment, continueInvocation] at ht
      have hbalance := balances_closing hdepth (dropComment l.text)
      cases hclosing : closing c.depth (dropComment l.text) with
      | unclosed depth =>
        rw [hclosing] at ht hbalance
        cases ht
        obtain ⟨hdepth', hcount⟩ := hbalance
        obtain ⟨tail, hcall, htail, hhash⟩ := ih hls' hdepth' h
        refine ⟨'\n' :: dropComment l.text ++ tail, by simpa using hcall, ?_, ?_⟩
        · simp only [List.cons_append, List.count_cons, List.count_append] at htail ⊢
          simp
          omega
        · have hmore := hhash.append (hls l (by simp)) hcomment (isPrefix_dropComment l.text)
          exact hmore.cons (by decide)
      | closed first rest =>
        rw [hclosing] at ht hbalance
        dsimp only at ht
        split at ht
        · refine ⟨'\n' :: first, ?_, ?_, ?_⟩
          · rw [← actions_of_put hp ht, actions_of_finish hd]
            exact prefix_actions_of_foldlM h
          · have hcount : first.count '(' + c.depth = first.count ')' + 1 := hbalance
            simpa using hcount
          · have hfirst : first <+: l.text := by
              refine List.IsPrefix.trans ?_ (isPrefix_dropComment l.text)
              rw [eq_append_of_closing hclosing]
              exact List.prefix_append ..
            have hnil : NotHashed [] := by simp [NotHashed]
            have hhash := hnil.append (hls l (by simp)) hcomment hfirst
            rw [List.append_nil] at hhash
            exact hhash.cons (by decide)
        · cases ht

/-! ## Comments that become part of a call -/

theorem eq_of_prefix {before actions : List Action} {a b : Action} (ha : before ++ [a] <+: actions)
    (hb : before ++ [b] <+: actions) : a = b := by
  have hab : before ++ [a] <+: before ++ [b] := List.prefix_of_prefix_length_le ha hb (by simp)
  simpa using hab.eq_of_length (by simp)

theorem filter_eq_of_invocation_eq {a b : List Char} (h : invocation name a = invocation name b) :
    a.filter (!Text.isBlank ·) = b.filter (!Text.isBlank ·) := by
  have hgroups : groups a = groups b := congrArg Invocation.groups h
  rw [← intercalate_groups, hgroups, intercalate_groups]

/-- The text of a call keeps its parentheses when it is parted into groups. -/
theorem count_eq_of_invocation_eq {a b : List Char} (h : invocation name a = invocation name b)
    {c : Char} (hc : Text.isBlank c = false) : a.count c = b.count c := by
  have hfilter (cs : List Char) : (cs.filter (!Text.isBlank ·)).count c = cs.count c :=
    List.count_filter (by simp [hc])
  rw [← hfilter, filter_eq_of_invocation_eq h, hfilter]

theorem exists_of_closing_text {t : Trail} {depth : Nat} {more rest : List Char}
    (h : closing depth t.text = .closed more rest) : ∃ tail, more = t.gap ++ '#' :: tail := by
  have hsharp : closing depth ('#' :: t.comment) = (closing depth t.comment).cons '#' := rfl
  rw [Trail.text, closing_append, closing_of_isAllBlank t.gap_blank] at h
  dsimp only at h
  rw [hsharp] at h
  cases hcomment : closing depth t.comment with
  | unclosed left => simp [hcomment, Closing.cons, Closing.after] at h
  | closed tail rest' =>
    rw [hcomment] at h
    cases h
    exact ⟨tail, rfl⟩

/-- Where a comment changes how many parentheses are open, the call behind which it stands is not
the call that is read without it. -/
theorem ne_of_swallowed (t : Trail) (hl : l.IsPlain) (htext : r.mode.statement? l = some text)
    {depth : Nat} (hopen : statement text = .unclosed name inner depth)
    (hparens : closing depth t.text ≠ .unclosed depth) {ls : List Line}
    (hls : ∀ l ∈ ls, ∀ c ∈ l.text.head?, Text.isBlank c = false) {s' : Reader} {d' : Document}
    (h : feed r l = .ok s) (hd : (ls.foldlM feed s >>= finish) = .ok d)
    (h' : feed r (l.commented t) = .ok s') (hd' : (ls.foldlM feed s' >>= finish) = .ok d') :
    d' ≠ d := by
  rintro rfl
  obtain ⟨column, p, hp, hplain, hcommented⟩ := feed_of_statement t hl htext h
  obtain ⟨hash, hend⟩ := plain_of_statement? hl htext
  obtain ⟨u, hu, hfinish⟩ := exists_of_bind_ok hd
  obtain ⟨u', hu', hfinish'⟩ := exists_of_bind_ok hd'
  have hdepth : 1 ≤ depth := by
    obtain ⟨cs, -, -, hclosing, -⟩ := exists_of_statement_unclosed hopen
    have hbalance := balances_closing (le_refl 1) cs
    rw [hclosing] at hbalance
    exact hbalance.1
  rw [hplain, readStatement, hopen] at h
  cases h
  obtain ⟨tail, hcall, hcount, hhash⟩ := exists_call_of_foldlM hls hp hdepth hu hfinish
  rw [hcommented, readStatement, statement_unclosed_trail t hash hend hopen] at h'
  -- What is put in place of the call ends up where the call does.
  have hput {a : Action} (h' : put r.items column a p = .ok s') :
      a = .call (invocation name (inner ++ tail)) := by
    have hmore := prefix_actions_of_foldlM hu'
    rw [actions_of_put hp h', ← actions_of_finish hfinish'] at hmore
    exact eq_of_prefix hmore hcall
  cases hclosing : closing depth t.text with
  | unclosed depth' =>
    have hbalance := balances_closing hdepth t.text
    rw [hclosing] at h' hparens hbalance
    cases h'
    obtain ⟨tail', hcall', hcount', -⟩ := exists_call_of_foldlM hls hp hbalance.1 hu' hfinish'
    have hsame : invocation name (inner ++ tail') = invocation name (inner ++ tail) := by
      simpa using eq_of_prefix hcall' hcall
    have hopens := count_eq_of_invocation_eq hsame (c := '(') (by decide)
    have hcloses := count_eq_of_invocation_eq hsame (c := ')') (by decide)
    rw [List.count_append, List.count_append] at hopens hcloses
    dsimp only at hcount hcount'
    exact hparens (congrArg Closing.unclosed (by omega))
  | closed more rest =>
    rw [hclosing] at h'
    dsimp only at h'
    by_cases hblank : Text.isAllBlank (dropComment rest)
    · rw [if_pos hblank] at h'
      obtain ⟨tail', rfl⟩ := exists_of_closing_text hclosing
      have hsame := filter_eq_of_invocation_eq (Action.call.inj (hput h'))
      rw [List.filter_append, List.filter_append inner, List.append_cancel_left_eq] at hsame
      rw [NotHashed, ← hsame] at hhash
      exact not_notHashed t.gap_blank tail' hhash
    · rw [if_neg hblank] at h'
      cases hput h'

end Reader

theorem head?_text_ofTexts (first : Nat) (ls : List (List Char)) :
    ∀ l ∈ Line.ofTexts first ls, ∀ c ∈ l.text.head?, Text.isBlank c = false := by
  induction ls generalizing first with
  | nil => simp [Line.ofTexts]
  | cons raw ls ih =>
    intro l hl
    rcases List.mem_cons.mp hl with rfl | hl
    · exact Text.isBlank_head_trim raw
    · exact ih (first + 1) l hl

/-- What is read from a line on that is no script stays as it is with a comment behind that line,
just if the line overlooks the comment. -/
theorem Reader.read_comment_iff {raw comment b : List Char} (hash : '#' ∉ raw) (n : Nat)
    (hline : r.mode.IsStructural (.ofText n raw))
    (hd : (r.feed (.ofText n raw) >>= fun s => s.read (n + 1) b >>= finish) = .ok d) :
    (r.feed (.ofText n (raw ++ ' ' :: '#' :: comment)) >>= fun s =>
        s.read (n + 1) b >>= finish) = .ok d ↔
      r.mode.Overlooks (.ofText n raw) comment := by
  obtain ⟨s, hs, hd⟩ := exists_of_bind_ok hd
  constructor
  · intro h' text htext
    by_contra hparens
    obtain ⟨name, inner, depth, hopen⟩ :
        ∃ name inner depth, statement text = .unclosed name inner depth := by
      cases hstatement : statement text with
      | action a => simp [hstatement, Statement.LeavesOpen] at hparens
      | unclosed name inner depth => exact ⟨name, inner, depth, rfl⟩
    rw [hopen, Statement.LeavesOpen] at hparens
    have hblank : Text.isAllBlank raw = false := by
      rw [← Bool.not_eq_true, ← Text.trim_eq_nil_iff]
      exact hline.ne_nil htext
    obtain ⟨t, hcomment, hclosing⟩ := exists_commented hblank n comment
    obtain ⟨s', hs', hd'⟩ := exists_of_bind_ok h'
    rw [hcomment] at hs'
    rw [← hclosing] at hparens
    have hl := isPlain_ofText hblank hash n
    have hls := head?_text_ofTexts (n + 1) (Text.lines b)
    exact ne_of_swallowed t hl htext hopen hparens hls hs hd hs' hd' rfl
  · intro hover
    obtain ⟨s', hs', halike⟩ := feed_overlooked hash n comment hline hover hs
    obtain ⟨u, hu, hfinish⟩ := exists_of_bind_ok hd
    obtain ⟨u', hu', halike'⟩ := halike.foldlM hu
    have hread' : s'.read (n + 1) b = .ok u' := hu'
    rw [hs']
    show (s'.read (n + 1) b >>= finish) = .ok d
    rw [hread', ← hfinish, halike'.finish]
    rfl

/-- A comment behind a line of a document that is no script leaves the items as they are, unless the
line opens a call of a method that goes on below it: then the parentheses in the comment are counted
with those of the call, and have to leave as many open as there were. -/
theorem parse_comment_iff {a raw comment ending b : String} {d : Document} {r : Reader}
    (hend : Text.EndsLine a.toList) (hraw : '\n' ∉ raw.toList) (hash : '#' ∉ raw.toList)
    (hcomment : '\n' ∉ comment.toList)
    (hending : ending = "\n" ∨ ending = "\r\n" ∨ ending = "" ∧ b = "")
    (hd : parse (a ++ raw ++ ending ++ b) = .ok d) (hr : Reader.start.read 1 a.toList = .ok r)
    (hline : r.mode.IsStructural (.ofText (1 + (Text.lines a.toList).length) raw.toList)) :
    parse (a ++ raw ++ " #" ++ comment ++ ending ++ b) = .ok d ↔
      r.mode.Overlooks (.ofText (1 + (Text.lines a.toList).length) raw.toList) comment.toList := by
  -- There is a line behind the first text, or else it would have to end within a call.
  have hne : raw ++ ending ≠ "" := by
    intro hnil
    obtain ⟨rfl, rfl⟩ : raw = "" ∧ ending = "" := by simpa using hnil
    obtain rfl : b = "" := by simpa using hending
    rw [String.append_empty, String.append_empty, String.append_empty, parse_eq_read, hr] at hd
    obtain ⟨items, mode⟩ := r
    cases mode with
    | top => exact hline.1 rfl
    | methods declaration => exact hline.1 rfl
    | block block => exact hline.1 rfl
    | invocation p c => cases hd
  have hcommented : (raw ++ " #" ++ comment).toList =
      raw.toList ++ ' ' :: '#' :: comment.toList := by
    simp [String.toList_append]
  have htext : a ++ raw ++ " #" ++ comment ++ ending ++ b =
      a ++ (raw ++ " #" ++ comment) ++ ending ++ b := by
    simp only [String.append_assoc]
  have hne' : raw ++ " #" ++ comment ++ ending ≠ "" := by
    intro hnil
    simpa [String.toList_append] using congrArg String.toList hnil
  rw [parse_line hend hraw hne hending, hr] at hd
  rw [htext, parse_line hend (by simp [hraw, hcomment]) hne' hending, hr, hcommented]
  exact Reader.read_comment_iff hash _ hline hd

/-- A comment with balanced parentheses behind the first line of a call in a block. -/
theorem parse_lamp_two_tokens :
    parse "lamp:\n  setup:\n    apt(lamp # (one)\n      oil)\n" =
      .ok [.target "lamp" [⟨.setup, [.call ⟨"apt", [["lamp", "oil"]]⟩], 2⟩] 1] := by
  have hlamp : parse ("lamp:\n  setup:\n" ++ "    apt(lamp" ++ "\n" ++ "      oil)\n") =
      .ok [.target "lamp" [⟨.setup, [.call ⟨"apt", [["lamp", "oil"]]⟩], 2⟩] 1] := by decide +kernel
  have hblock : Reader.start.read 1 "lamp:\n  setup:\n".toList =
      .ok ⟨[], .block ⟨⟨.target "lamp", 1, []⟩, ⟨.setup, [], 2⟩, 2⟩⟩ := by decide +kernel
  have hiff := @parse_comment_iff "lamp:\n  setup:\n" "    apt(lamp" " (one)" "\n" "      oil)\n"
    _ _ (by decide +kernel) (by decide +kernel) (by decide +kernel) (by decide +kernel) (.inl rfl)
    hlamp hblock (by decide +kernel)
  have hover : parse ("lamp:\n  setup:\n" ++ "    apt(lamp" ++ " #" ++ " (one)" ++ "\n" ++
      "      oil)\n") = _ := hiff.mpr (by decide +kernel)
  exact hover

/-- A comment with the parenthesis that the call waits for. -/
theorem parse_lamp_smile :
    parse "lamp:\n  setup:\n    apt(lamp\n      oil)\n" =
        .ok [.target "lamp" [⟨.setup, [.call ⟨"apt", [["lamp", "oil"]]⟩], 2⟩] 1] ∧
      parse "lamp:\n  setup:\n    apt(lamp # :)\n      oil)\n" =
        .ok [.target "lamp"
          [⟨.setup, [.call ⟨"apt", [["lamp", "#", ":"]]⟩, .shell "oil)"], 2⟩] 1] := by
  decide +kernel

end Provision.Document
