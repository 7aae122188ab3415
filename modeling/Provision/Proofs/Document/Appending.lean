import Provision.Proofs.Document.Numbering

namespace Provision.Document

namespace Reader

variable {r s : Reader} {l : Line} {d : Document}

theorem finish_skipLine (h : r.finish = .ok d) :
    finish ⟨r.items, r.mode.skipLine⟩ = .ok d := by
  obtain ⟨items, mode⟩ := r
  cases mode with
  | top => exact h
  | methods declaration => exact h
  | block b => exact h
  | invocation p c => exact absurd h (by simp [finish])

/-- A reader that could stop begins the next item just where a fresh reader does. -/
theorem feed_of_finish (h : r.finish = .ok d) (hcode : l.isCode) (hindent : l.indent = 0) :
    feed r l = readItem d l := by
  obtain ⟨items, mode⟩ := r
  have hclose (declaration : Declaration)
      (h : (do return items ++ [← declaration.close] : Except ParseError Document) = .ok d) :
      afterMethod items declaration l = readItem d l := by
    rw [afterMethod, if_pos hindent]
    obtain ⟨item, hitem, h⟩ := exists_of_bind_ok h
    cases h
    rw [hitem]
    rfl
  cases mode with
  | top =>
    have hd : items = d := by simpa [finish] using h
    rw [feed_top hcode, hd]
  | methods declaration =>
    rw [feed_methods hcode]
    exact hclose declaration h
  | block b =>
    rw [feed_dedent hcode (by omega)]
    exact hclose b.close h
  | invocation p c => exact absurd h (by simp [finish])

/-- What a fresh reader makes of lines, a reader that could stop makes of them, behind what it has
read. -/
theorem exists_foldlM_feed {f : Nat → Nat} {ls : List Line} (hr : r.finish = .ok d)
    (hs : ls.foldlM feed start = .ok s) :
    ∃ t, (ls.map (Line.renumber f)).foldlM feed r = .ok t ∧
      t.finish = (s.relocate f d).finish := by
  induction ls generalizing r with
  | nil =>
    obtain rfl : start = s := by simpa [pure, Except.pure] using hs
    exact ⟨r, rfl, by simpa [start, finish, Mode.renumber] using hr⟩
  | cons l ls ih =>
    rw [List.foldlM_cons] at hs
    rw [List.map_cons, List.foldlM_cons]
    rcases l.kinds with hcomment | hempty | hcode
    · rw [feed_comment hcomment] at hs
      rw [feed_comment ((Line.isComment_renumber f l).trans hcomment)]
      exact ih hr hs
    · rw [feed_empty hempty] at hs
      rw [feed_empty ((Line.isEmpty_renumber f l).trans hempty)]
      exact ih (finish_skipLine hr) hs
    · rw [start, feed_top hcode] at hs
      have hindent : l.indent = 0 := by
        by_contra hne
        simp [readItem, hne, bind, Except.bind] at hs
      -- From the first line of code on, both readers are in the same state, items apart.
      refine ⟨s.relocate f d, ?_, rfl⟩
      have hitem := @readItem_relocate f d [] l
      rw [List.map_nil, List.append_nil] at hitem
      rw [feed_of_finish hr (by exact hcode) (by simpa using hindent), hitem]
      rw [relocated_bind (h := relocate f d) fun t => foldlM_feed_relocate ls t, hs]
      rfl

end Reader

/-- Lines that make a document, behind lines that make one, make both. -/
theorem ofLines_append {f : Nat → Nat} {a b : List Line} {da db : Document}
    (ha : ofLines a = .ok da) (hb : ofLines b = .ok db) :
    ofLines (a ++ b.map (Line.renumber f)) = .ok (da ++ db.map (Item.renumber f)) := by
  obtain ⟨r, hr, hfinish⟩ := exists_of_bind_ok ha
  obtain ⟨s, hs, hdb⟩ := exists_of_bind_ok hb
  obtain ⟨t, ht, hrelocated⟩ := Reader.exists_foldlM_feed (f := f) hfinish hs
  rw [Reader.finish_relocate, hdb, relocated_ok] at hrelocated
  rw [ofLines, List.foldlM_append, hr, ← hrelocated]
  exact congrArg (· >>= Reader.finish) ht

/-- A text whose last line has ended can be followed by any other one: where both are documents,
they are one document together. -/
theorem parse_append {a b : String} {da db : Document} (hend : Text.EndsLine a.toList)
    (ha : parse a = .ok da) (hb : parse b = .ok db) :
    parse (a ++ b) = .ok (da ++ db.map (Item.shift (Text.lines a.toList).length)) := by
  have hlines : Line.ofTexts 1 (Text.lines (a ++ b).toList) =
      Line.ofTexts 1 (Text.lines a.toList) ++ (Line.ofTexts 1 (Text.lines b.toList)).map
        (Line.renumber (· + (Text.lines a.toList).length)) := by
    rw [String.toList_append, Text.lines_append hend, Line.ofTexts_append, Line.ofTexts_add]
    rfl
  rw [parse, hlines, Item.shift_eq_renumber]
  exact ofLines_append ha hb

/-- The block of the first text is still open where the second text begins with a comment that is
indented as deep as the block. -/
theorem parse_append_stove :
    parse ("lamp:\n  setup:\n    apt(lamp\n      oil)\n    wick trim\n" ++
        "    # warm\n\nstove: apt(stove)\nstove -> lamp") =
      .ok [.target "lamp"
          [⟨.setup, [.call ⟨"apt", [["lamp", "oil"]]⟩, .shell "wick trim"], 2⟩] 1,
        .shortcut "stove" ⟨"apt", [["stove"]]⟩ 8,
        .dependency ⟨"stove", .dependsOn, ["lamp"]⟩ 9] := by
  have hlamp : parse "lamp:\n  setup:\n    apt(lamp\n      oil)\n    wick trim\n" =
      .ok [.target "lamp"
        [⟨.setup, [.call ⟨"apt", [["lamp", "oil"]]⟩, .shell "wick trim"], 2⟩] 1] := by
    decide +kernel
  have hstove : parse "    # warm\n\nstove: apt(stove)\nstove -> lamp" =
      .ok [.shortcut "stove" ⟨"apt", [["stove"]]⟩ 3,
        .dependency ⟨"stove", .dependsOn, ["lamp"]⟩ 4] := by
    decide +kernel
  exact parse_append (by decide +kernel) hlamp hstove

end Provision.Document
