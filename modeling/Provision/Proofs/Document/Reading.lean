import Provision.Document.Reader
import Provision.Proofs.Text.Blank
import Provision.Proofs.Text.Lines

namespace Provision

theorem Line.isCode_iff {l : Line} : l.isCode ↔ l.isEmpty = false ∧ l.isComment = false := by
  simp [isCode]

theorem Line.kinds (l : Line) : l.isComment ∨ l.isEmpty ∨ l.isCode := by
  cases hcomment : l.isComment <;> cases hempty : l.isEmpty <;> simp [isCode, hcomment, hempty]

/-- A text that begins with `#`, behind any margin, is a comment. -/
theorem Line.isComment_ofText {margin : List Char} (h : Text.isAllBlank margin) (n : Nat)
    (rest : List Char) : (ofText n (margin ++ '#' :: rest)).isComment := by
  have hash : Text.isBlank '#' = false := by decide
  have hstart : Text.trimStart (margin ++ '#' :: rest) = '#' :: rest := by
    rw [Text.trimStart_append_of_blank h, Text.trimStart_cons, hash]
    rfl
  obtain ⟨tail, htail, hrest⟩ := Text.exists_append_trimEnd ('#' :: rest)
  have hne : Text.trimEnd ('#' :: rest) ≠ [] := by
    intro hnil
    rw [Text.trimEnd_eq_nil_iff] at hnil
    simp [hash] at hnil
  obtain ⟨c, cs, hcs⟩ := List.exists_cons_of_ne_nil hne
  rw [hcs, List.cons_append] at hrest
  have hhead : '#' = c := (List.cons.inj hrest).1
  simp [Line.isComment, Line.ofText, Text.trim, hstart, hcs, ← hhead]

/-- The blanks that end a line do not count. -/
theorem Line.ofText_append_of_blank {a b : List Char} (ha : Text.isAllBlank a = false)
    (hb : Text.isAllBlank b) (n : Nat) : ofText n (a ++ b) = ofText n a := by
  simp only [ofText, Text.trim, Text.margin_append ha, Text.trimStart_append ha,
    Text.trimEnd_append_of_blank hb]

namespace Document

/-- A step that succeeds has come through the one before it. -/
theorem exists_of_bind_ok {ε α β : Type} {x : Except ε α} {k : α → Except ε β} {b : β}
    (h : (x >>= k) = .ok b) : ∃ a, x = .ok a ∧ k a = .ok b := by
  cases x with
  | error e => cases h
  | ok a => exact ⟨a, rfl, h⟩

namespace Reader

variable {items : List Item} {r : Reader} {l : Line}

/-! ## What a line does to a reader -/

theorem feed_comment (h : l.isComment) : feed r l = .ok r := by
  simp [feed, h]

theorem feed_top (h : l.isCode) : feed ⟨items, .top⟩ l = readItem items l := by
  obtain ⟨hempty, hcomment⟩ := Line.isCode_iff.mp h
  simp [feed, hempty, hcomment]

theorem feed_methods (h : l.isCode) (d : Declaration) :
    feed ⟨items, .methods d⟩ l = afterMethod items d l := by
  obtain ⟨hempty, hcomment⟩ := Line.isCode_iff.mp h
  simp [feed, hempty, hcomment]

theorem feed_block (h : l.isCode) {b : Block} (hindent : b.indent < l.indent) :
    feed ⟨items, .block b⟩ l = readStatement items l.number (l.indent + 1) l.text (.block b) := by
  obtain ⟨hempty, hcomment⟩ := Line.isCode_iff.mp h
  simp [feed, hempty, hcomment, Nat.not_le.mpr hindent]

theorem feed_dedent (h : l.isCode) {b : Block} (hindent : l.indent ≤ b.indent) :
    feed ⟨items, .block b⟩ l = afterMethod items b.close l := by
  obtain ⟨hempty, hcomment⟩ := Line.isCode_iff.mp h
  simp [feed, hempty, hcomment, hindent]

theorem feed_invocation (h : l.isComment = false) (p : Place) (c : OpenInvocation) :
    feed ⟨items, .invocation p c⟩ l = continueInvocation items p c l := by
  simp [feed, h]

end Reader

/-- What a mode becomes where a line is empty. -/
def Mode.skipLine : Mode → Mode
  | .top => .top
  | .methods d => .methods d
  | .block b => .methods b.close
  | .invocation p c => .invocation p { c with inner := c.inner ++ ['\n'] }

namespace Reader

variable {r : Reader} {l : Line}

theorem feed_empty (h : l.isEmpty) : feed r l = .ok ⟨r.items, r.mode.skipLine⟩ := by
  have htext : l.text = [] := List.isEmpty_iff.mp h
  have hcomment : l.isComment = false := by simp [Line.isComment, htext]
  obtain ⟨items, mode⟩ := r
  cases mode with
  | top => simp [feed, hcomment, h, Mode.skipLine]
  | methods d => simp [feed, hcomment, h, Mode.skipLine]
  | block b => simp [feed, hcomment, h, Mode.skipLine]
  | invocation p c =>
    simp [feed, hcomment, continueInvocation, htext, dropComment, beforeComment?, closing,
      Mode.skipLine]

/-! ## Reading texts -/

/-- Reads on in a text whose lines are numbered from `first` on. -/
def read (r : Reader) (first : Nat) (cs : List Char) : Except ParseError Reader :=
  (Line.ofTexts first (Text.lines cs)).foldlM feed r

/-- A carriage return at the end of a line is one of the blanks around its text. -/
theorem feed_dropReturn (r : Reader) (n : Nat) (raw : List Char) :
    feed r (.ofText n (Text.dropReturn raw)) = feed r (.ofText n raw) := by
  unfold Text.dropReturn
  split
  · rename_i hlast
    obtain ⟨init, rfl⟩ : ∃ init, raw = init ++ ['\r'] := List.getLast?_eq_some_iff.mp hlast
    have hreturn : Text.isAllBlank ['\r'] := by decide
    rw [List.dropLast_concat]
    cases hblank : Text.isAllBlank init with
    | true =>
      have hempty : (Line.ofText n init).isEmpty := by
        simp [Line.isEmpty, Line.ofText, Text.trim_eq_nil_iff.mpr hblank]
      have hempty' : (Line.ofText n (init ++ ['\r'])).isEmpty := by
        have hall : Text.isAllBlank (init ++ ['\r']) := by
          rw [Text.isAllBlank_append, hblank, hreturn]
          rfl
        simp [Line.isEmpty, Line.ofText, Text.trim_eq_nil_iff.mpr hall]
      rw [feed_empty hempty, feed_empty hempty']
    | false => rw [Line.ofText_append_of_blank hblank hreturn]
  · rfl

theorem read_append {a : List Char} (h : Text.EndsLine a) (r : Reader) (first : Nat)
    (b : List Char) :
    r.read first (a ++ b) =
      (r.read first a >>= fun r => r.read (first + (Text.lines a).length) b) := by
  rw [read, Text.lines_append h, Line.ofTexts_append, List.foldlM_append]
  rfl

theorem read_line {l : List Char} (h : '\n' ∉ l) (r : Reader) (first : Nat) (b : List Char) :
    r.read first (l ++ '\n' :: b) =
      (feed r (.ofText first l) >>= fun r => r.read (first + 1) b) := by
  rw [read, Text.lines_line h, Line.ofTexts, List.foldlM_cons, feed_dropReturn]
  rfl

theorem read_unended {l : List Char} (h : '\n' ∉ l) (hne : l ≠ []) (r : Reader) (first : Nat) :
    r.read first l = feed r (.ofText first l) := by
  rw [read, Text.lines_unended h hne, Line.ofTexts, Line.ofTexts, List.foldlM_cons]
  exact bind_pure _

/-- A text that does not stop where a line stops is read as what stands between its line breaks. -/
theorem read_of_not_endsLine {cs : List Char} (h : ¬ Text.EndsLine cs) (r : Reader) (n : Nat) :
    r.read n cs = (Line.ofTexts n (Text.fields (· == '\n') cs)).foldlM feed r := by
  obtain ⟨a, l, ha, hl, rfl⟩ := Text.exists_lastLine cs
  have hne : l ≠ [] := fun hnil => h ((Text.endsLine_append_iff hl ha).mpr hnil)
  suffices hall : ∀ r n, r.read n (a ++ l) =
      (Line.ofTexts n (Text.fields (· == '\n') (a ++ l))).foldlM feed r from hall r n
  refine Text.EndsLine.induct (motive := fun a => ∀ r n, r.read n (a ++ l) =
    (Line.ofTexts n (Text.fields (· == '\n') (a ++ l))).foldlM feed r) ?_ ?_ ha
  · intro r n
    rw [List.nil_append, Text.fields_of_not_mem hl, read_unended hl hne, Line.ofTexts, Line.ofTexts,
      List.foldlM_cons]
    exact (bind_pure _).symm
  · intro l' a hl' _ ih r n
    rw [List.append_assoc, List.cons_append, read_line hl', Text.fields_line hl', Line.ofTexts,
      List.foldlM_cons]
    congr 1
    funext r
    exact ih r (n + 1)

/-- A text of lines is read line by line. -/
theorem read_join {ls : List String} (h : ∀ l ∈ ls, '\n' ∉ l.toList) (r : Reader) (first : Nat) :
    r.read first (String.join (ls.map (· ++ "\n"))).toList =
      (Line.ofTexts first (ls.map String.toList)).foldlM feed r := by
  induction ls generalizing r first with
  | nil => rfl
  | cons l ls ih =>
    have htext : (String.join ((l :: ls).map (· ++ "\n"))).toList =
        l.toList ++ '\n' :: (String.join (ls.map (· ++ "\n"))).toList := by
      simp
    rw [htext, read_line (h l (by simp)), List.map_cons, Line.ofTexts, List.foldlM_cons]
    congr 1
    funext r
    exact ih (fun l hmem => h l (List.mem_cons_of_mem _ hmem)) r (first + 1)

/-- A line is read alike with either end, and without one where the text stops. -/
theorem read_ended {l ending b : List Char} (h : '\n' ∉ l) (hne : l ++ ending ≠ [])
    (hending : ending = ['\n'] ∨ ending = ['\r', '\n'] ∨ ending = [] ∧ b = []) (r : Reader)
    (first : Nat) :
    r.read first (l ++ ending ++ b) =
      (feed r (.ofText first l) >>= fun r => r.read (first + 1) b) := by
  rcases hending with rfl | rfl | ⟨rfl, rfl⟩
  · rw [List.append_assoc]
    exact read_line h r first b
  · have hreturn : '\n' ∉ l ++ ['\r'] := by simp [h]
    have htext : l ++ ['\r', '\n'] ++ b = l ++ ['\r'] ++ '\n' :: b := by simp
    rw [htext, read_line hreturn, ← feed_dropReturn]
    simp [Text.dropReturn]
  · rw [List.append_nil] at hne
    rw [List.append_nil, List.append_nil, read_unended h hne]
    exact (bind_pure _).symm

theorem read_endLine (r : Reader) (first : Nat) (a : List Char) :
    r.read first (Text.endLine a) = r.read first a := by
  unfold Text.endLine
  split
  · rfl
  · rename_i hend
    obtain ⟨c, l, hc, hl, rfl⟩ := Text.exists_lastLine a
    have hne : l ≠ [] := fun hnil => hend ((Text.endsLine_append_iff hl hc).mpr hnil)
    rw [List.append_assoc, read_append hc, read_append hc]
    congr 1
    funext r
    rw [read_line hl, read_unended hl hne]
    exact bind_pure _

end Reader

theorem parse_eq_read (text : String) :
    parse text = (Reader.start.read 1 text.toList >>= Reader.finish) := rfl

/-- A line between two texts, with the end that it has there. -/
theorem parse_line {a l ending b : String} (hend : Text.EndsLine a.toList) (h : '\n' ∉ l.toList)
    (hne : l ++ ending ≠ "") (hending : ending = "\n" ∨ ending = "\r\n" ∨ ending = "" ∧ b = "") :
    parse (a ++ l ++ ending ++ b) = (Reader.start.read 1 a.toList >>= fun r =>
      r.feed (.ofText (1 + (Text.lines a.toList).length) l.toList) >>= fun s =>
        s.read (1 + (Text.lines a.toList).length + 1) b.toList >>= Reader.finish) := by
  have hending' : ending.toList = ['\n'] ∨ ending.toList = ['\r', '\n'] ∨
      ending.toList = [] ∧ b.toList = [] := by
    rcases hending with rfl | rfl | ⟨rfl, rfl⟩ <;> simp
  have htext : (a ++ l ++ ending ++ b).toList =
      a.toList ++ (l.toList ++ ending.toList ++ b.toList) := by
    simp [String.toList_append]
  have hne' : l.toList ++ ending.toList ≠ [] := by simpa using hne
  rw [parse_eq_read, htext, Reader.read_append hend, bind_assoc]
  congr 1
  funext r
  rw [Reader.read_ended h hne' hending', bind_assoc]

end Document

end Provision
