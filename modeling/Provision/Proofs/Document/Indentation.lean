import Mathlib.Data.List.Forall2
import Mathlib.Order.Monotone.Basic
import Provision.Proofs.Document.Reading

namespace Provision

/-- The same line behind another margin, whose width `f` makes of the width of the first one. Lines
of blanks stay as they are. -/
def Text.Reindented (f : Nat → Nat) (l l' : List Char) : Prop :=
  if isAllBlank l then l' = l
  else trimStart l' = trimStart l ∧ width (margin l') = f (width (margin l))

instance (f : Nat → Nat) (l l' : List Char) : Decidable (Text.Reindented f l l') :=
  inferInstanceAs (Decidable (if Text.isAllBlank l then l' = l
    else Text.trimStart l' = Text.trimStart l ∧
      Text.width (Text.margin l') = f (Text.width (Text.margin l))))

/-- Outcomes that correspond, or problems that differ in their columns at most. -/
inductive UpToColumn {α β : Type} (R : α → β → Prop) :
    Except ParseError α → Except ParseError β → Prop
  | ok {a : α} {b : β} (h : R a b) : UpToColumn R (.ok a) (.ok b)
  | error (line column column' : Nat) (problem : Problem) :
      UpToColumn R (.error ⟨line, column, problem⟩) (.error ⟨line, column', problem⟩)

namespace UpToColumn

variable {α β γ δ : Type} {R : α → β → Prop} {S : γ → δ → Prop}

theorem refl (x : Except ParseError α) : UpToColumn Eq x x := by
  cases x with
  | ok a => exact .ok rfl
  | error e => exact .error e.line e.column e.column e.problem

theorem bind {x : Except ParseError α} {y : Except ParseError β} {k : α → Except ParseError γ}
    {k' : β → Except ParseError δ} (h : UpToColumn R x y)
    (hk : ∀ a b, R a b → UpToColumn S (k a) (k' b)) : UpToColumn S (x >>= k) (y >>= k') := by
  cases h with
  | ok h => exact hk _ _ h
  | error line column column' problem => exact .error line column column' problem

end UpToColumn

/-- Lines with the same text, of which only the margins differ. -/
inductive Line.Reindented (f : Nat → Nat) : Line → Line → Prop
  | empty {l l' : Line} (h : l.isEmpty) (h' : l'.isEmpty) : Reindented f l l'
  | margin (l : Line) : Reindented f l { l with indent := f l.indent }

namespace Document

def Block.reindent (f : Nat → Nat) (b : Block) : Block := { b with indent := f b.indent }

def Place.reindent (f : Nat → Nat) : Place → Place
  | .shortcut name line => .shortcut name line
  | .inline declaration method line => .inline declaration method line
  | .block b => .block (b.reindent f)

/-- Modes between which no line can tell but by the width of its margin. An open invocation keeps
its column for the report on a problem only. -/
inductive Mode.Reindented (f : Nat → Nat) : Mode → Mode → Prop
  | top : Reindented f .top .top
  | methods (d : Declaration) : Reindented f (.methods d) (.methods d)
  | block (b : Block) : Reindented f (.block b) (.block (b.reindent f))
  | invocation (p : Place) (c : OpenInvocation) (column : Nat) :
      Reindented f (.invocation p c) (.invocation (p.reindent f) { c with column })

/-- Readers that have read the same lines behind other margins. -/
structure Reader.Reindented (f : Nat → Nat) (r s : Reader) : Prop where
  items : s.items = r.items
  mode : r.mode.Reindented f s.mode

variable {f : Nat → Nat} {m m' : Mode}

theorem Mode.Reindented.skipLine (h : m.Reindented f m') : m.skipLine.Reindented f m'.skipLine := by
  cases h with
  | top => exact .top
  | methods d => exact .methods d
  | block b => exact .methods b.close
  | invocation p c column => exact .invocation p { c with inner := c.inner ++ ['\n'] } column

namespace Reader

theorem put_reindent (items : List Item) (column column' : Nat) (a : Action) (p : Place) :
    UpToColumn (Reindented f) (put items column a p) (put items column' a (p.reindent f)) := by
  cases p with
  | shortcut name line =>
    cases a with
    | shell script => exact .error line column column' _
    | call invocation => exact .ok ⟨rfl, .top⟩
  | inline declaration method line => exact .ok ⟨rfl, .methods _⟩
  | block b => exact .ok ⟨rfl, .block (b.add a)⟩

theorem readStatement_reindent (items : List Item) (line column column' : Nat) (text : List Char)
    (p : Place) :
    UpToColumn (Reindented f) (readStatement items line column text p)
      (readStatement items line column' text (p.reindent f)) := by
  unfold readStatement
  cases statement text with
  | action a => exact put_reindent items column column' a p
  | unclosed name inner depth => exact .ok ⟨rfl, .invocation p _ column'⟩

theorem readItem_reindent (hzero : ∀ n, f n = 0 ↔ n = 0) (items : List Item) (l : Line) :
    UpToColumn (Reindented f) (readItem items l)
      (readItem items { l with indent := f l.indent }) := by
  by_cases hindent : l.indent ≠ 0
  · rw [readItem, readItem, if_pos hindent, if_pos (by simpa [hzero] using hindent)]
    exact .error l.number _ _ .indentedItem
  · rw [readItem, readItem, if_neg hindent, if_neg (by simpa [hzero] using hindent)]
    dsimp only
    cases recipeHeading? (dropAnyComment l.text) with
    | some rest =>
      refine (UpToColumn.refl _).bind fun heading _ heq => ?_
      subst heq
      exact .ok ⟨rfl, .methods _⟩
    | none =>
      cases splitHeading? l.text with
      | some heading =>
        dsimp only
        cases (Text.trim (dropComment heading.2)).isEmpty with
        | true => exact .ok ⟨rfl, .methods _⟩
        | false => exact readStatement_reindent items l.number _ _ _ (.shortcut _ l.number)
      | none =>
        refine (UpToColumn.refl _).bind fun item _ heq => ?_
        subst heq
        cases item with
        | none => exact .error l.number 1 1 _
        | some item => exact .ok ⟨rfl, .top⟩

theorem readMethod_reindent (items : List Item) (d : Declaration) (l : Line) :
    UpToColumn (Reindented f) (readMethod items d l)
      (readMethod items d { l with indent := f l.indent }) := by
  unfold readMethod
  cases splitHeading? l.text with
  | none => exact .error l.number _ _ _
  | some heading =>
    dsimp only
    cases Method.ofName? (String.ofList heading.1) with
    | none => exact .error l.number _ _ _
    | some method =>
      dsimp only
      cases (Text.trim heading.2).isEmpty || (Text.trim heading.2).head? == some '#' with
      | true => exact .ok ⟨rfl, .block ⟨d, ⟨method, [], l.number⟩, l.indent⟩⟩
      | false => exact readStatement_reindent items l.number _ _ _ (.inline d method l.number)

theorem afterMethod_reindent (hzero : ∀ n, f n = 0 ↔ n = 0) (items : List Item)
    (d : Declaration) (l : Line) :
    UpToColumn (Reindented f) (afterMethod items d l)
      (afterMethod items d { l with indent := f l.indent }) := by
  unfold afterMethod
  by_cases hindent : l.indent = 0
  · rw [if_pos hindent, if_pos ((hzero _).mpr hindent)]
    refine (UpToColumn.refl _).bind fun item _ heq => ?_
    subst heq
    exact readItem_reindent hzero (items ++ [item]) l
  · rw [if_neg hindent, if_neg (mt (hzero _).mp hindent)]
    exact readMethod_reindent items d l

theorem continueInvocation_reindent (items : List Item) (p : Place) (c : OpenInvocation)
    (column indent : Nat) (l : Line) :
    UpToColumn (Reindented f) (continueInvocation items p c l)
      (continueInvocation items (p.reindent f) { c with column } { l with indent }) := by
  unfold continueInvocation
  dsimp only
  cases closing c.depth (dropComment l.text) with
  | unclosed depth => exact .ok ⟨rfl, .invocation p _ column⟩
  | closed inner tail =>
    dsimp only
    cases Text.isAllBlank tail with
    | true => exact put_reindent items c.column column (.call _) p
    | false => exact .error l.number _ _ _

variable {r s : Reader} {l l' : Line}

/-- A reader compares the margin of a line with no margin and with that of the header above it,
which a strictly increasing function does not change; else it only counts columns. -/
theorem feed_reindented (hf : StrictMono f) (h0 : f 0 = 0) (h : r.Reindented f s)
    (hl : l.Reindented f l') : UpToColumn (Reindented f) (feed r l) (feed s l') := by
  obtain ⟨items, mode⟩ := r
  obtain ⟨items', mode'⟩ := s
  obtain ⟨rfl, hmode⟩ := h
  have hzero (n : Nat) : f n = 0 ↔ n = 0 := by
    conv_lhs => rw [← h0, hf.injective.eq_iff]
  cases hl with
  | empty hempty hempty' =>
    rw [feed_empty hempty, feed_empty hempty']
    exact .ok ⟨rfl, hmode.skipLine⟩
  | margin =>
    rcases l.kinds with hcomment | hempty | hcode
    · rw [feed_comment hcomment, feed_comment (by exact hcomment)]
      exact .ok ⟨rfl, hmode⟩
    · rw [feed_empty hempty, feed_empty (by exact hempty)]
      exact .ok ⟨rfl, hmode.skipLine⟩
    · have hcode' : ({ l with indent := f l.indent } : Line).isCode := hcode
      cases hmode with
      | top =>
        rw [feed_top hcode, feed_top hcode']
        exact readItem_reindent hzero _ l
      | methods d =>
        rw [feed_methods hcode, feed_methods hcode']
        exact afterMethod_reindent hzero _ d l
      | block b =>
        by_cases hindent : b.indent < l.indent
        · have hindent' : (b.reindent f).indent < f l.indent := hf hindent
          rw [feed_block hcode hindent, feed_block hcode' hindent']
          exact readStatement_reindent _ l.number _ _ l.text (.block b)
        · have hle := Nat.le_of_not_lt hindent
          have hle' : f l.indent ≤ (b.reindent f).indent := hf.monotone hle
          rw [feed_dedent hcode hle, feed_dedent hcode' hle']
          exact afterMethod_reindent hzero _ b.close l
      | invocation p c column =>
        have hcomment := (Line.isCode_iff.mp hcode).2
        rw [feed_invocation hcomment, feed_invocation (by exact hcomment)]
        exact continueInvocation_reindent _ p c column (f l.indent) l

theorem foldlM_feed_reindented (hf : StrictMono f) (h0 : f 0 = 0) {ls ls' : List Line}
    (hls : List.Forall₂ (Line.Reindented f) ls ls') (h : r.Reindented f s) :
    UpToColumn (Reindented f) (ls.foldlM feed r) (ls'.foldlM feed s) := by
  induction hls generalizing r s with
  | nil => exact .ok h
  | cons hl _ ih =>
    rw [List.foldlM_cons, List.foldlM_cons]
    exact (feed_reindented hf h0 h hl).bind fun _ _ h => ih h

theorem finish_reindented (h : r.Reindented f s) : UpToColumn Eq r.finish s.finish := by
  obtain ⟨items, mode⟩ := r
  obtain ⟨items', mode'⟩ := s
  obtain ⟨rfl, hmode⟩ := h
  cases hmode with
  | top => exact .refl _
  | methods d => exact .refl _
  | block b => exact .refl _
  | invocation p c column => exact .error c.line c.column column _

end Reader

end Document

theorem Text.Reindented.ofText {f : Nat → Nat} {l l' : List Char} (h : Text.Reindented f l l')
    (n : Nat) : (Line.ofText n l).Reindented f (.ofText n l') := by
  unfold Reindented at h
  split at h
  · rename_i hblank
    have hempty : (Line.ofText n l).isEmpty := by
      simp [Line.isEmpty, Line.ofText, trim_eq_nil_iff.mpr hblank]
    rw [h]
    exact .empty hempty hempty
  · have hline : Line.ofText n l' =
        { Line.ofText n l with indent := f (Line.ofText n l).indent } := by
      simp only [Line.ofText, trim, h.1, h.2]
    rw [hline]
    exact .margin _

theorem Line.forall₂_ofTexts {f : Nat → Nat} {ls ls' : List (List Char)}
    (h : List.Forall₂ (Text.Reindented f) ls ls') (first : Nat) :
    List.Forall₂ (Line.Reindented f) (ofTexts first ls) (ofTexts first ls') := by
  induction h generalizing first with
  | nil => exact .nil
  | cons hl _ ih => exact .cons (hl.ofText first) (ih (first + 1))

namespace Document

/-- Of the margins in a text only their order counts: where each margin is replaced by one whose
width depends on that of the first one, strictly increasing from zero, the text is read as the same
items or has the same problem on the same line. -/
theorem parse_reindented {f : Nat → Nat} (hf : StrictMono f) (h0 : f 0 = 0) {text text' : String}
    (h : List.Forall₂ (Text.Reindented f) (Text.lines text.toList) (Text.lines text'.toList)) :
    (∀ d, parse text' = .ok d ↔ parse text = .ok d) ∧
    ∀ line problem, (∃ column, parse text' = .error ⟨line, column, problem⟩) ↔
      ∃ column, parse text = .error ⟨line, column, problem⟩ := by
  have hstart : Reader.start.Reindented f Reader.start := ⟨rfl, .top⟩
  have hread := Reader.foldlM_feed_reindented hf h0 (Line.forall₂_ofTexts h 1) hstart
  have hparse : UpToColumn Eq (parse text) (parse text') :=
    hread.bind fun _ _ h => Reader.finish_reindented h
  generalize parse text = x at hparse
  generalize parse text' = y at hparse
  cases hparse with
  | ok heq =>
    subst heq
    simp
  | error line column column' problem => simp [eq_comm]

/-- A block, a call that goes on below the margin where it began, and an empty line. -/
def lampText : String := "lamp:\n  setup:\n    apt(lamp\n oil)\n   wick\n\n  is_setup: on\n"

/-- The same, behind margins of three times the width. -/
def lampTextWide : String :=
  "lamp:\n      setup:\n\t\t\t\u3000\u3000\u3000apt(lamp\n\u3000oil)\n\u3000\u3000\u3000wick\n\n" ++
  "\u3000   is_setup: on\n"

theorem parse_reindented_lamp :
    StrictMono (3 * ·) ∧
    List.Forall₂ (Text.Reindented (3 * ·)) (Text.lines lampText.toList)
      (Text.lines lampTextWide.toList) ∧
    parse lampText = .ok [.target "lamp"
      [⟨.setup, [.call ⟨"apt", [["lamp", "oil"]]⟩, .shell "wick"], 2⟩,
        ⟨.isSetup, [.shell "on"], 7⟩] 1] ∧
    parse lampTextWide = .ok [.target "lamp"
      [⟨.setup, [.call ⟨"apt", [["lamp", "oil"]]⟩, .shell "wick"], 2⟩,
        ⟨.isSetup, [.shell "on"], 7⟩] 1] ∧
    List.Forall₂ (Text.Reindented (3 * ·)) (Text.lines (lampText ++ " stove:").toList)
      (Text.lines (lampTextWide ++ "\u3000stove:").toList) ∧
    parse (lampText ++ " stove:") = .error ⟨8, 2, .unknownMethod "stove"⟩ ∧
    ∃ column, parse (lampTextWide ++ "\u3000stove:") =
      .error ⟨8, column, .unknownMethod "stove"⟩ := by
  have hf : StrictMono (3 * · : Nat → Nat) := fun a b h => by dsimp; omega
  have hok : List.Forall₂ (Text.Reindented (3 * ·)) (Text.lines lampText.toList)
      (Text.lines lampTextWide.toList) := by decide +kernel
  have herror : List.Forall₂ (Text.Reindented (3 * ·)) (Text.lines (lampText ++ " stove:").toList)
      (Text.lines (lampTextWide ++ "\u3000stove:").toList) := by decide +kernel
  have hlamp : parse lampText = .ok [.target "lamp"
      [⟨.setup, [.call ⟨"apt", [["lamp", "oil"]]⟩, .shell "wick"], 2⟩,
        ⟨.isSetup, [.shell "on"], 7⟩] 1] := by decide +kernel
  have hstove : parse (lampText ++ " stove:") = .error ⟨8, 2, .unknownMethod "stove"⟩ := by
    decide +kernel
  exact ⟨hf, hok, hlamp, ((parse_reindented hf rfl hok).1 _).mpr hlamp, herror, hstove,
    ((parse_reindented hf rfl herror).2 _ _).mpr ⟨2, hstove⟩⟩

end Document

end Provision
