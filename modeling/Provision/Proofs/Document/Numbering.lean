import Provision.Proofs.Document.Reading

namespace Provision

variable (f : Nat → Nat)

/-- The same body, with another number for its line. -/
def MethodBody.renumber (b : MethodBody) : MethodBody := { b with line := f b.line }

/-- The same item, with other numbers for its lines. -/
def Item.renumber : Item → Item
  | .recipe name parameters methods line =>
    .recipe name parameters (methods.map (MethodBody.renumber f)) (f line)
  | .target name methods line => .target name (methods.map (MethodBody.renumber f)) (f line)
  | .shortcut name invocation line => .shortcut name invocation (f line)
  | .dependency relation line => .dependency relation (f line)

theorem Item.shift_eq_renumber (n : Nat) : Item.shift n = Item.renumber (· + n) := by
  funext i
  cases i <;> rfl

def Line.renumber (l : Line) : Line := { l with number := f l.number }

@[simp] theorem Line.number_renumber (l : Line) : (l.renumber f).number = f l.number := rfl

@[simp] theorem Line.indent_renumber (l : Line) : (l.renumber f).indent = l.indent := rfl

@[simp] theorem Line.text_renumber (l : Line) : (l.renumber f).text = l.text := rfl

@[simp] theorem Line.isEmpty_renumber (l : Line) : (l.renumber f).isEmpty = l.isEmpty := rfl

@[simp] theorem Line.isComment_renumber (l : Line) : (l.renumber f).isComment = l.isComment := rfl

theorem Item.renumber_id : Item.renumber id = id := by
  have hbody : MethodBody.renumber id = id := rfl
  funext i
  cases i <;> simp [Item.renumber, hbody]

theorem Line.renumber_id : Line.renumber id = id := rfl

/-- The same problem at the same column, with another number for its line. -/
def ParseError.renumber (e : ParseError) : ParseError := { e with line := f e.line }

theorem Line.map_renumber_ofTexts {f : Nat → Nat} {first first' : Nat} (ls : List (List Char))
    (h : ∀ i < ls.length, f (first + i) = first' + i) :
    (ofTexts first ls).map (renumber f) = ofTexts first' ls := by
  induction ls generalizing first first' with
  | nil => rfl
  | cons raw ls ih =>
    have hfirst : f first = first' := h 0 (by simp)
    have hrest : ∀ i < ls.length, f (first + 1 + i) = first' + 1 + i := by
      intro i hi
      have hsucc := h (i + 1) (by simpa using hi)
      rw [Nat.add_right_comm, Nat.add_assoc, hsucc]
      omega
    rw [ofTexts, ofTexts, List.map_cons, ih hrest, ← hfirst]
    rfl

namespace Document

def Declaration.renumber (d : Declaration) : Declaration :=
  { d with line := f d.line, methods := d.methods.map (MethodBody.renumber f) }

def Block.renumber (b : Block) : Block :=
  { b with declaration := b.declaration.renumber f, body := b.body.renumber f }

def Place.renumber : Place → Place
  | .shortcut name line => .shortcut name (f line)
  | .inline declaration method line => .inline (declaration.renumber f) method (f line)
  | .block b => .block (b.renumber f)

def OpenInvocation.renumber (c : OpenInvocation) : OpenInvocation := { c with line := f c.line }

def Mode.renumber : Mode → Mode
  | .top => .top
  | .methods declaration => .methods (declaration.renumber f)
  | .block b => .block (b.renumber f)
  | .invocation place call => .invocation (place.renumber f) (call.renumber f)

/-- The reader that has read the same lines under other numbers, and items before them. -/
def Reader.relocate (before : List Item) (r : Reader) : Reader :=
  ⟨before ++ r.items.map (Item.renumber f), r.mode.renumber f⟩

variable {f} {α β γ δ : Type}

/-- What comes of reading the same lines under other numbers. -/
def relocated (f : Nat → Nat) (g : α → β) : Except ParseError α → Except ParseError β
  | .ok a => .ok (g a)
  | .error e => .error (e.renumber f)

@[simp] theorem relocated_ok (g : α → β) (a : α) : relocated f g (.ok a) = .ok (g a) := rfl

theorem relocated_bind {g : α → β} {h : γ → δ} {k : α → Except ParseError γ}
    {k' : β → Except ParseError δ} (hk : ∀ a, k' (g a) = relocated f h (k a))
    (x : Except ParseError α) : (relocated f g x >>= k') = relocated f h (x >>= k) := by
  cases x with
  | ok a => exact hk a
  | error e => rfl

variable {before : List Item}

@[simp] theorem relocate_mk (items : List Item) (mode : Mode) :
    Reader.relocate f before ⟨items, mode⟩ =
      ⟨before ++ items.map (Item.renumber f), mode.renumber f⟩ := rfl

theorem Declaration.renumber_add (d : Declaration) (b : MethodBody) :
    (d.add b).renumber f = (d.renumber f).add (b.renumber f) := by
  simp [Declaration.add, Declaration.renumber]

@[simp] theorem Block.indent_renumber (b : Block) : (b.renumber f).indent = b.indent := rfl

theorem Block.renumber_close (b : Block) : b.close.renumber f = (b.renumber f).close :=
  b.declaration.renumber_add b.body

theorem Block.renumber_add (b : Block) (a : Action) :
    (b.add a).renumber f = (b.renumber f).add a := rfl

theorem Mode.skipLine_renumber (m : Mode) : (m.renumber f).skipLine = m.skipLine.renumber f := by
  cases m with
  | top => rfl
  | methods d => rfl
  | block b => simp [Mode.skipLine, Mode.renumber, Block.renumber_close]
  | invocation p c => rfl

theorem Declaration.close_renumber (d : Declaration) :
    (d.renumber f).close = relocated f (Item.renumber f) d.close := by
  obtain ⟨heading, line, methods⟩ := d
  cases heading with
  | target name => cases methods <;> rfl
  | recipe name parameters column => cases methods <;> rfl

namespace Reader

theorem put_relocate (items : List Item) (column : Nat) (a : Action) (p : Place) :
    put (before ++ items.map (Item.renumber f)) column a (p.renumber f) =
      relocated f (relocate f before) (put items column a p) := by
  cases p with
  | shortcut name line =>
    cases a with
    | shell script => rfl
    | call invocation => simp [put, Place.renumber, Item.renumber, Mode.renumber]
  | inline declaration method line =>
    simp [put, Place.renumber, Mode.renumber, Declaration.renumber_add, MethodBody.renumber]
  | block block => simp [put, Place.renumber, Mode.renumber, Block.renumber_add]

theorem readStatement_relocate (items : List Item) (line column : Nat) (text : List Char)
    (p : Place) :
    readStatement (before ++ items.map (Item.renumber f)) (f line) column text (p.renumber f) =
      relocated f (relocate f before) (readStatement items line column text p) := by
  unfold readStatement
  cases statement text with
  | action a => exact put_relocate items column a p
  | unclosed name inner depth => rfl

theorem readRecipeHeading_relocate (line : Nat) (text rest : List Char) :
    readRecipeHeading (f line) text rest = relocated f id (readRecipeHeading line text rest) := by
  unfold readRecipeHeading
  dsimp only
  cases (Text.splitName (Text.trimStart rest)).1.isEmpty with
  | true => rfl
  | false =>
    cases parameterText? (Text.splitName (Text.trimStart rest)).2 with
    | none => rfl
    | some inner =>
      dsimp only
      cases (Text.runs (fun c => c == ',' || Text.isBlank c) inner).find? (!Text.isName ·) with
      | some parameter => rfl
      | none => rfl

theorem readDependency_relocate (line : Nat) (text : List Char) :
    readDependency (f line) text =
      relocated f (Option.map (Item.renumber f)) (readDependency line text) := by
  unfold readDependency
  cases splitArrow? text with
  | none => rfl
  | some parts =>
    obtain ⟨left, arrow, rest⟩ := parts
    dsimp only
    cases Text.isName (Text.trim left) with
    | false => rfl
    | true =>
      cases (Text.runs Text.isBlank rest).find? (!Text.isName ·) with
      | some other => rfl
      | none => cases (Text.runs Text.isBlank rest).isEmpty <;> rfl

theorem readItem_relocate (items : List Item) (l : Line) :
    readItem (before ++ items.map (Item.renumber f)) (l.renumber f) =
      relocated f (relocate f before) (readItem items l) := by
  by_cases hindent : l.indent ≠ 0
  · rw [readItem, readItem, if_pos hindent, if_pos (by simpa using hindent)]
    rfl
  · rw [readItem, readItem, if_neg hindent, if_neg (by simpa using hindent)]
    dsimp only [Line.number_renumber, Line.text_renumber]
    cases recipeHeading? (dropAnyComment l.text) with
    | some rest =>
      dsimp only
      rw [readRecipeHeading_relocate]
      refine relocated_bind (fun heading => ?_) _
      rfl
    | none =>
      cases splitHeading? l.text with
      | some heading =>
        dsimp only
        cases (Text.trim (dropComment heading.2)).isEmpty with
        | true => rfl
        | false => exact readStatement_relocate items l.number _ _ (.shortcut _ l.number)
      | none =>
        dsimp only
        rw [readDependency_relocate]
        refine relocated_bind (fun item => ?_) _
        cases item with
        | none => rfl
        | some item => simp [Mode.renumber, pure, Except.pure]

theorem readMethod_relocate (items : List Item) (d : Declaration) (l : Line) :
    readMethod (before ++ items.map (Item.renumber f)) (d.renumber f) (l.renumber f) =
      relocated f (relocate f before) (readMethod items d l) := by
  simp only [readMethod, Line.number_renumber, Line.indent_renumber, Line.text_renumber]
  cases splitHeading? l.text with
  | none => rfl
  | some heading =>
    dsimp only
    cases Method.ofName? (String.ofList heading.1) with
    | none => rfl
    | some method =>
      dsimp only
      cases (Text.trim heading.2).isEmpty || (Text.trim heading.2).head? == some '#' with
      | true => rfl
      | false => exact readStatement_relocate items l.number _ _ (.inline d method l.number)

theorem afterMethod_relocate (items : List Item) (d : Declaration) (l : Line) :
    afterMethod (before ++ items.map (Item.renumber f)) (d.renumber f) (l.renumber f) =
      relocated f (relocate f before) (afterMethod items d l) := by
  by_cases hindent : l.indent = 0
  · rw [afterMethod, afterMethod, if_pos hindent, if_pos (by simpa using hindent),
      Declaration.close_renumber]
    refine relocated_bind (fun item => ?_) _
    simpa using @readItem_relocate f before (items ++ [item]) l
  · rw [afterMethod, afterMethod, if_neg hindent, if_neg (by simpa using hindent)]
    exact readMethod_relocate items d l

theorem continueInvocation_relocate (items : List Item) (p : Place) (c : OpenInvocation)
    (l : Line) :
    continueInvocation (before ++ items.map (Item.renumber f)) (p.renumber f) (c.renumber f)
        (l.renumber f) =
      relocated f (relocate f before) (continueInvocation items p c l) := by
  simp only [continueInvocation, Line.number_renumber, Line.indent_renumber, Line.text_renumber,
    OpenInvocation.renumber]
  cases closing c.depth (dropComment l.text) with
  | unclosed depth => rfl
  | closed inner tail =>
    dsimp only
    cases Text.isAllBlank tail with
    | true => exact put_relocate items c.column (.call _) p
    | false => rfl

/-- To read a line, a reader does not look at its number, nor at the items that are finished. -/
theorem feed_relocate (r : Reader) (l : Line) :
    feed (r.relocate f before) (l.renumber f) =
      relocated f (relocate f before) (feed r l) := by
  rcases l.kinds with hcomment | hempty | hcode
  · have hcomment' : (l.renumber f).isComment := hcomment
    rw [feed_comment hcomment, feed_comment hcomment']
    rfl
  · have hempty' : (l.renumber f).isEmpty := hempty
    rw [feed_empty hempty, feed_empty hempty', relocated_ok]
    exact congrArg (Except.ok ∘ Reader.mk _) (Mode.skipLine_renumber r.mode)
  · have hcode' : (l.renumber f).isCode := hcode
    obtain ⟨items, mode⟩ := r
    cases mode with
    | top =>
      rw [feed_top hcode, ← readItem_relocate]
      exact feed_top hcode'
    | methods d =>
      rw [feed_methods hcode, ← afterMethod_relocate]
      exact feed_methods hcode' _
    | block b =>
      by_cases hindent : b.indent < l.indent
      · rw [feed_block hcode hindent, ← readStatement_relocate]
        exact feed_block hcode' hindent
      · have hle : l.indent ≤ b.indent := Nat.le_of_not_lt hindent
        rw [feed_dedent hcode hle, ← afterMethod_relocate, Block.renumber_close]
        exact feed_dedent hcode' hle
    | invocation p c =>
      have hcomment := (Line.isCode_iff.mp hcode).2
      rw [feed_invocation hcomment, ← continueInvocation_relocate]
      exact feed_invocation ((Line.isComment_renumber f l).trans hcomment) _ _

theorem foldlM_feed_relocate (ls : List Line) (r : Reader) :
    (ls.map (Line.renumber f)).foldlM feed (r.relocate f before) =
      relocated f (relocate f before) (ls.foldlM feed r) := by
  induction ls generalizing r with
  | nil => rfl
  | cons l ls ih =>
    rw [List.map_cons, List.foldlM_cons, List.foldlM_cons, feed_relocate]
    exact relocated_bind ih _

theorem finish_relocate (r : Reader) :
    (r.relocate f before).finish =
      relocated f (fun d => before ++ d.map (Item.renumber f)) r.finish := by
  obtain ⟨items, mode⟩ := r
  have hclose (d : Declaration) :
      ((d.renumber f).close >>= fun item =>
          pure (before ++ items.map (Item.renumber f) ++ [item])) =
        relocated f (fun d => before ++ d.map (Item.renumber f))
          (d.close >>= fun item => pure (items ++ [item])) := by
    rw [Declaration.close_renumber]
    refine relocated_bind (fun item => ?_) _
    simp [pure, Except.pure]
  cases mode with
  | top => rfl
  | methods declaration => exact hclose declaration
  | block b =>
    have hb := hclose b.close
    rw [Block.renumber_close] at hb
    exact hb
  | invocation place call => rfl

end Reader

/-- A document whose lines go by other numbers is the same document, or has the same problem. -/
theorem ofLines_renumber (ls : List Line) :
    ofLines (ls.map (Line.renumber f)) = relocated f (List.map (Item.renumber f)) (ofLines ls) := by
  have hstart : Reader.start.relocate f [] = Reader.start := rfl
  unfold ofLines
  rw [← hstart, Reader.foldlM_feed_relocate, hstart]
  exact relocated_bind (fun r => Reader.finish_relocate r) _

/-! ## Comments on lines of their own -/

open Text (EndsLine endLine)

/-- Where a line goes to make room for another one behind the first `n`. -/
def makeRoom (n line : Nat) : Nat := if line ≤ n then line else line + 1

theorem ofTexts_makeRoom (a b : List (List Char)) :
    (Line.ofTexts 1 (a ++ b)).map (Line.renumber (makeRoom a.length)) =
      Line.ofTexts 1 a ++ Line.ofTexts (1 + a.length + 1) b := by
  have habove : ∀ i < a.length, makeRoom a.length (1 + i) = 1 + i := by
    intro i hi
    exact if_pos (by omega)
  have hbelow : ∀ i < b.length, makeRoom a.length (1 + a.length + i) = 1 + a.length + 1 + i := by
    intro i _
    rw [makeRoom, if_neg (by omega)]
    omega
  rw [Line.ofTexts_append, List.map_append, Line.map_renumber_ofTexts a habove,
    Line.map_renumber_ofTexts b hbelow]

/-- A comment on a line of its own moves what stands below it by one line, and does nothing else to
the items of a text or to what is wrong with it. -/
theorem parse_insert_comment {a b margin rest ending : String}
    (hseam : b = "" ∨ EndsLine a.toList) (hmargin : Text.isAllBlank margin.toList)
    (hline : '\n' ∉ (margin ++ rest).toList)
    (hending : ending = "\n" ∨ ending = "\r\n" ∨ ending = "" ∧ b = "") :
    parse (String.ofList (endLine a.toList) ++ margin ++ "#" ++ rest ++ ending ++ b) =
      relocated (makeRoom (Text.lines a.toList).length)
        (List.map (Item.renumber (makeRoom (Text.lines a.toList).length))) (parse (a ++ b)) := by
  have hlines : Text.lines (a ++ b).toList = Text.lines a.toList ++ Text.lines b.toList := by
    rcases hseam with rfl | hend
    · simp [Text.lines]
    · rw [String.toList_append, Text.lines_append hend]
  have htext : String.ofList (endLine a.toList) ++ margin ++ "#" ++ rest ++ ending ++ b =
      String.ofList (endLine a.toList) ++ (margin ++ "#" ++ rest) ++ ending ++ b := by
    simp only [String.append_assoc]
  have hcomment : (margin ++ "#" ++ rest).toList = margin.toList ++ '#' :: rest.toList := by
    simp [String.toList_append]
  have hbreak : '\n' ∉ (margin ++ "#" ++ rest).toList := by
    rw [hcomment]
    simpa [String.toList_append] using hline
  have hne : margin ++ "#" ++ rest ++ ending ≠ "" := by
    intro hnil
    simpa [String.toList_append] using congrArg String.toList hnil
  have hend : EndsLine (String.ofList (endLine a.toList)).toList := by
    rw [String.toList_ofList]
    exact Text.endsLine_endLine _
  rw [htext, parse_line hend hbreak hne hending, hcomment, String.toList_ofList,
    Reader.read_endLine, Text.length_lines_endLine]
  -- The reader takes no notice of the comment, but counts it.
  simp only [Reader.feed_comment (Line.isComment_ofText hmargin _ rest.toList)]
  rw [parse, hlines, ← ofLines_renumber, ofTexts_makeRoom, ofLines, List.foldlM_append, bind_assoc]
  rfl

/-- A comment in the midst of a call, with a parenthesis that would close the call. -/
theorem parse_lamp_wick :
    parse "lamp: apt(lamp\n  # wick)\n  oil)\nstove -> lamp" =
      .ok [.shortcut "lamp" ⟨"apt", [["lamp", "oil"]]⟩ 1,
        .dependency ⟨"stove", .dependsOn, ["lamp"]⟩ 4] := by
  have hinsert := @parse_insert_comment "lamp: apt(lamp\n" "  oil)\nstove -> lamp" "  " " wick)"
    "\n" (.inr (by decide +kernel)) (by decide +kernel) (by decide +kernel) (.inl rfl)
  have hlamp : parse ("lamp: apt(lamp\n" ++ "  oil)\nstove -> lamp") =
      .ok [.shortcut "lamp" ⟨"apt", [["lamp", "oil"]]⟩ 1,
        .dependency ⟨"stove", .dependsOn, ["lamp"]⟩ 3] := by decide +kernel
  have htext : String.ofList (endLine "lamp: apt(lamp\n".toList) ++ "  " ++ "#" ++ " wick)" ++
      "\n" ++ "  oil)\nstove -> lamp" = "lamp: apt(lamp\n  # wick)\n  oil)\nstove -> lamp" := by
    decide +kernel
  rw [htext, hlamp] at hinsert
  exact hinsert

end Document

end Provision
