import Provision.Document.WellFormed
import Provision.Proofs.Document.Reading
import Provision.Proofs.Document.Statement

namespace Provision

/-- A text without blanks around it, all of it on one line. -/
structure Line.IsTrimmed (l : Line) : Prop where
  trim : Text.trim l.text = l.text
  no_break : '\n' ∉ l.text

theorem Line.isTrimmed_ofText {raw : List Char} (h : '\n' ∉ raw) (n : Nat) :
    (ofText n raw).IsTrimmed :=
  ⟨Text.trim_trim raw, fun hbreak => h (Text.mem_of_mem_trim hbreak)⟩

theorem Line.isTrimmed_of_mem_ofTexts {first : Nat} {ls : List (List Char)} {l : Line}
    (h : ∀ raw ∈ ls, '\n' ∉ raw) (hl : l ∈ ofTexts first ls) : l.IsTrimmed := by
  induction ls generalizing first with
  | nil => simp [ofTexts] at hl
  | cons raw ls ih =>
    obtain ⟨hraw, hls⟩ := List.forall_mem_cons.mp h
    rcases List.mem_cons.mp hl with rfl | hl
    · exact isTrimmed_ofText hraw first
    · exact ih hls hl

/-- A column of the text of a line, counted from the beginning of the line on. -/
def Line.HasColumn (l : Line) (column : Nat) : Prop :=
  ∃ n, Text.IsColumn l.text n ∧ column = l.indent + n

theorem Line.hasColumn_indent (l : Line) : l.HasColumn (l.indent + 1) :=
  ⟨1, Text.isColumn_one l.text, rfl⟩

theorem Line.hasColumn_of_indent {l : Line} (h : l.indent = 0) {column : Nat}
    (hcolumn : Text.IsColumn l.text column) : l.HasColumn column :=
  ⟨column, hcolumn, by rw [h, Nat.zero_add]⟩

namespace Text

theorem isName_splitName {cs : List Char} (h : (splitName cs).1 ≠ []) : isName (splitName cs).1 :=
  isName_iff.mpr ⟨h, splitName_fst cs⟩

theorem of_mem_runs {separator : Char → Bool} {cs r : List Char} (hr : r ∈ runs separator cs)
    {c : Char} (hc : c ∈ r) : c ∈ cs ∧ separator c = false := by
  have hmem : c ∈ (runs separator cs).flatten := List.mem_flatten.mpr ⟨r, hr, hc⟩
  rw [flatten_runs] at hmem
  simpa using hmem

theorem of_mem_fields {separator : Char → Bool} {cs f : List Char} (hf : f ∈ fields separator cs)
    {c : Char} (hc : c ∈ f) : c ∈ cs ∧ separator c = false :=
  of_mem_runs (List.mem_filter.mpr ⟨hf, by simpa using List.ne_nil_of_mem hc⟩) hc

end Text

namespace Document

/-- Methods take scripts as well as calls, but the name of a target takes a call only. -/
def Place.IsMethod : Place → Prop
  | .shortcut _ _ => False
  | .inline _ _ _ => True
  | .block _ => True

/-- The names in a heading are names. -/
def Heading.WellFormed : Heading → Prop
  | .target name => IsName name
  | .recipe name parameters _ => IsName name ∧ ∀ p ∈ parameters, IsName p

/-- Where a declaration without methods is reported, on the line of its heading. -/
def Heading.column : Heading → Nat
  | .target _ => 1
  | .recipe _ _ column => column

/-- The item that a heading opens. -/
def Heading.item (methods : List MethodBody) (line : Nat) : Heading → Item
  | .target name => .target name methods line
  | .recipe name parameters _ => .recipe name parameters methods line

variable {items : List Item} {r s : Reader} {l : Line} {d : Declaration} {p : Place} {m : Mode}
  {text name rest : List Char}

/-! ## What is read in one piece -/

theorem wellFormed_invocation (h : Text.isName name) (inner : List Char) :
    (invocation name inner).WellFormed where
  name := by simpa [IsName, invocation] using h
  tokens := by
    intro group hgroup token htoken
    simp only [invocation, groups] at hgroup
    split at hgroup
    · simp at hgroup
    · obtain ⟨field, hfield, rfl⟩ := List.mem_map.mp hgroup
      obtain ⟨run, hrun, rfl⟩ := List.mem_map.mp htoken
      refine ⟨by simpa using Text.runs_ne_nil hrun, fun c hc => ?_⟩
      rw [String.toList_ofList] at hc
      obtain ⟨hmem, hblank⟩ := Text.of_mem_runs hrun hc
      have hcomma := (Text.of_mem_fields hfield hmem).2
      exact ⟨by simp [hblank], by simpa using hcomma⟩
  groups_ne := by
    intro hgroups
    have htext := intercalate_groups inner
    rw [show groups inner = [[]] from hgroups] at htext
    have hblank : Text.isAllBlank inner := by
      rw [Text.isAllBlank_iff]
      simpa using htext.symm
    simp [invocation, groups, hblank] at hgroups

theorem isName_of_statement_unclosed {inner : List Char} {depth : Nat}
    (h : statement text = .unclosed name inner depth) : Text.isName name := by
  obtain ⟨cs, hsplit, hne, -, -⟩ := exists_of_statement_unclosed h
  have hname := @Text.isName_splitName text (by simpa [hsplit] using hne)
  rwa [hsplit] at hname

theorem wellFormed_of_statement_call {call : Invocation}
    (h : statement text = .action (.call call)) : call.WellFormed := by
  obtain ⟨name, cs, inner, tail, hsplit, hne, -, -, rfl⟩ := exists_of_statement_call h
  have hname := @Text.isName_splitName text (by simpa [hsplit] using hne)
  rw [hsplit] at hname
  exact wellFormed_invocation hname inner

theorem eq_of_statement_shell {script : String} (h : statement text = .action (.shell script)) :
    script = String.ofList text := by
  unfold statement at h
  dsimp only at h
  split at h
  · split at h
    · simpa using h.symm
    · split at h
      · split at h
        · simp at h
        · simpa using h.symm
      · simp at h
  · simpa using h.symm

/-- A statement is taken over as it stands, unless it is a call. -/
theorem wellFormed_of_statement {a : Action} (h : statement text = .action a)
    (hline : IsScriptLine (String.ofList text)) : a.WellFormed := by
  cases a with
  | shell script =>
    obtain rfl := eq_of_statement_shell h
    exact hline
  | call call => exact wellFormed_of_statement_call h

theorem isScriptLine_trim {cs : List Char} (hbreak : '\n' ∉ cs) (hne : Text.trim cs ≠ [])
    (hash : (Text.trim cs).head? ≠ some '#') : IsScriptLine (String.ofList (Text.trim cs)) where
  ne_empty := by simpa using hne
  trimmed := by simp [Text.trimmed]
  no_break := by simpa using fun h => hbreak (Text.mem_of_mem_trim h)
  no_comment := by simpa using hash

theorem exists_of_splitHeading? (h : splitHeading? text = some (name, rest)) :
    Text.isName name ∧ ∃ gap, Text.isAllBlank gap ∧ text = name ++ (gap ++ ':' :: rest) := by
  unfold splitHeading? at h
  dsimp only at h
  split at h
  · next after hafter =>
    split at h
    · simp at h
    · next hne =>
      obtain ⟨rfl, rfl⟩ : (Text.splitName text).1 = name ∧ after = rest := by simpa using h
      refine ⟨Text.isName_splitName (by simpa using hne), Text.margin (Text.splitName text).2,
        Text.isAllBlank_margin _, ?_⟩
      rw [← hafter, Text.margin_append_trimStart, Text.splitName_append]
  · simp at h

theorem exists_append_of_recipeHeading? (h : recipeHeading? text = some rest) :
    ∃ before, text = before ++ Text.trimStart rest := by
  unfold recipeHeading? at h
  split at h
  · next c cs hprefix =>
    split at h
    · obtain rfl : c :: cs = rest := by simpa using h
      refine ⟨"recipe".toList ++ Text.margin (c :: cs), ?_⟩
      rw [List.append_assoc, Text.margin_append_trimStart]
      exact (List.isPrefixOf?_eq_some_iff_append_eq.mp hprefix).symm
    · simp at h
  · simp at h

/-- A heading stands where the name of the recipe begins. -/
theorem isColumn_of_readRecipeHeading {line : Nat} {before : List Char} {heading : Heading}
    (htext : text = before ++ Text.trimStart rest)
    (h : readRecipeHeading line text rest = .ok heading) : Text.IsColumn text heading.column := by
  unfold readRecipeHeading at h
  dsimp only at h
  split at h
  · cases h
  · split at h
    · cases h
    · split at h
      · cases h
      · cases h
        exact Text.isColumn_of_append htext

theorem isColumn_of_splitHeading? (h : splitHeading? text = some (name, rest)) :
    Text.IsColumn text (Text.width text - Text.width rest + 1) := by
  obtain ⟨-, gap, -, htext⟩ := exists_of_splitHeading? h
  refine Text.isColumn_of_append (a := name ++ (gap ++ [':'])) ?_
  simp [htext]

theorem hasColumn_of_splitHeading? (h : splitHeading? l.text = some (name, rest)) :
    l.HasColumn (l.indent + (Text.width l.text - Text.width (Text.trimStart rest)) + 1) := by
  obtain ⟨-, gap, -, htext⟩ := exists_of_splitHeading? h
  have hcolumn : Text.IsColumn l.text
      (Text.width l.text - Text.width (Text.trimStart rest) + 1) := by
    refine Text.isColumn_of_append (a := name ++ (gap ++ ':' :: Text.margin rest)) ?_
    simp [htext, Text.margin_append_trimStart]
  exact ⟨_, hcolumn, Nat.add_assoc ..⟩

theorem wellFormed_of_readRecipeHeading {line : Nat} {heading : Heading}
    (h : readRecipeHeading line text rest = .ok heading) : heading.WellFormed := by
  unfold readRecipeHeading at h
  dsimp only at h
  split at h
  · cases h
  · rename_i hne
    split at h
    · cases h
    · split at h
      · cases h
      · rename_i hnames
        cases h
        rw [List.find?_eq_none] at hnames
        refine ⟨?_, fun p hp => ?_⟩
        · simpa [IsName] using Text.isName_splitName (by simpa using hne)
        · obtain ⟨parameter, hmem, rfl⟩ := List.mem_map.mp hp
          simpa [IsName] using hnames parameter hmem

theorem exists_relation_of_readDependency {line : Nat} {i : Item}
    (h : readDependency line text = .ok (some i)) :
    ∃ r : Relation, r.WellFormed ∧ i = .dependency r line := by
  unfold readDependency at h
  split at h
  · cases h
  · dsimp only at h
    split at h
    · cases h
    · rename_i hsubject
      split at h
      · cases h
      · rename_i hnames
        split at h
        · cases h
        · rename_i hne
          cases h
          rw [List.find?_eq_none] at hnames
          refine ⟨_, ⟨by simpa [IsName] using hsubject, fun name hname => ?_, by simpa using hne⟩,
            rfl⟩
          obtain ⟨other, hother, rfl⟩ := List.mem_map.mp hname
          simpa [IsName] using hnames other hother

theorem Declaration.eq_of_close {i : Item} (h : d.close = .ok i) :
    d.methods ≠ [] ∧ i = d.heading.item d.methods d.line := by
  obtain ⟨heading, line, methods⟩ := d
  cases methods with
  | nil => cases heading <;> cases h
  | cons b bs => cases heading <;> cases h <;> exact ⟨by simp, rfl⟩

theorem Declaration.methods_of_close {i : Item} (h : d.close = .ok i) :
    i.methods = d.methods := by
  rw [(eq_of_close h).2]
  cases d.heading <;> rfl

namespace Reader

/-! ## What a line does to a reader -/

/-- A reader closes the block, or the declaration too, to which nothing more belongs. -/
inductive Closes : Reader → Reader → Prop
  | nothing (r : Reader) : Closes r r
  | block {items : List Item} {b : Block} {t : Reader} :
      Closes ⟨items, .methods b.close⟩ t → Closes ⟨items, .block b⟩ t
  | declaration {items : List Item} {d : Declaration} {i : Item} :
      d.close = .ok i → Closes ⟨items, .methods d⟩ ⟨items ++ [i], .top⟩

/-- The places where a statement on line `n` can begin. -/
inductive Begins (n : Nat) : Mode → Place → Prop
  | shortcut {name : String} : IsName name → Begins n .top (.shortcut name n)
  | inline (d : Declaration) (method : Method) : Begins n (.methods d) (.inline d method n)
  | block (b : Block) : Begins n (.block b) (.block b)

/-- What a line adds to a reader that has closed what the line does not belong to: nothing, the
beginning of something, an item, an action of a method, or more of an open call. -/
inductive Adds (l : Line) : Reader → Reader → Prop
  | nothing (r : Reader) : Adds l r r
  | heading (items : List Item) {heading : Heading} : heading.WellFormed →
      l.HasColumn heading.column → Adds l ⟨items, .top⟩ ⟨items, .methods ⟨heading, l.number, []⟩⟩
  | relation (items : List Item) {relation : Relation} : relation.WellFormed →
      Adds l ⟨items, .top⟩ ⟨items ++ [.dependency relation l.number], .top⟩
  | header (items : List Item) (d : Declaration) (method : Method) :
      Adds l ⟨items, .methods d⟩ ⟨items, .block ⟨d, ⟨method, [], l.number⟩, l.indent⟩⟩
  | action {items : List Item} {m : Mode} {p : Place} {a : Action} {column : Nat} {s : Reader} :
      Begins l.number m p → (l.IsTrimmed → a.WellFormed) → put items column a p = .ok s →
      Adds l ⟨items, m⟩ s
  | opening (items : List Item) {m : Mode} {p : Place} {name inner : List Char}
      {depth column : Nat} :
      Begins l.number m p → Text.isName name → l.HasColumn column →
      Adds l ⟨items, m⟩ ⟨items, .invocation p ⟨name, inner, depth, l.number, column⟩⟩
  | more (items : List Item) (p : Place) (c : OpenInvocation) (inner : List Char) (depth : Nat) :
      Adds l ⟨items, .invocation p c⟩ ⟨items, .invocation p { c with inner, depth }⟩
  | closing {items : List Item} {p : Place} {c : OpenInvocation} {inner : List Char} {s : Reader} :
      put items c.column (.call (invocation c.name inner)) p = .ok s →
      Adds l ⟨items, .invocation p c⟩ s

/-- To stop is to close everything. -/
theorem closes_of_finish {d : Document} (h : r.finish = .ok d) : Closes r ⟨d, .top⟩ := by
  obtain ⟨items, mode⟩ := r
  have hclose {declaration : Declaration}
      (h : (do return items ++ [← declaration.close] : Except ParseError Document) = .ok d) :
      Closes ⟨items, .methods declaration⟩ ⟨d, .top⟩ := by
    obtain ⟨item, hitem, h⟩ := exists_of_bind_ok h
    cases h
    exact .declaration hitem
  cases mode with
  | top =>
    cases h
    exact .nothing _
  | methods declaration => exact hclose h
  | block b => exact .block (hclose h)
  | invocation p c => cases h

theorem adds_of_readStatement {column : Nat} (hp : Begins l.number m p)
    (hcolumn : l.HasColumn column)
    (hline : l.IsTrimmed → p.IsMethod → IsScriptLine (String.ofList text))
    (h : readStatement items l.number column text p = .ok s) : Adds l ⟨items, m⟩ s := by
  unfold readStatement at h
  cases hstatement : statement text with
  | action a =>
    rw [hstatement] at h
    refine .action hp (fun hl => ?_) h
    cases hp with
    | shortcut _ =>
      cases a with
      | shell script => cases h
      | call call => exact wellFormed_of_statement_call hstatement
    | inline d method => exact wellFormed_of_statement hstatement (hline hl trivial)
    | block b => exact wellFormed_of_statement hstatement (hline hl trivial)
  | unclosed name inner depth =>
    rw [hstatement] at h
    cases h
    exact .opening items hp (isName_of_statement_unclosed hstatement) hcolumn

theorem adds_of_readItem (h : readItem items l = .ok s) : Adds l ⟨items, .top⟩ s := by
  unfold readItem at h
  dsimp only at h
  split at h
  · cases h
  · rename_i hindent
    have hindent : l.indent = 0 := not_not.mp hindent
    split at h
    · next hrecipe =>
      obtain ⟨heading, hheading, h⟩ := exists_of_bind_ok h
      cases h
      obtain ⟨before, htext⟩ := exists_append_of_recipeHeading? hrecipe
      have hcolumn := (isColumn_of_readRecipeHeading htext hheading).mono
        (isPrefix_dropAnyComment l.text)
      exact .heading items (wellFormed_of_readRecipeHeading hheading)
        (Line.hasColumn_of_indent hindent hcolumn)
    · split at h
      · next name rest hsplit =>
        have hname : IsName (String.ofList name) := by
          simpa [IsName] using (exists_of_splitHeading? hsplit).1
        split at h
        · cases h
          have hheading : (Heading.target (String.ofList name)).WellFormed := hname
          exact .heading items hheading (Line.hasColumn_of_indent hindent (Text.isColumn_one _))
        · exact adds_of_readStatement (.shortcut hname)
            (Line.hasColumn_of_indent hindent (isColumn_of_splitHeading? hsplit))
            (fun _ hp => hp.elim) h
      · obtain ⟨item, hdependency, h⟩ := exists_of_bind_ok h
        cases item with
        | none => cases h
        | some item =>
          cases h
          obtain ⟨relation, hrelation, rfl⟩ := exists_relation_of_readDependency hdependency
          exact .relation items hrelation

theorem adds_of_readMethod (h : readMethod items d l = .ok s) : Adds l ⟨items, .methods d⟩ s := by
  unfold readMethod at h
  split at h
  · cases h
  · next name rest hsplit =>
    split at h
    · cases h
    · next method _ =>
      dsimp only at h
      split at h
      · cases h
        exact .header items d method
      · next hcode =>
        simp only [Bool.or_eq_true, List.isEmpty_iff, beq_iff_eq, not_or] at hcode
        refine adds_of_readStatement (.inline d method) (hasColumn_of_splitHeading? hsplit)
          (fun hl _ => ?_) h
        obtain ⟨-, gap, -, htext⟩ := exists_of_splitHeading? hsplit
        exact isScriptLine_trim (fun hbreak => hl.no_break (by simp [htext, hbreak])) hcode.1
          hcode.2

theorem exists_of_afterMethod (h : afterMethod items d l = .ok s) :
    ∃ t, Closes ⟨items, .methods d⟩ t ∧ Adds l t s := by
  unfold afterMethod at h
  split at h
  · obtain ⟨item, hclose, h⟩ := exists_of_bind_ok h
    exact ⟨_, .declaration hclose, adds_of_readItem h⟩
  · exact ⟨_, .nothing _, adds_of_readMethod h⟩

theorem adds_of_continueInvocation {c : OpenInvocation}
    (h : continueInvocation items p c l = .ok s) : Adds l ⟨items, .invocation p c⟩ s := by
  unfold continueInvocation at h
  dsimp only at h
  split at h
  · cases h
    exact .more items p c _ _
  · split at h
    · exact .closing h
    · cases h

/-- A line closes what it does not belong to, and then adds one thing at most. -/
theorem exists_of_feed (h : feed r l = .ok s) : ∃ t, Closes r t ∧ Adds l t s := by
  rcases l.kinds with hcomment | hempty | hcode
  · rw [feed_comment hcomment] at h
    cases h
    exact ⟨r, .nothing r, .nothing r⟩
  · rw [feed_empty hempty] at h
    cases h
    obtain ⟨items, mode⟩ := r
    cases mode with
    | top => exact ⟨_, .nothing _, .nothing _⟩
    | methods d => exact ⟨_, .nothing _, .nothing _⟩
    | block b => exact ⟨_, .block (.nothing _), .nothing _⟩
    | invocation p c => exact ⟨_, .nothing _, .more items p c _ _⟩
  · obtain ⟨items, mode⟩ := r
    cases mode with
    | top =>
      rw [feed_top hcode] at h
      exact ⟨_, .nothing _, adds_of_readItem h⟩
    | methods d =>
      rw [feed_methods hcode] at h
      exact exists_of_afterMethod h
    | block b =>
      by_cases hindent : b.indent < l.indent
      · rw [feed_block hcode hindent] at h
        refine ⟨_, .nothing _,
          adds_of_readStatement (.block b) l.hasColumn_indent (fun hl _ => ?_) h⟩
        obtain ⟨hne, hash⟩ := Line.isCode_iff.mp hcode
        rw [← hl.trim]
        refine isScriptLine_trim hl.no_break ?_ ?_
        · simpa [hl.trim, Line.isEmpty] using hne
        · simpa [hl.trim, Line.isComment] using hash
      · rw [feed_dedent hcode (Nat.le_of_not_lt hindent)] at h
        obtain ⟨t, hclose, hadd⟩ := exists_of_afterMethod h
        exact ⟨t, .block hclose, hadd⟩
    | invocation p c =>
      rw [feed_invocation (Line.isCode_iff.mp hcode).2] at h
      exact ⟨_, .nothing _, adds_of_continueInvocation h⟩

end Reader

end Document

/-- The actions of all methods of an item. -/
def Item.actions (i : Item) : List Action := i.methods.flatMap MethodBody.actions

namespace Document

def Declaration.actions (d : Declaration) : List Action := d.methods.flatMap MethodBody.actions

/-- The actions of the declaration before a place. -/
def Place.actions : Place → List Action
  | .shortcut _ _ => []
  | .inline declaration _ _ => declaration.actions
  | .block b => b.close.actions

def Mode.actions : Mode → List Action
  | .top => []
  | .methods declaration => declaration.actions
  | .block b => b.close.actions
  | .invocation place _ => place.actions

/-- The actions that a reader has read, from the first method on. -/
def Reader.actions (r : Reader) : List Action := r.items.flatMap Item.actions ++ r.mode.actions

variable {items : List Item} {r s t : Reader} {l : Line} {d : Declaration} {p : Place} {a : Action}

@[simp] theorem Declaration.actions_add (d : Declaration) (b : MethodBody) :
    (d.add b).actions = d.actions ++ b.actions := by
  simp [Declaration.actions, Declaration.add]

theorem Declaration.actions_of_close {i : Item} (h : d.close = .ok i) : i.actions = d.actions := by
  unfold Item.actions Declaration.actions
  rw [methods_of_close h]

theorem Block.actions_close_add (b : Block) (a : Action) :
    (b.add a).close.actions = b.close.actions ++ [a] := by
  simp [Block.close, Block.add]

namespace Reader

theorem actions_of_put (hp : p.IsMethod) {column : Nat} (h : put items column a p = .ok s) :
    s.actions = items.flatMap Item.actions ++ p.actions ++ [a] := by
  cases p with
  | shortcut name line => exact hp.elim
  | inline declaration method line =>
    cases h
    simp [Reader.actions, Mode.actions, Place.actions]
  | block b =>
    cases h
    simp [Reader.actions, Mode.actions, Place.actions, Block.actions_close_add]

theorem prefix_actions_of_put {column : Nat} (h : put items column a p = .ok s) :
    items.flatMap Item.actions ++ p.actions <+: s.actions := by
  cases p with
  | shortcut name line =>
    cases a with
    | shell script => cases h
    | call invocation =>
      cases h
      simp [Reader.actions, Mode.actions, Place.actions, Item.actions, Item.methods]
  | inline declaration method line =>
    rw [actions_of_put (p := .inline declaration method line) trivial h]
    exact List.prefix_append ..
  | block b =>
    rw [actions_of_put (p := .block b) trivial h]
    exact List.prefix_append ..

theorem actions_of_closes (h : Closes r t) : t.actions = r.actions := by
  induction h with
  | nothing r => rfl
  | block _ ih => exact ih
  | declaration hclose =>
    simp [Reader.actions, Mode.actions, ← Declaration.actions_of_close hclose]

theorem actions_of_begins {n : Nat} {m : Mode} (h : Begins n m p) : p.actions = m.actions := by
  cases h <;> rfl

theorem prefix_actions_of_adds (h : Adds l t s) : t.actions <+: s.actions := by
  cases h with
  | nothing r => exact List.prefix_rfl
  | heading items _ _ => simp [Reader.actions, Mode.actions, Declaration.actions]
  | relation items _ => simp [Reader.actions, Mode.actions, Item.actions, Item.methods]
  | header items d method => simp [Reader.actions, Mode.actions, Block.close]
  | action hp _ hs =>
    rw [Reader.actions, ← actions_of_begins hp]
    exact prefix_actions_of_put hs
  | opening items hp _ _ =>
    rw [Reader.actions, ← actions_of_begins hp]
    exact List.prefix_rfl
  | more items p c inner depth => exact List.prefix_rfl
  | closing hs => exact prefix_actions_of_put hs

/-- No line takes back what the lines before it say. -/
theorem prefix_actions_of_feed (h : feed r l = .ok s) : r.actions <+: s.actions := by
  obtain ⟨t, hclose, hadd⟩ := exists_of_feed h
  rw [← actions_of_closes hclose]
  exact prefix_actions_of_adds hadd

theorem prefix_actions_of_foldlM {ls : List Line} (h : ls.foldlM feed r = .ok s) :
    r.actions <+: s.actions := by
  induction ls generalizing r with
  | nil =>
    cases h
    exact List.prefix_rfl
  | cons l ls ih =>
    rw [List.foldlM_cons] at h
    obtain ⟨t, ht, h⟩ := exists_of_bind_ok h
    exact (prefix_actions_of_feed ht).trans (ih h)

/-- A document holds all that has been read, and nothing else. -/
theorem actions_of_finish {d : Document} (h : r.finish = .ok d) :
    d.flatMap Item.actions = r.actions := by
  rw [← actions_of_closes (closes_of_finish h)]
  simp [Reader.actions, Mode.actions]

end Reader

end Document

end Provision
