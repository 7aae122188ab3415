import Provision.Proofs.Document.Appending
import Provision.Proofs.Document.Printing

namespace Provision

/-- A text behind a margin, without blanks around it. -/
theorem Line.ofText_margin {margin text : List Char} (hmargin : Text.isAllBlank margin)
    (htrim : Text.trim text = text) (n : Nat) :
    ofText n (margin ++ text) = ⟨n, Text.width margin, text⟩ := by
  have hhead := Text.isBlank_head_trim text
  rw [htrim] at hhead
  rw [ofText, Text.margin_append_of_blank hmargin hhead, Text.trim_append_of_blank hmargin, htrim]

theorem Line.ofText_of_trim {text : List Char} (htrim : Text.trim text = text) (n : Nat) :
    ofText n text = ⟨n, 0, text⟩ :=
  @ofText_margin [] text rfl htrim n

theorem Line.isCode_mk {n indent : Nat} {text : List Char} (hne : text ≠ [])
    (hash : text.head? ≠ some '#') : (Line.mk n indent text).isCode := by
  simp [Line.isCode, Line.isEmpty, Line.isComment, hne, hash]

namespace Document

variable {items : List Item} {n : Nat} {name rest text gap others : List Char} {r : Relation}

theorem isCode_of_isName (h : Text.isName name) (n indent : Nat) (rest : List Char) :
    (Line.mk n indent (name ++ rest)).isCode := by
  obtain ⟨hne, hall⟩ := Text.isName_iff.mp h
  obtain ⟨c, cs, rfl⟩ := List.exists_cons_of_ne_nil hne
  have hc : c ≠ '#' := by
    rintro rfl
    exact absurd (hall '#' (by simp)) (by decide)
  exact Line.isCode_mk (by simp) (by simpa using hc)

/-- Without a blank before the arrow, the name that begins a dependency ends within the arrow. -/
theorem exists_splitName_glued (h : r.WellFormed) (others : List Char) :
    ∃ name c rest, Text.splitName (r.spelled [] others) = (name, c :: rest) ∧
      Text.isBlank c = false ∧ c ≠ ':' := by
  have hsubject : Text.isName r.subject.toList := h.subject
  obtain ⟨hne, hall⟩ := Text.isName_iff.mp hsubject
  rw [Relation.spelled]
  cases r.arrow with
  | dependsOn =>
    have hdash : Text.isName (r.subject.toList ++ ['-']) := by
      refine Text.isName_iff.mpr ⟨by simp, fun c hc => ?_⟩
      rcases List.mem_append.mp hc with hc | hc
      · exact hall c hc
      · obtain rfl : c = '-' := by simpa using hc
        decide
    have hsplit := @Text.splitName_of_isName _ ('>' :: others) hdash (by simp; decide)
    exact ⟨r.subject.toList ++ ['-'], '>', others, by simpa [Arrow.symbol] using hsplit, by decide,
      by decide⟩
  | dependedUpon =>
    have hsplit := @Text.splitName_of_isName _ ('<' :: '-' :: others) hsubject (by simp; decide)
    exact ⟨r.subject.toList, '<', '-' :: others, by simpa [Arrow.symbol] using hsplit, by decide,
      by decide⟩

theorem splitName_spaced (h : r.WellFormed) (hgap : Text.isAllBlank gap) (hne : gap ≠ [])
    (others : List Char) : Text.splitName (r.spelled gap others) =
      (r.subject.toList, gap ++ (r.arrow.symbol.toList ++ others)) := by
  refine Text.splitName_of_isName h.subject fun c hc => ?_
  rw [List.head?_append_of_ne_nil _ hne] at hc
  exact Text.isNameChar_of_isBlank (Text.isAllBlank_iff.mp hgap c (List.mem_of_mem_head? hc))

theorem trimStart_symbol (arrow : Arrow) (others : List Char) :
    Text.trimStart (arrow.symbol.toList ++ others) = arrow.symbol.toList ++ others := by
  cases arrow <;> exact (Text.trimStart_cons _ _).trans (if_neg (by decide))

/-- A dependency is no heading of a target. -/
theorem splitHeading?_spelled (h : r.WellFormed) (hgap : Text.isAllBlank gap)
    (others : List Char) : splitHeading? (r.spelled gap others) = none := by
  by_cases hne : gap = []
  · subst hne
    obtain ⟨name, c, rest, hsplit, hblank, hcolon⟩ := exists_splitName_glued h others
    have hstart : Text.trimStart (c :: rest) = c :: rest := by rw [Text.trimStart_cons, hblank]; rfl
    simp [splitHeading?, hsplit, hstart, hcolon]
  · rw [splitHeading?, splitName_spaced h hgap hne]
    dsimp only
    rw [Text.trimStart_append_of_blank hgap, trimStart_symbol]
    cases r.arrow <;> rfl

/-- A dependency is no heading of a recipe, unless its subject is the word for that and stands
apart from the arrow. -/
theorem recipeHeading?_spelled (h : r.WellFormed) (hgap : Text.isAllBlank gap)
    (hrecipe : r.subject = "recipe" → gap = []) (others : List Char) :
    recipeHeading? (r.spelled gap others) = none := by
  by_cases hne : gap = []
  · subst hne
    obtain ⟨name, c, rest, hsplit, hblank, -⟩ := exists_splitName_glued h others
    exact recipeHeading?_eq_none hsplit fun _ => by simpa using hblank
  · refine recipeHeading?_eq_none (splitName_spaced h hgap hne others) fun hsubject => ?_
    exact absurd (hrecipe (String.toList_inj.mp hsubject)) hne

/-- What is not a blank is in a text only if it is in one of the names there. -/
theorem not_mem_of_runs {names : List String} {c : Char} (hblank : Text.isBlank c = false)
    (hname : Text.isNameChar c = false) (hnames : ∀ s ∈ names, IsName s)
    (hruns : Text.runs Text.isBlank text = names.map String.toList) : c ∉ text := by
  intro hmem
  have hflat : c ∈ (Text.runs Text.isBlank text).flatten := by
    rw [Text.flatten_runs]
    simp [hmem, hblank]
  rw [hruns] at hflat
  obtain ⟨run, hrun, hc⟩ := List.mem_flatten.mp hflat
  obtain ⟨s, hs, rfl⟩ := List.mem_map.mp hrun
  exact not_mem_of_isName hname (hnames s hs) hc

theorem isCode_spelled (h : r.WellFormed) (n : Nat) (gap others : List Char) :
    (Line.mk n 0 (r.spelled gap others)).isCode :=
  isCode_of_isName h.subject n 0 _

theorem not_mem_spelled {c : Char} (hname : Text.isNameChar c = false)
    (harrow : c ∉ ['-', '<', '>']) (h : r.WellFormed) (hgap : c ∉ gap) (hothers : c ∉ others) :
    c ∉ r.spelled gap others := by
  have hsymbol : c ∉ r.arrow.symbol.toList := by cases r.arrow <;> simp_all [Arrow.symbol]
  simp [Relation.spelled, not_mem_of_isName hname h.subject, hgap, hsymbol, hothers]

namespace Reader

/-! ## The first lines of items -/

theorem readItem_target {name : String} (h : IsName name) :
    readItem items ⟨n, 0, name.toList ++ [':']⟩ = .ok ⟨items, .methods ⟨.target name, n, []⟩⟩ := by
  have hname : Text.isName name.toList := h
  have hash : '#' ∉ name.toList ++ [':'] := by simpa using not_mem_of_isName (by decide) hname
  have hsplit : Text.splitName (name.toList ++ [':']) = (name.toList, [':']) :=
    Text.splitName_of_isName hname (by simp; decide)
  have hrecipe := recipeHeading?_eq_none hsplit fun _ => by simp; decide
  have hdrop : Text.trim (dropComment []) = [] := by decide
  simp [readItem, dropAnyComment_of_not_mem hash, hrecipe, splitHeading?_of_isName hname, hdrop]

/-- What stands right after the name of a target is a statement. -/
theorem exists_readItem_statement {name : String} {gap : List Char} (h : IsName name)
    (hgap : Text.isAllBlank gap) (hne : text ≠ []) (htrim : Text.trim text = text)
    (hash : '#' ∉ text) :
    ∃ column, readItem items ⟨n, 0, name.toList ++ ':' :: (gap ++ text)⟩ =
      readStatement items n column text (.shortcut name n) := by
  have hname : Text.isName name.toList := h
  have hrest : '#' ∉ gap ++ text := by
    simp [hash, not_mem_of_isAllBlank (c := '#') (by decide) hgap]
  have hline : '#' ∉ name.toList ++ ':' :: (gap ++ text) := by
    have hmem := not_mem_of_isName (c := '#') (by decide) hname
    rw [List.mem_append, List.mem_cons]
    simp [hmem, hrest]
  have hsplit : Text.splitName (name.toList ++ ':' :: (gap ++ text)) =
      (name.toList, ':' :: (gap ++ text)) :=
    Text.splitName_of_isName hname (by simp; decide)
  have hrecipe := recipeHeading?_eq_none hsplit fun _ => by simp; decide
  have hdrop : Text.trim (dropComment (gap ++ text)) = text := by
    rw [dropComment_of_not_mem hrest, Text.trim_append_of_blank hgap, htrim]
  refine ⟨Text.width (name.toList ++ ':' :: (gap ++ text)) - Text.width (gap ++ text) + 1, ?_⟩
  simp [readItem, dropAnyComment_of_not_mem hline, hrecipe, splitHeading?_of_isName hname, hdrop,
    hne, String.ofList_toList]

theorem readItem_shortcut {name : String} {call : Invocation} (h : IsName name)
    (hcall : call.WellFormed) (hprint : call.Printable) :
    readItem items ⟨n, 0, name.toList ++ ':' :: ' ' :: call.render.toList⟩ =
      .ok ⟨items ++ [.shortcut name call n], .top⟩ := by
  have hrender := not_mem_render hcall (c := '#') (by decide) (by decide) hprint.no_comment
  have hne : call.render.toList ≠ [] := by simp [toList_render]
  obtain ⟨column, hread⟩ := @exists_readItem_statement items n _ name [' '] h (by decide) hne
    (trim_render hcall) hrender
  refine hread.trans ?_
  rw [readStatement, statement_render hcall hprint]
  rfl

theorem readItem_recipe {name : String} {parameters : List String} (h : IsName name)
    (hparameters : ∀ p ∈ parameters, IsName p) :
    ∃ column, readItem items ⟨n, 0, "recipe".toList ++ ' ' :: (name.toList ++
        '(' :: ([' '].intercalate (parameters.map String.toList) ++ [')', ':']))⟩ =
      .ok ⟨items, .methods ⟨.recipe name parameters column, n, []⟩⟩ := by
  have hmem : '#' ∉ name.toList := not_mem_of_isName (by decide) h
  have hinner := not_mem_names (c := '#') (by decide) (by decide) hparameters
  have hash : '#' ∉ "recipe".toList ++ ' ' :: (name.toList ++
      '(' :: ([' '].intercalate (parameters.map String.toList) ++ [')', ':'])) := by
    simp [hmem, hinner]
  have hspace : Text.isBlank ' ' := by decide
  obtain ⟨column, hheading⟩ := readRecipeHeading_render n ("recipe".toList ++ ' ' :: (name.toList ++
      '(' :: ([' '].intercalate (parameters.map String.toList) ++ [')', ':']))) h hparameters
  refine ⟨column, ?_⟩
  simp only [readItem, dropAnyComment_of_not_mem hash, recipeHeading?_of_blank hspace, hheading]
  rfl

theorem readItem_spelled (h : r.WellFormed) (hgap : Text.isAllBlank gap)
    (hrecipe : r.subject = "recipe" → gap = [])
    (hothers : Text.runs Text.isBlank others = r.others.map String.toList) :
    readItem items ⟨n, 0, r.spelled gap others⟩ = .ok ⟨items ++ [.dependency r n], .top⟩ := by
  have hash : '#' ∉ r.spelled gap others :=
    not_mem_spelled (by decide) (by decide) h (not_mem_of_isAllBlank (by decide) hgap)
      (not_mem_of_runs (by decide) (by decide) h.others hothers)
  simp only [readItem, dropAnyComment_of_not_mem hash, recipeHeading?_spelled h hgap hrecipe,
    splitHeading?_spelled h hgap, readDependency_spelled n h hgap hothers]
  rfl

end Reader

/-! ## Methods -/

theorem isName_method (method : Method) : Text.isName method.name.toList := by
  cases method <;> decide

theorem ofText_header {margin : List Char} (hmargin : Text.isAllBlank margin)
    (hname : Text.isName name) (n : Nat) :
    Line.ofText n (margin ++ (name ++ [':'])) = ⟨n, Text.width margin, name ++ [':']⟩ :=
  Line.ofText_margin hmargin (Text.trim_of_isName hname (by simp; decide)) n

/-- The declaration to which a line indented by so much can add a method. -/
inductive Mode.Takes (d : Declaration) (indent : Nat) : Mode → Prop
  | methods : Takes d indent (.methods d)
  | block (b : Block) (hindent : indent ≤ b.indent) (hclose : b.close = d) :
      Takes d indent (.block b)

/-- The declaration to which the next method is added, in a text in which the headers of methods are
indented by two columns. -/
inductive Mode.Extends (d : Declaration) : Mode → Prop
  | methods : Extends d (.methods d)
  | block (b : Block) (hindent : b.indent = 2) (hclose : b.close = d) : Extends d (.block b)

theorem Mode.Extends.takes {d : Declaration} {m : Mode} (h : m.Extends d) : m.Takes d 2 := by
  cases h with
  | methods => exact .methods
  | block b hindent hclose => exact .block b hindent.ge hclose

namespace Reader

variable {d : Declaration} {m : Mode}

theorem toList_header (method : Method) :
    ("  " ++ method.name ++ ":").toList = "  ".toList ++ (method.name.toList ++ [':']) := by
  simp [String.toList_append]

theorem feed_of_takes {l : Line} (h : m.Takes d l.indent) (hcode : l.isCode)
    (hindent : l.indent ≠ 0) : feed ⟨items, m⟩ l = readMethod items d l := by
  cases h with
  | methods => rw [feed_methods hcode, afterMethod, if_neg hindent]
  | block b hle hclose => rw [feed_dedent hcode hle, afterMethod, if_neg hindent, hclose]

theorem readMethod_header (method : Method) (n indent : Nat) :
    readMethod items d ⟨n, indent, method.name.toList ++ [':']⟩ =
      .ok ⟨items, .block ⟨d, ⟨method, [], n⟩, indent⟩⟩ := by
  have hempty : Text.trim [] = [] := rfl
  simp [readMethod, splitHeading?_of_isName (isName_method method), hempty]

theorem feed_header (h : m.Extends d) (method : Method) :
    feed ⟨items, m⟩ (.ofText n ("  " ++ method.name ++ ":").toList) =
      .ok ⟨items, .block ⟨d, ⟨method, [], n⟩, 2⟩⟩ := by
  have hname := isName_method method
  have hline : Line.ofText n ("  " ++ method.name ++ ":").toList =
      ⟨n, 2, method.name.toList ++ [':']⟩ := by
    rw [toList_header]
    exact ofText_header (by decide) hname n
  rw [hline, feed_of_takes h.takes (isCode_of_isName hname n 2 _) (by simp)]
  exact readMethod_header method n 2

theorem feed_action {a : Action} (h : a.WellFormed) (hprint : a.Printable) {b : Block}
    (hindent : b.indent = 2) :
    feed ⟨items, .block b⟩ (.ofText n ("    " ++ a.render).toList) =
      .ok ⟨items, .block (b.add a)⟩ := by
  have hmargin : Text.isAllBlank "    ".toList := by decide
  rw [String.toList_append]
  cases a with
  | shell script =>
    have hscript : IsScriptLine script := h
    have htrim : Text.trim script.toList = script.toList := by
      simpa [Text.trimmed] using congrArg String.toList hscript.trimmed
    have hne : script.toList ≠ [] := by simpa using hscript.ne_empty
    have hcode : (Line.mk n 4 script.toList).isCode := Line.isCode_mk hne hscript.no_comment
    have hline : Line.ofText n ("    ".toList ++ script.toList) = ⟨n, 4, script.toList⟩ :=
      Line.ofText_margin hmargin htrim n
    rw [Action.render, hline, feed_block hcode (by simp [hindent])]
    simp [readStatement, statement_eq_shell_iff.mpr hprint, put]
  | call invocation =>
    have hcall : invocation.WellFormed := h
    have hcode : (Line.mk n 4 invocation.render.toList).isCode := by
      rw [toList_render]
      exact isCode_of_isName hcall.name n 4 _
    have hline : Line.ofText n ("    ".toList ++ invocation.render.toList) =
        ⟨n, 4, invocation.render.toList⟩ :=
      Line.ofText_margin hmargin (trim_render hcall) n
    rw [Action.render, hline, feed_block hcode (by simp [hindent])]
    simp [readStatement, statement_render hcall hprint, put]

theorem foldlM_feed_actions {as : List Action} (h : ∀ a ∈ as, a.WellFormed)
    (hprint : ∀ a ∈ as, a.Printable) {b : Block} (hindent : b.indent = 2) :
    (Line.ofTexts n ((as.map fun a => "    " ++ a.render).map String.toList)).foldlM feed
        ⟨items, .block b⟩ =
      .ok ⟨items, .block { b with body := { b.body with actions := b.body.actions ++ as } }⟩ := by
  induction as generalizing n b with
  | nil => simp [Line.ofTexts, pure, Except.pure]
  | cons a as ih =>
    rw [List.map_cons, List.map_cons, Line.ofTexts, List.foldlM_cons,
      feed_action (h a (by simp)) (hprint a (by simp)) hindent]
    have hrest := @ih (n + 1) (fun a hmem => h a (List.mem_cons_of_mem _ hmem))
      (fun a hmem => hprint a (List.mem_cons_of_mem _ hmem)) (b.add a) hindent
    refine hrest.trans ?_
    simp [Block.add]

/-- The lines of a method are read as that method, from its header on. -/
theorem foldlM_feed_body {b : MethodBody} (h : b.WellFormed) (hprint : b.Printable)
    (hm : m.Extends d) :
    (Line.ofTexts n (b.render.map String.toList)).foldlM feed ⟨items, m⟩ =
      .ok ⟨items, .block ⟨d, { b with line := n }, 2⟩⟩ := by
  rw [MethodBody.render, List.map_cons, Line.ofTexts, List.foldlM_cons, feed_header hm]
  exact foldlM_feed_actions h hprint rfl

/-- The lines of methods are read as those methods. -/
theorem exists_foldlM_feed_bodies {bs : List MethodBody} (h : ∀ b ∈ bs, b.WellFormed)
    (hprint : ∀ b ∈ bs, b.Printable) (hm : m.Extends d) :
    ∃ m', (Line.ofTexts n ((bs.flatMap MethodBody.render).map String.toList)).foldlM feed
        ⟨items, m⟩ = .ok ⟨items, m'⟩ ∧
      m'.Extends { d with methods := d.methods ++ placeBodies n bs } := by
  induction bs generalizing n d m with
  | nil => exact ⟨m, rfl, by simpa [placeBodies] using hm⟩
  | cons b bs ih =>
    have hm' : (Mode.block ⟨d, { b with line := n }, 2⟩).Extends (d.add { b with line := n }) :=
      .block _ rfl rfl
    obtain ⟨m', hrest, hextends⟩ := @ih (n + b.render.length) _ _
      (fun b hmem => h b (List.mem_cons_of_mem _ hmem))
      (fun b hmem => hprint b (List.mem_cons_of_mem _ hmem)) hm'
    refine ⟨m', ?_, ?_⟩
    · rw [List.flatMap_cons, List.map_append, Line.ofTexts_append, List.foldlM_append,
        foldlM_feed_body (h b (by simp)) (hprint b (by simp)) hm, List.length_map]
      exact hrest
    · simpa [Declaration.add, placeBodies] using hextends

theorem finish_of_extends {i : Item} (h : m.Extends d) (hclose : d.close = .ok i) :
    finish ⟨items, m⟩ = .ok (items ++ [i]) := by
  cases h with
  | methods => simp [finish, hclose, bind, Except.bind, pure, Except.pure]
  | block b hindent hb => simp [finish, hb, hclose, bind, Except.bind, pure, Except.pure]

end Reader

theorem ofLines_declaration (heading : Heading) {header : String} {bs : List MethodBody} {i : Item}
    (hheader : Reader.start.feed (.ofText n header.toList) = .ok ⟨[], .methods ⟨heading, n, []⟩⟩)
    (h : ∀ b ∈ bs, b.WellFormed) (hprint : ∀ b ∈ bs, b.Printable)
    (hclose : Declaration.close ⟨heading, n, placeBodies (n + 1) bs⟩ = .ok i) :
    ofLines (Line.ofTexts n ((header :: bs.flatMap MethodBody.render).map String.toList)) =
      .ok [i] := by
  obtain ⟨m, hbodies, hextends⟩ := @Reader.exists_foldlM_feed_bodies [] (n + 1)
    ⟨heading, n, []⟩ _ bs h hprint .methods
  rw [List.map_cons, Line.ofTexts, ofLines, List.foldlM_cons, hheader]
  refine (congrArg (· >>= Reader.finish) hbodies).trans ?_
  exact Reader.finish_of_extends hextends hclose

theorem placeBodies_ne_nil {bs : List MethodBody} (h : bs ≠ []) (n : Nat) :
    placeBodies n bs ≠ [] := by
  cases bs with
  | nil => exact absurd rfl h
  | cons b bs => simp [placeBodies]

theorem toList_recipe (name : String) (parameters : List String) :
    ("recipe " ++ name ++ "(" ++ " ".intercalate parameters ++ "):").toList =
      "recipe".toList ++ ' ' :: (name.toList ++
        '(' :: ([' '].intercalate (parameters.map String.toList) ++ [')', ':'])) := by
  simp [String.toList_append]

theorem not_mem_bodies {bs : List MethodBody} (h : ∀ b ∈ bs, b.WellFormed) :
    ∀ line ∈ bs.flatMap MethodBody.render, '\n' ∉ line.toList := by
  intro line hline
  obtain ⟨b, hb, hline⟩ := List.mem_flatMap.mp hline
  rcases List.mem_cons.mp hline with rfl | hline
  · have hmethod := not_mem_of_isName (c := '\n') (by decide) (isName_method b.method)
    simpa [String.toList_append] using hmethod
  · obtain ⟨a, ha, rfl⟩ := List.mem_map.mp hline
    have haction := h b hb a ha
    cases a with
    | shell script =>
      have hscript : IsScriptLine script := haction
      simpa [String.toList_append, Action.render] using hscript.no_break
    | call invocation => simpa [String.toList_append, Action.render] using not_mem_break haction

/-- No printed line holds a line break. -/
theorem not_mem_item {i : Item} (h : i.WellFormed) : ∀ line ∈ i.render, '\n' ∉ line.toList := by
  have hname {s : String} (hs : IsName s) : '\n' ∉ s.toList := not_mem_of_isName (by decide) hs
  have hnames {names : List String} (hall : ∀ s ∈ names, IsName s) :
      '\n' ∉ [' '].intercalate (names.map String.toList) :=
    not_mem_names (by decide) (by decide) hall
  intro line hline
  cases i with
  | recipe name parameters methods number =>
    obtain ⟨hn, hparameters, -, hbodies⟩ := h
    rcases List.mem_cons.mp hline with rfl | hline
    · rw [toList_recipe]
      simp [hname hn, hnames hparameters]
    · exact not_mem_bodies hbodies line hline
  | target name methods number =>
    obtain ⟨hn, -, hbodies⟩ := h
    rcases List.mem_cons.mp hline with rfl | hline
    · simpa [String.toList_append] using hname hn
    · exact not_mem_bodies hbodies line hline
  | shortcut name invocation number =>
    obtain ⟨hn, hcall⟩ := h
    obtain rfl := List.mem_singleton.mp hline
    simpa [String.toList_append] using ⟨hname hn, not_mem_break hcall⟩
  | dependency relation number =>
    obtain rfl := List.mem_singleton.mp hline
    have hrelation : relation.WellFormed := h
    rw [toList_relation]
    exact not_mem_spelled (by decide) (by decide) hrelation (by simp) (hnames hrelation.others)

/-- The lines of an item are read as that item. -/
theorem ofLines_render {i : Item} (h : i.WellFormed) (hprint : i.Printable) :
    ofLines (Line.ofTexts n (i.render.map String.toList)) = .ok [placeItem n i] := by
  cases i with
  | recipe name parameters methods line =>
    obtain ⟨hname, hparameters, hne, hbodies⟩ := h
    obtain ⟨column, hread⟩ := @Reader.readItem_recipe [] n _ _ hname hparameters
    refine ofLines_declaration (.recipe name parameters column) ?_ hbodies hprint ?_
    · have hrecipe : Text.isName "recipe".toList := by decide
      rw [toList_recipe, Line.ofText_of_trim
        (Text.trim_of_isName hrecipe (by simp [List.getLast?_append, List.getLast?_cons]; decide))]
      exact (Reader.feed_top (isCode_of_isName hrecipe n 0 _)).trans hread
    · simp [Declaration.close, placeBodies_ne_nil hne, placeItem]
  | target name methods line =>
    obtain ⟨hname, hne, hbodies⟩ := h
    refine ofLines_declaration (.target name) ?_ hbodies hprint ?_
    · have htext : (name ++ ":").toList = name.toList ++ [':'] := by simp [String.toList_append]
      rw [htext, Line.ofText_of_trim (Text.trim_of_isName hname (by simp; decide))]
      exact (Reader.feed_top (isCode_of_isName hname n 0 _)).trans (Reader.readItem_target hname)
    · simp [Declaration.close, placeBodies_ne_nil hne, placeItem]
  | shortcut name invocation line =>
    obtain ⟨hname, hcall⟩ := h
    have htext : (name ++ ": " ++ invocation.render).toList =
        name.toList ++ ':' :: ' ' :: invocation.render.toList := by simp [String.toList_append]
    have hline : Line.ofText n (name ++ ": " ++ invocation.render).toList =
        ⟨n, 0, name.toList ++ ':' :: ' ' :: invocation.render.toList⟩ := by
      rw [htext]
      refine Line.ofText_of_trim (Text.trim_of_isName hname fun c hc => ?_) n
      obtain rfl : ')' = c := by simpa [List.getLast?_cons, getLast?_render] using hc
      decide
    rw [Item.render, List.map_singleton, Line.ofTexts, Line.ofTexts, hline, ofLines,
      List.foldlM_cons, Reader.start, Reader.feed_top (isCode_of_isName hname n 0 _),
      Reader.readItem_shortcut hname hcall hprint]
    rfl
  | dependency relation line =>
    have hrelation : relation.WellFormed := h
    rw [Item.render, List.map_singleton, toList_relation, Line.ofTexts, Line.ofTexts,
      Line.ofText_of_trim (trim_relation h (isBlank_getLast_names hrelation.others)), ofLines,
      List.foldlM_cons, Reader.start, Reader.feed_top (isCode_spelled hrelation n [] _),
      Reader.readItem_spelled h rfl (fun _ => rfl) (words_names hrelation.others)]
    rfl

/-- The lines of a document are read as that document. -/
theorem ofLines_renderAll {d : Document} (h : ∀ i ∈ d, i.WellFormed)
    (hprint : ∀ i ∈ d, i.Printable) :
    ofLines (Line.ofTexts n ((d.flatMap Item.render).map String.toList)) = .ok (place n d) := by
  induction d generalizing n with
  | nil => rfl
  | cons i d ih =>
    have hitem := @ofLines_render n i (h i (by simp)) (hprint i (by simp))
    have hrest := @ih (n + i.render.length) (fun i hmem => h i (List.mem_cons_of_mem _ hmem))
      (fun i hmem => hprint i (List.mem_cons_of_mem _ hmem))
    have happend := ofLines_append (f := id) hitem hrest
    rw [Line.renumber_id, Item.renumber_id, List.map_id, List.map_id] at happend
    rw [List.flatMap_cons, List.map_append, Line.ofTexts_append, List.length_map]
    exact happend

/-- A document that is written down is read as the same document, with its items and methods at the
lines that they have in the text. -/
theorem parse_render {d : Document} (h : ∀ i ∈ d, i.WellFormed) (hprint : ∀ i ∈ d, i.Printable) :
    parse (render d) = .ok (place 1 d) := by
  have hlines : ∀ line ∈ d.flatMap Item.render, '\n' ∉ line.toList := by
    intro line hline
    obtain ⟨i, hi, hline⟩ := List.mem_flatMap.mp hline
    exact not_mem_item (h i hi) line hline
  rw [parse_eq_read, render, Reader.read_join hlines]
  exact ofLines_renderAll h hprint

/-- A document with an item of each kind, a script that begins like a call, and parentheses that
match across the groups of an argument list. -/
theorem parse_tea :
    parse ("recipe brew(leaf cup):\n  setup:\n    steep(2) now\n    apt(tea( x,)y)\n" ++
        "  is_setup:\npot:\n  is_setup:\n    test -d pot # yes\n" ++
        "tea: brew(green,)\ntea->pot cup\n") =
      .ok [.recipe "brew" ["leaf", "cup"]
          [⟨.setup, [.shell "steep(2) now", .call ⟨"apt", [["tea(", "x"], [")y"]]⟩], 2⟩,
            ⟨.isSetup, [], 5⟩] 1,
        .target "pot" [⟨.isSetup, [.shell "test -d pot # yes"], 7⟩] 6,
        .shortcut "tea" ⟨"brew", [["green"], []]⟩ 9,
        .dependency ⟨"tea", .dependsOn, ["pot", "cup"]⟩ 10] := by
  have hrender := @parse_render
    [.recipe "brew" ["leaf", "cup"]
        [⟨.setup, [.shell "steep(2) now", .call ⟨"apt", [["tea(", "x"], [")y"]]⟩], 0⟩,
          ⟨.isSetup, [], 0⟩] 0,
      .target "pot" [⟨.isSetup, [.shell "test -d pot # yes"], 0⟩] 0,
      .shortcut "tea" ⟨"brew", [["green"], []]⟩ 0,
      .dependency ⟨"tea", .dependsOn, ["pot", "cup"]⟩ 0] (by decide +kernel) (by decide +kernel)
  exact hrender

end Document

end Provision
