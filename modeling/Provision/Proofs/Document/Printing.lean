import Provision.Document.Printer
import Provision.Document.WellFormed
import Provision.Document.Header
import Provision.Proofs.Document.Statement

namespace Provision

/-- The parentheses of a text match one another, where `depth` are open before it. -/
def Text.isBalanced (depth : Nat) : List Char → Bool
  | [] => depth == 0
  | c :: cs =>
    if c = '(' then isBalanced (depth + 1) cs
    else if c = ')' then depth != 0 && isBalanced (depth - 1) cs
    else isBalanced depth cs

/-- Something other than a comment stands in a text. -/
def Text.SaysMore (cs : List Char) : Prop := ∃ c ∈ (trimStart cs).head?, c ≠ '#'

/-- A script that no reader takes for a call: what looks like the beginning of a call has more
behind the parenthesis that closes it. -/
def IsPlainScript (s : String) : Prop :=
  ∀ name cs, Text.isName name → s.toList = name ++ '(' :: cs →
    ∃ inner tail, cs = inner ++ ')' :: tail ∧ Text.isBalanced 0 inner ∧ Text.SaysMore tail

/-- A call that can be written on one line. -/
structure Invocation.Printable (call : Invocation) : Prop where
  no_comment : ∀ group ∈ call.groups, ∀ token ∈ group, '#' ∉ token.toList
  balanced : Text.isBalanced 0 (",".intercalate call.values).toList

def Action.Printable : Action → Prop
  | .shell script => IsPlainScript script
  | .call invocation => invocation.Printable

def MethodBody.Printable (b : MethodBody) : Prop := ∀ a ∈ b.actions, a.Printable

/-- An item of which each action can be told from its line. -/
def Item.Printable : Item → Prop
  | .recipe _ _ methods _ => ∀ b ∈ methods, b.Printable
  | .target _ methods _ => ∀ b ∈ methods, b.Printable
  | .shortcut _ invocation _ => invocation.Printable
  | .dependency _ _ => True

/-- The text of a dependency with the given texts between its subject and the arrow, and behind the
arrow. -/
def Relation.spelled (r : Relation) (gap others : List Char) : List Char :=
  r.subject.toList ++ (gap ++ (r.arrow.symbol.toList ++ others))

namespace Document

variable {cs inner rest tail text name gap others : List Char} {names : List String} {depth : Nat}
  {call : Invocation} {r : Relation}

/-! ## Names -/

theorem not_mem_of_isName {c : Char} (hc : Text.isNameChar c = false) (h : Text.isName name) :
    c ∉ name := by
  intro hmem
  simp [(Text.isName_iff.mp h).2 c hmem] at hc

theorem not_mem_names {c : Char} (hc : Text.isNameChar c = false) (hspace : c ≠ ' ')
    (h : ∀ s ∈ names, IsName s) : c ∉ [' '].intercalate (names.map String.toList) := by
  refine Text.not_mem_intercalate (by simpa using hspace) fun piece hpiece => ?_
  obtain ⟨s, hs, rfl⟩ := List.mem_map.mp hpiece
  exact not_mem_of_isName hc (h s hs)

theorem find?_not_isName (h : ∀ s ∈ names, IsName s) :
    (names.map String.toList).find? (!Text.isName ·) = none := by
  rw [List.find?_eq_none]
  intro piece hpiece
  obtain ⟨s, hs, rfl⟩ := List.mem_map.mp hpiece
  have hname : Text.isName s.toList := h s hs
  simp [hname]

theorem runs_names {separator : Char → Bool} (hspace : separator ' ')
    (hname : ∀ c, Text.isNameChar c → separator c = false) (h : ∀ s ∈ names, IsName s) :
    Text.runs separator ([' '].intercalate (names.map String.toList)) =
      names.map String.toList := by
  refine Text.runs_intercalate hspace fun piece hpiece => ?_
  obtain ⟨s, hs, rfl⟩ := List.mem_map.mp hpiece
  obtain ⟨hne, hall⟩ := Text.isName_iff.mp (h s hs)
  exact ⟨hne, fun c hc => hname c (hall c hc)⟩

theorem words_names (h : ∀ s ∈ names, IsName s) :
    Text.runs Text.isBlank ([' '].intercalate (names.map String.toList)) =
      names.map String.toList :=
  runs_names (by decide) (fun _ hc => Text.isBlank_of_isNameChar hc) h

theorem intercalate_names_ne_nil (hne : names ≠ []) (h : ∀ s ∈ names, IsName s) :
    [' '].intercalate (names.map String.toList) ≠ [] := by
  intro hnil
  have hwords := words_names h
  rw [hnil] at hwords
  exact hne (List.map_eq_nil_iff.mp hwords.symm)

theorem isBlank_getLast_names (h : ∀ s ∈ names, IsName s) :
    ∀ c ∈ ([' '].intercalate (names.map String.toList)).getLast?, Text.isBlank c = false := by
  induction names with
  | nil => simp
  | cons s names ih =>
    intro c hc
    have hnames : ∀ s ∈ names, IsName s := fun s hmem => h s (List.mem_cons_of_mem _ hmem)
    cases names with
    | nil =>
      have hmem : c ∈ s.toList := List.mem_of_getLast? (by simpa using hc)
      exact Text.isBlank_of_isNameChar ((Text.isName_iff.mp (h s (by simp))).2 c hmem)
    | cons next names =>
      rw [List.map_cons, List.map_cons, List.intercalate_cons_cons, ← List.map_cons,
        List.getLast?_append_of_ne_nil _ (intercalate_names_ne_nil (by simp) hnames)] at hc
      exact ih hnames c hc

/-! ## Calls -/

theorem closing_of_isBalanced (h : Text.isBalanced depth inner) :
    closing (depth + 1) (inner ++ ')' :: rest) = .closed inner rest := by
  induction inner generalizing depth with
  | nil =>
    obtain rfl : depth = 0 := by simpa [Text.isBalanced] using h
    rfl
  | cons c inner ih =>
    rw [Text.isBalanced] at h
    rw [List.cons_append, closing]
    by_cases hopen : c = '('
    · rw [if_pos hopen] at h
      rw [if_pos hopen, ih h]
      rfl
    · rw [if_neg hopen] at h
      rw [if_neg hopen]
      by_cases hclose : c = ')'
      · rw [if_pos hclose, Bool.and_eq_true, bne_iff_ne] at h
        obtain ⟨hdepth, h⟩ := h
        obtain ⟨k, rfl⟩ := Nat.exists_eq_succ_of_ne_zero hdepth
        rw [if_pos hclose, if_neg (by omega), Nat.add_sub_cancel]
        exact congrArg (Closing.cons c) (ih h)
      · rw [if_neg hclose] at h
        rw [if_neg hclose, ih h]
        rfl

/-- The text of the arguments of a call. -/
theorem toList_values (call : Invocation) :
    (",".intercalate call.values).toList =
      [','].intercalate
        (call.groups.map fun group => [' '].intercalate (group.map String.toList)) := by
  simp [Invocation.values, Function.comp_def]

theorem runs_group (h : call.WellFormed) {group : List String} (hgroup : group ∈ call.groups) :
    Text.runs Text.isBlank ([' '].intercalate (group.map String.toList)) =
      group.map String.toList := by
  refine Text.runs_intercalate (by decide) fun piece hpiece => ?_
  obtain ⟨token, htoken, rfl⟩ := List.mem_map.mp hpiece
  obtain ⟨hne, hall⟩ := h.tokens group hgroup token htoken
  exact ⟨by simpa using hne, fun c hc => by simpa using (hall c hc).1⟩

theorem not_blank_values (h : call.WellFormed) (hne : call.groups ≠ []) :
    Text.isAllBlank (",".intercalate call.values).toList = false := by
  rw [toList_values]
  obtain ⟨group, groups, hgroups⟩ := List.exists_cons_of_ne_nil hne
  rw [hgroups]
  cases groups with
  | cons next groups =>
    have hcomma : Text.isBlank ',' = false := by decide
    rw [List.map_cons, List.map_cons, List.intercalate_cons_cons]
    simp [hcomma]
  | nil =>
    have hgroup : group ≠ [] := by
      rintro rfl
      exact h.groups_ne hgroups
    have hruns := runs_group h (hgroups ▸ List.mem_singleton_self group)
    rw [List.map_singleton, List.intercalate_singleton]
    by_contra hblank
    rw [Bool.not_eq_false, Text.isAllBlank_iff] at hblank
    rw [Text.runs_eq_nil hblank] at hruns
    exact hgroup (List.map_eq_nil_iff.mp hruns.symm)

theorem groups_values (h : call.WellFormed) :
    groups (",".intercalate call.values).toList = call.groups := by
  by_cases hne : call.groups = []
  · rw [toList_values, hne]
    rfl
  · have hcomma : ∀ piece ∈ call.groups.map fun group =>
        [' '].intercalate (group.map String.toList), ∀ c ∈ piece, (c == ',') = false := by
      intro piece hpiece c hc
      obtain ⟨group, hgroup, rfl⟩ := List.mem_map.mp hpiece
      rw [beq_eq_false_iff_ne]
      rintro rfl
      refine Text.not_mem_intercalate (by decide) ?_ hc
      intro piece hpiece hmem
      obtain ⟨token, htoken, rfl⟩ := List.mem_map.mp hpiece
      exact ((h.tokens group hgroup token htoken).2 ',' hmem).2 rfl
    have hfields := @Text.fields_intercalate (· == ',') ',' rfl _ (by simpa using hne) hcomma
    rw [groups, not_blank_values h hne, if_neg Bool.false_ne_true, toList_values, hfields,
      List.map_map]
    conv_rhs => rw [← List.map_id call.groups]
    refine List.map_congr_left fun group hgroup => ?_
    rw [Function.comp_apply, runs_group h hgroup, List.map_map]
    simp [Function.comp_def]

theorem toList_render (call : Invocation) :
    call.render.toList =
      call.name.toList ++ '(' :: ((",".intercalate call.values).toList ++ [')']) := by
  simp [Invocation.render, String.toList_append]

/-- A printed call is read as that call. -/
theorem statement_render (h : call.WellFormed) (hprint : call.Printable) :
    statement call.render.toList = .action (.call call) := by
  have hname : Text.isName call.name.toList := h.name
  have hsplit : Text.splitName call.render.toList =
      (call.name.toList, '(' :: ((",".intercalate call.values).toList ++ [')'])) := by
    rw [toList_render]
    exact Text.splitName_of_isName hname (by simp; decide)
  rw [statement_of_open hsplit (Text.isName_iff.mp hname).1, closing_of_isBalanced hprint.balanced]
  have hcall : invocation call.name.toList (",".intercalate call.values).toList = call := by
    rw [invocation, groups_values h, String.ofList_toList]
  dsimp only
  rw [hcall]
  rfl

/-- What is neither punctuation nor part of a name or a token is not in a printed call. -/
theorem not_mem_render (h : call.WellFormed) {c : Char} (hname : Text.isNameChar c = false)
    (hpunctuation : c ∉ ['(', ')', ',', ' '])
    (htokens : ∀ group ∈ call.groups, ∀ token ∈ group, c ∉ token.toList) :
    c ∉ call.render.toList := by
  have hvalues : c ∉ (",".intercalate call.values).toList := by
    rw [toList_values]
    refine Text.not_mem_intercalate (by simp_all) fun piece hpiece => ?_
    obtain ⟨group, hgroup, rfl⟩ := List.mem_map.mp hpiece
    refine Text.not_mem_intercalate (by simp_all) fun piece hpiece => ?_
    obtain ⟨token, htoken, rfl⟩ := List.mem_map.mp hpiece
    exact htokens group hgroup token htoken
  have hcall : c ∉ call.name.toList := not_mem_of_isName hname h.name
  rw [toList_render]
  simp_all

theorem not_mem_break (h : call.WellFormed) : '\n' ∉ call.render.toList := by
  refine not_mem_render h (by decide) (by decide) fun group hgroup token htoken hmem => ?_
  have hblank := ((h.tokens group hgroup token htoken).2 '\n' hmem).1
  exact hblank (by decide)

theorem getLast?_render (call : Invocation) : call.render.toList.getLast? = some ')' := by
  simp [toList_render, List.getLast?_append, List.getLast?_cons]

/-- A printed call has no blanks around it. -/
theorem trim_render (h : call.WellFormed) : Text.trim call.render.toList = call.render.toList := by
  have hclose : Text.isBlank ')' = false := by decide
  have hlast := getLast?_render call
  rw [toList_render] at hlast ⊢
  rw [List.getLast?_append_of_ne_nil _ (by simp)] at hlast
  refine Text.trim_of_isName h.name fun c hc => ?_
  rw [hlast] at hc
  cases hc
  exact hclose

/-! ## Scripts -/

theorem not_blank_dropComment (h : Text.SaysMore tail) :
    Text.isAllBlank (dropComment tail) = false := by
  obtain ⟨c, hc, hne⟩ := h
  obtain ⟨rest, hrest⟩ := List.head?_eq_some_iff.mp hc
  have hblank : Text.isBlank c = false := by
    have hnot := List.head?_dropWhile_not Text.isBlank tail
    rw [← Text.trimStart, hrest] at hnot
    simpa using hnot
  have htail : tail = (Text.margin tail ++ [c]) ++ rest := by
    rw [List.append_assoc, List.singleton_append, ← hrest, Text.margin_append_trimStart]
  have hash : '#' ∉ Text.margin tail ++ [c] := by
    have hmargin := not_mem_of_isAllBlank (c := '#') (by decide) (Text.isAllBlank_margin tail)
    simp [hmargin, Ne.symm hne]
  obtain ⟨afterBlank, hbefore⟩ := exists_beforeComment?_append hash true
  rw [dropComment, htail, hbefore]
  cases beforeComment? afterBlank rest with
  | none => simp [hblank]
  | some before => simp [hblank]

theorem saysMore_of_not_blank (h : Text.isAllBlank (dropComment tail) = false) :
    Text.SaysMore tail := by
  have htail := Text.margin_append_trimStart tail
  cases hstart : Text.trimStart tail with
  | nil =>
    have hblank : Text.isAllBlank tail := Text.trimStart_eq_nil_iff.mp hstart
    rw [dropComment_of_not_mem (not_mem_of_isAllBlank (by decide) hblank), hblank] at h
    cases h
  | cons c rest =>
    refine ⟨c, by rw [hstart]; rfl, ?_⟩
    rintro rfl
    have hnil : dropComment tail = [] := by
      rw [← htail, hstart]
      by_cases hmargin : Text.margin tail = []
      · rw [hmargin]
        rfl
      · exact @dropComment_append [] _ (by simp) (Text.isAllBlank_margin tail) hmargin rest
    rw [hnil] at h
    cases h

theorem isBalanced_of_closing (h : closing (depth + 1) cs = .closed inner rest) :
    Text.isBalanced depth inner := by
  induction cs generalizing depth inner with
  | nil => simp [closing] at h
  | cons c cs ih =>
    have hstep {next : Nat} (h : (closing (next + 1) cs).cons c = .closed inner rest) :
        ∃ more, inner = c :: more ∧ Text.isBalanced next more := by
      cases hcs : closing (next + 1) cs with
      | unclosed left => simp [hcs, Closing.cons] at h
      | closed more rest' =>
        obtain ⟨rfl, rfl⟩ : c :: more = inner ∧ rest' = rest := by simpa [hcs, Closing.cons] using h
        exact ⟨more, rfl, ih hcs⟩
    rw [closing] at h
    by_cases hopen : c = '('
    · rw [if_pos hopen] at h
      obtain ⟨more, rfl, hmore⟩ := hstep h
      rw [Text.isBalanced, if_pos hopen]
      exact hmore
    · rw [if_neg hopen] at h
      by_cases hclose : c = ')'
      · rw [if_pos hclose] at h
        cases depth with
        | zero =>
          obtain ⟨rfl, rfl⟩ : [] = inner ∧ cs = rest := by simpa using h
          rfl
        | succ depth =>
          rw [if_neg (by omega)] at h
          obtain ⟨more, rfl, hmore⟩ := hstep h
          rw [Text.isBalanced, if_neg hopen, if_pos hclose]
          simpa using hmore
      · rw [if_neg hclose] at h
        obtain ⟨more, rfl, hmore⟩ := hstep h
        rw [Text.isBalanced, if_neg hopen, if_neg hclose]
        exact hmore

/-- The scripts that a reader takes for what they are. -/
theorem statement_eq_shell_iff {s : String} :
    statement s.toList = .action (.shell s) ↔ IsPlainScript s := by
  constructor
  · intro h name cs hname htext
    have hsplit : Text.splitName s.toList = (name, '(' :: cs) := by
      rw [htext]
      exact Text.splitName_of_isName hname (by simp; decide)
    rw [statement_of_open hsplit (Text.isName_iff.mp hname).1] at h
    cases hclosing : closing 1 cs with
    | unclosed depth => simp [hclosing] at h
    | closed inner tail =>
      cases hblank : Text.isAllBlank (dropComment tail) with
      | true => simp [hclosing, hblank] at h
      | false =>
        exact ⟨inner, tail, eq_append_of_closing hclosing, isBalanced_of_closing hclosing,
          saysMore_of_not_blank hblank⟩
  · intro h
    unfold statement
    have happend := Text.splitName_append s.toList
    have hname := Text.splitName_fst s.toList
    generalize Text.splitName s.toList = parts at happend hname
    obtain ⟨name, rest⟩ := parts
    dsimp only at happend hname ⊢
    split
    · rename_i cs
      by_cases hempty : name = []
      · simp [hempty]
      · obtain ⟨inner, tail, rfl, hbalanced, hmore⟩ :=
          h name cs (Text.isName_iff.mpr ⟨hempty, hname⟩) happend.symm
        rw [closing_of_isBalanced hbalanced]
        simp [hempty, not_blank_dropComment hmore]
    · simp

/-! ## Headings -/

theorem splitHeading?_of_isName (h : Text.isName name) (rest : List Char) :
    splitHeading? (name ++ ':' :: rest) = some (name, rest) := by
  have hsplit : Text.splitName (name ++ ':' :: rest) = (name, ':' :: rest) :=
    Text.splitName_of_isName h (by simp; decide)
  have hne : name.isEmpty = false := by simpa using (Text.isName_iff.mp h).1
  have hcolon : Text.trimStart (':' :: rest) = ':' :: rest := by
    rw [Text.trimStart_cons]
    rfl
  simp [splitHeading?, hsplit, hcolon, hne]

theorem recipeHeading?_of_blank {c : Char} (hc : Text.isBlank c) (rest : List Char) :
    recipeHeading? ("recipe".toList ++ c :: rest) = some (c :: rest) := by
  have hprefix : "recipe".toList.isPrefixOf? ("recipe".toList ++ c :: rest) = some (c :: rest) :=
    List.isPrefixOf?_eq_some_iff_append_eq.mpr rfl
  rw [recipeHeading?, hprefix]
  exact if_pos hc

/-- The word `recipe` is a name like any other, unless a blank follows. -/
theorem recipeHeading?_eq_none (hsplit : Text.splitName text = (name, rest))
    (hrest : name = "recipe".toList → ∀ c ∈ rest.head?, Text.isBlank c = false) :
    recipeHeading? text = none := by
  unfold recipeHeading?
  split
  · rename_i c cs hprefix
    split
    · rename_i hblank
      have htext := List.isPrefixOf?_eq_some_iff_append_eq.mp hprefix
      have hrecipe : Text.splitName ("recipe".toList ++ c :: cs) = ("recipe".toList, c :: cs) :=
        Text.splitName_of_isName (by decide) (by simpa using Text.isNameChar_of_isBlank hblank)
      rw [← htext, hrecipe] at hsplit
      cases hsplit
      simp [hrest rfl c rfl] at hblank
    · rfl
  · rfl

/-- The names of parameters, and the parentheses and the colon of a heading around them. -/
theorem readRecipeHeading_render (line : Nat) (text : List Char) {name : String}
    {parameters : List String} (h : IsName name) (hparameters : ∀ p ∈ parameters, IsName p) :
    ∃ column, readRecipeHeading line text (' ' :: (name.toList ++
        '(' :: ([' '].intercalate (parameters.map String.toList) ++ [')', ':']))) =
      .ok (.recipe name parameters column) := by
  have hname : Text.isName name.toList := h
  obtain ⟨hne, hall⟩ := Text.isName_iff.mp hname
  generalize hinner : [' '].intercalate (parameters.map String.toList) = inner
  have hclose : ')' ∉ inner := hinner ▸ not_mem_names (by decide) (by decide) hparameters
  have hstart : Text.trimStart (' ' :: (name.toList ++ '(' :: (inner ++ [')', ':']))) =
      name.toList ++ '(' :: (inner ++ [')', ':']) := by
    obtain ⟨c, cs, hcs⟩ := List.exists_cons_of_ne_nil hne
    have hc : Text.isBlank c = false := Text.isBlank_of_isNameChar (hall c (by simp [hcs]))
    have hspace : Text.isBlank ' ' := by decide
    rw [Text.trimStart_cons, if_pos hspace, hcs, List.cons_append, Text.trimStart_cons, hc]
    rfl
  have hsplit : Text.splitName (name.toList ++ '(' :: (inner ++ [')', ':'])) =
      (name.toList, '(' :: (inner ++ [')', ':'])) :=
    Text.splitName_of_isName hname (by simp; decide)
  have hkeep : ∀ c ∈ inner, (c != ')') = true := by
    intro c hc
    rw [bne_iff_ne]
    rintro rfl
    exact hclose hc
  have hparameterText : parameterText? ('(' :: (inner ++ [')', ':'])) = some inner := by
    have hopen : Text.trimStart ('(' :: (inner ++ [')', ':'])) = '(' :: (inner ++ [')', ':']) := by
      rw [Text.trimStart_cons]
      rfl
    have hcolon : Text.trim [':'] = [':'] := by decide
    rw [parameterText?, hopen]
    simp [List.dropWhile_append_of_pos hkeep, List.takeWhile_append_of_pos hkeep, hcolon]
  have hruns : Text.runs (fun c => c == ',' || Text.isBlank c) inner =
      parameters.map String.toList := by
    rw [← hinner]
    refine runs_names (by decide) (fun c hc => ?_) hparameters
    have hcomma : c ≠ ',' := by
      rintro rfl
      exact absurd hc (by decide)
    simp [hcomma, Text.isBlank_of_isNameChar hc]
  have hempty : name.toList.isEmpty = false := by simpa using hne
  refine ⟨Text.width text - Text.width (name.toList ++ '(' :: (inner ++ [')', ':'])) + 1, ?_⟩
  rw [readRecipeHeading, hstart]
  simp [hsplit, hempty, hparameterText, hruns, find?_not_isName hparameters, Function.comp_def]

/-! ## Dependencies -/

/-- An arrow is found behind a text without angle brackets, even if a dash stands right before the
arrow. -/
theorem splitArrow?_append {before : List Char} (hleft : '<' ∉ before) (hright : '>' ∉ before)
    (arrow : Arrow) (rest : List Char) :
    splitArrow? (before ++ (arrow.symbol.toList ++ rest)) = some (before, arrow, rest) := by
  induction before with
  | nil => cases arrow <;> rfl
  | cons c before ih =>
    obtain ⟨hc, hleft⟩ := not_or.mp (mt List.mem_cons.mpr hleft)
    have hright := (not_or.mp (mt List.mem_cons.mpr hright)).2
    have hnext : ∀ cs, before ++ (arrow.symbol.toList ++ rest) ≠ '>' :: cs := by
      intro cs hcs
      cases before with
      | nil => cases arrow <;> simp [Arrow.symbol] at hcs
      | cons d before =>
        obtain rfl : d = '>' := (List.cons.inj hcs).1
        exact hright (by simp)
    rw [List.cons_append, splitArrow?.eq_3 _ _ (fun cs _ hcs => hnext cs hcs)
      (fun _ hleft _ => hc hleft.symm), ih hleft hright]
    rfl

theorem toList_relation (r : Relation) :
    r.render.toList = r.spelled [] ([' '].intercalate (r.others.map String.toList)) := by
  simp [Relation.render, Relation.spelled, String.toList_append]

/-- A dependency has no blanks around it if none ends the text behind its arrow. -/
theorem trim_relation (h : r.WellFormed) (hothers : ∀ c ∈ others.getLast?, Text.isBlank c = false) :
    Text.trim (r.spelled gap others) = r.spelled gap others := by
  refine Text.trim_of_isName h.subject fun c hc => ?_
  cases hlast : others.getLast? with
  | none =>
    obtain rfl : others = [] := List.getLast?_eq_none_iff.mp hlast
    have hsymbol : ∀ c ∈ r.arrow.symbol.toList.getLast?, Text.isBlank c = false := by
      cases r.arrow <;> simp [Arrow.symbol] <;> decide
    have hne : r.arrow.symbol.toList ≠ [] := by cases r.arrow <;> simp [Arrow.symbol]
    rw [List.append_nil, List.getLast?_append_of_ne_nil _ hne] at hc
    exact hsymbol c hc
  | some d =>
    obtain rfl : d = c := by simpa [List.getLast?_append, hlast] using hc
    exact hothers d hlast

theorem splitArrow?_spelled (h : r.WellFormed) (hgap : Text.isAllBlank gap) (others : List Char) :
    splitArrow? (r.spelled gap others) = some (r.subject.toList ++ gap, r.arrow, others) := by
  have hsubject : Text.isName r.subject.toList := h.subject
  have hbracket {c : Char} (hname : Text.isNameChar c = false) (hblank : Text.isBlank c = false) :
      c ∉ r.subject.toList ++ gap := by
    simp [not_mem_of_isName hname hsubject, not_mem_of_isAllBlank hblank hgap]
  rw [Relation.spelled, ← List.append_assoc,
    splitArrow?_append (hbracket (by decide) (by decide)) (hbracket (by decide) (by decide))]

theorem trim_subject (h : r.WellFormed) (hgap : Text.isAllBlank gap) :
    Text.trim (r.subject.toList ++ gap) = r.subject.toList := by
  rw [Text.trim_append_right_of_blank hgap]
  simpa using @Text.trim_of_isName _ [] h.subject (by simp)

/-- A dependency is read as itself however its names are spaced. -/
theorem readDependency_spelled (line : Nat) (h : r.WellFormed) (hgap : Text.isAllBlank gap)
    (hothers : Text.runs Text.isBlank others = r.others.map String.toList) :
    readDependency line (r.spelled gap others) = .ok (some (.dependency r line)) := by
  have hsubject : Text.isName r.subject.toList := h.subject
  rw [readDependency, splitArrow?_spelled h hgap]
  simp [trim_subject h hgap, hsubject, hothers, find?_not_isName h.others, h.others_ne,
    Function.comp_def]

end Document

/-! ## Deciding what can be printed -/

instance (s : String) : Decidable (IsPlainScript s) :=
  decidable_of_iff _ Document.statement_eq_shell_iff

instance (call : Invocation) : Decidable call.Printable :=
  decidable_of_iff
    ((∀ group ∈ call.groups, ∀ token ∈ group, '#' ∉ token.toList) ∧
      Text.isBalanced 0 (",".intercalate call.values).toList)
    ⟨fun ⟨hash, hbalanced⟩ => ⟨hash, hbalanced⟩, fun h => ⟨h.no_comment, h.balanced⟩⟩

instance : (a : Action) → Decidable a.Printable
  | .shell script => inferInstanceAs (Decidable (IsPlainScript script))
  | .call invocation => inferInstanceAs (Decidable invocation.Printable)

instance (b : MethodBody) : Decidable b.Printable :=
  inferInstanceAs (Decidable (∀ a ∈ b.actions, a.Printable))

instance : (i : Item) → Decidable i.Printable
  | .recipe _ _ methods _ => inferInstanceAs (Decidable (∀ b ∈ methods, b.Printable))
  | .target _ methods _ => inferInstanceAs (Decidable (∀ b ∈ methods, b.Printable))
  | .shortcut _ invocation _ => inferInstanceAs (Decidable invocation.Printable)
  | .dependency _ _ => isTrue trivial

end Provision
