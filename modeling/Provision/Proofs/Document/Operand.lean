import Mathlib.Data.Bool.AllAny
import Provision.Proofs.Document.Appending
import Provision.Proofs.Document.Dependency

namespace Provision

namespace Text

variable {pattern cs a b before left right : List Char}

/-- Where a text has a pattern in it, the search stops at the first place. -/
theorem exists_before? (h : before ++ pattern <+: cs) :
    ∃ first, before? pattern cs = some first ∧ first ++ pattern <+: cs ∧
      ∀ other, other ++ pattern <+: cs → first.length ≤ other.length := by
  induction cs generalizing before with
  | nil =>
    obtain ⟨rfl, rfl⟩ : before = [] ∧ pattern = [] := by simpa using h
    exact ⟨[], rfl, List.prefix_rfl, fun _ _ => Nat.zero_le _⟩
  | cons c cs ih =>
    rw [before?]
    split
    · next hfound =>
      exact ⟨[], rfl, List.isPrefixOf_iff_prefix.mp hfound, fun _ _ => Nat.zero_le _⟩
    · next hfound =>
      -- Nothing is found at the beginning, so each place has the first character before it.
      have hcons (other : List Char) (h : other ++ pattern <+: c :: cs) :
          ∃ rest, other = c :: rest ∧ rest ++ pattern <+: cs := by
        cases other with
        | nil => exact absurd (List.isPrefixOf_iff_prefix.mpr h) hfound
        | cons d rest =>
          obtain ⟨rfl, hrest⟩ := List.cons_prefix_cons.mp h
          exact ⟨rest, rfl, hrest⟩
      obtain ⟨rest, rfl, hrest⟩ := hcons before h
      obtain ⟨first, hfirst, hbegins, hleast⟩ := ih hrest
      refine ⟨c :: first, by simp [hfirst], List.cons_prefix_cons.mpr ⟨rfl, hbegins⟩, ?_⟩
      intro other hother
      obtain ⟨rest, rfl, hrest⟩ := hcons other hother
      exact Nat.succ_le_succ (hleast rest hrest)

theorem width_pos (h : cs ≠ []) : 0 < width cs := by
  obtain ⟨c, cs, rfl⟩ := List.exists_cons_of_ne_nil h
  exact Nat.add_pos_left c.utf8Size_pos _

theorem width_eq_iff_of_isPrefix (h : a <+: b) : width a = width b ↔ a = b := by
  obtain ⟨c, rfl⟩ := h
  by_cases hc : c = []
  · simp [hc]
  · have hpos := width_pos hc
    simp [hc]
    omega

/-- A text with a `plain` part before its first other character `x` is found in a second text that
has one such character `mark` early on, and then the first text itself. An earlier place than that
one can only be around the mark. -/
theorem eq_of_isPrefix_early {plain : Char → Bool} {u v m rest : List Char} {x mark : Char}
    (hleft : ∀ c ∈ left, plain c) (hm : ∀ c ∈ m, plain c) (hu : ∀ c ∈ u, plain c)
    (hx : plain x = false)
    (h : before ++ (u ++ x :: v) <+: left ++ mark :: (m ++ (u ++ x :: v) ++ rest))
    (hearly : before.length < left.length + 1 + m.length) :
    left = before ++ u ∧ x = mark ∧ v <+: m ++ (u ++ x :: v) ++ rest := by
  obtain ⟨s, hs⟩ := h
  have hplain {c : Char} {l : List Char} (hl : ∀ c ∈ l, plain c) (hc : c ∈ l) : c ≠ x := by
    rintro rfl
    simp [hl _ hc] at hx
  have hsplit : (before ++ u) ++ (x :: (v ++ s)) =
      left ++ (mark :: (m ++ (u ++ x :: v) ++ rest)) := by simpa using hs
  rcases List.append_eq_append_iff.mp hsplit with ⟨as, hleft', has⟩ | ⟨bs, hbefore, hbs⟩
  · cases as with
    | nil =>
      obtain ⟨rfl, hv⟩ := List.cons.inj has
      exact ⟨by simpa using hleft', rfl, ⟨s, hv⟩⟩
    | cons c as =>
      obtain rfl : x = c := (List.cons.inj has).1
      exact absurd rfl (hplain hleft (c := x) (by simp [hleft']))
  · cases bs with
    | nil =>
      obtain ⟨rfl, hv⟩ := List.cons.inj hbs
      exact ⟨by simpa using hbefore.symm, rfl, ⟨s, hv.symm⟩⟩
    | cons c bs =>
      obtain ⟨rfl, hbs⟩ := List.cons.inj hbs
      -- The place would begin behind the mark, but its `x` would come too early for that.
      have hlength := congrArg List.length hbefore
      simp only [List.length_append, List.length_cons] at hlength
      have hmu : (m ++ u) ++ (x :: v ++ rest) = bs ++ (x :: (v ++ s)) := by simpa using hbs
      rcases List.append_eq_append_iff.mp hmu with ⟨cs, rfl, hcs⟩ | ⟨cs, hcs, hrest⟩
      · simp at hlength
        omega
      · cases cs with
        | nil =>
          have hlength' := congrArg List.length hcs
          simp at hlength'
          omega
        | cons c cs =>
          obtain rfl : x = c := (List.cons.inj hrest).1
          have hmem : x ∈ m ++ u := by simp [hcs]
          rcases List.mem_append.mp hmem with hmem | hmem
          · exact absurd rfl (hplain hm hmem)
          · exact absurd rfl (hplain hu hmem)

end Text

/-! ## The line of a dependency with an operand that is no name -/

/-- What an arrow has before its angle bracket. -/
def Arrow.beforeBracket : Arrow → List Char
  | .dependsOn => ['-']
  | .dependedUpon => []

def Arrow.bracket : Arrow → Char
  | .dependsOn => '>'
  | .dependedUpon => '<'

def Arrow.afterBracket : Arrow → List Char
  | .dependsOn => []
  | .dependedUpon => ['-']

theorem Arrow.toList_symbol (arrow : Arrow) :
    arrow.symbol.toList = arrow.beforeBracket ++ arrow.bracket :: arrow.afterBracket := by
  cases arrow <;> rfl

/-- A line with a dependency of which the first operand that is no name stands between `lead` and
`tail`, which takes a comment in. -/
structure Misspelling where
  subject : String
  gap : List Char
  arrow : Arrow
  lead : List Char
  operand : String
  tail : List Char
  subject_name : IsName subject
  /-- With a blank behind it the word `recipe` would begin the heading of a recipe. -/
  glued : subject = "recipe" → gap = []
  gap_space : Text.IsSpace gap
  lead_names : ∀ run ∈ Text.runs Text.isBlank lead, Text.isName run
  lead_end : ∀ c ∈ lead.getLast?, Text.isBlank c
  lead_break : '\n' ∉ lead
  operand_ne : operand ≠ ""
  operand_solid : ∀ c ∈ operand.toList, Text.isBlank c = false ∧ c ≠ '#'
  operand_not_name : ¬ IsName operand
  tail_begin : ∀ c ∈ tail.head?, Text.isBlank c ∨ c = '#'
  tail_break : '\n' ∉ tail

namespace Misspelling

variable (m : Misspelling)

/-- The dependency of the line, with a name for its operands. -/
def relation : Relation := ⟨m.subject, m.arrow, [m.subject]⟩

def line : List Char := m.relation.spelled m.gap (m.lead ++ (m.operand.toList ++ m.tail))

/-- What stands before the operand. -/
def preceding : List Char := m.subject.toList ++ m.gap ++ m.arrow.symbol.toList ++ m.lead

/-- The column at which the operand stands, in bytes and counted from one. -/
def column : Nat := Text.width m.preceding + 1

/-- The text of the operand also stands around the bracket of the arrow. -/
def Recurs : Prop :=
  ∃ u v, m.operand.toList = u ++ m.arrow.bracket :: v ∧
    u <:+ m.subject.toList ++ m.gap ++ m.arrow.beforeBracket ∧
    v <+: m.arrow.afterBracket ++ m.lead ++ m.operand.toList

theorem wellFormed_relation : m.relation.WellFormed where
  subject := m.subject_name
  others := by simpa [relation] using m.subject_name
  others_ne := by simp [relation]

/-- The text of the line up to `rest`, which follows the operand. -/
def text (rest : List Char) : List Char := m.preceding ++ (m.operand.toList ++ rest)

theorem spelled_eq_text (rest : List Char) :
    m.relation.spelled m.gap (m.lead ++ (m.operand.toList ++ rest)) = m.text rest := by
  simp [Relation.spelled, relation, text, preceding]

/-! ## What the line is made of -/

/-- A character of a name, or a blank between names. -/
def isPlain (c : Char) : Bool := Text.isNameChar c || Text.isBlank c

theorem isPlain_lead : ∀ c ∈ m.lead, isPlain c := by
  intro c hc
  cases hblank : Text.isBlank c with
  | true => simp [isPlain, hblank]
  | false =>
    have hflat : c ∈ (Text.runs Text.isBlank m.lead).flatten := by
      rw [Text.flatten_runs]
      simp [hc, hblank]
    obtain ⟨run, hrun, hmem⟩ := List.mem_flatten.mp hflat
    simp [isPlain, (Text.isName_iff.mp (m.lead_names run hrun)).2 c hmem]

theorem isPlain_beforeBracket :
    ∀ c ∈ m.subject.toList ++ m.gap ++ m.arrow.beforeBracket, isPlain c := by
  intro c hc
  simp only [List.mem_append] at hc
  rcases hc with (hc | hc) | hc
  · simp [isPlain, (Text.isName_iff.mp m.subject_name).2 c hc]
  · simp [isPlain, (m.gap_space c hc).1]
  · cases harrow : m.arrow <;> simp [Arrow.beforeBracket, harrow] at hc
    subst hc
    decide

theorem isPlain_afterBracket : ∀ c ∈ m.arrow.afterBracket ++ m.lead, isPlain c := by
  intro c hc
  rcases List.mem_append.mp hc with hc | hc
  · cases harrow : m.arrow <;> simp [Arrow.afterBracket, harrow] at hc
    subst hc
    decide
  · exact m.isPlain_lead c hc

/-- Something in the operand keeps it from being a name. -/
theorem exists_operand_eq : ∃ u x v, m.operand.toList = u ++ x :: v ∧ isPlain x = false ∧
    ∀ c ∈ u, isPlain c := by
  have hsome : (m.operand.toList.find? (!isPlain ·)).isSome := by
    rw [List.find?_isSome]
    by_contra hnone
    refine m.operand_not_name (Text.isName_iff.mpr ⟨by simpa using m.operand_ne, fun c hc => ?_⟩)
    have hplain : isPlain c := by
      by_contra hplain
      exact hnone ⟨c, hc, by simpa using hplain⟩
    simpa [isPlain, (m.operand_solid c hc).1] using hplain
  obtain ⟨x, hx⟩ := Option.isSome_iff_exists.mp hsome
  obtain ⟨hx, u, v, huv, hu⟩ := List.find?_eq_some_iff_append.mp hx
  exact ⟨u, x, v, huv, by simpa using hx, fun c hc => by simpa using hu c hc⟩

theorem not_mem_preceding {c : Char} (hplain : isPlain c = false) (hbracket : c ≠ m.arrow.bracket) :
    c ∉ m.preceding := by
  have hsplit : m.preceding = (m.subject.toList ++ m.gap ++ m.arrow.beforeBracket) ++
      m.arrow.bracket :: (m.arrow.afterBracket ++ m.lead) := by
    simp [preceding, Arrow.toList_symbol]
  intro hc
  rw [hsplit, List.mem_append, List.mem_cons] at hc
  rcases hc with hc | hc | hc
  · simp [m.isPlain_beforeBracket c hc] at hplain
  · exact hbracket hc
  · simp [m.isPlain_afterBracket c hc] at hplain

/-! ## Where the operand is found -/

section Found

variable {m} {rest first : List Char}

/-- Before its own place the operand is found just if it stands around the bracket. -/
theorem eq_preceding_iff (hfirst : first ++ m.operand.toList <+: m.text rest)
    (hleast : ∀ other, other ++ m.operand.toList <+: m.text rest → first.length ≤ other.length) :
    first = m.preceding ↔ ¬ m.Recurs := by
  have hown : m.preceding ++ m.operand.toList <+: m.text rest := ⟨rest, by simp [text]⟩
  have htext : m.text rest = (m.subject.toList ++ m.gap ++ m.arrow.beforeBracket) ++
      m.arrow.bracket :: (m.arrow.afterBracket ++ m.lead ++ m.operand.toList ++ rest) := by
    simp [text, preceding, Arrow.toList_symbol]
  have hlength : m.preceding.length = (m.subject.toList ++ m.gap ++ m.arrow.beforeBracket).length +
      1 + (m.arrow.afterBracket ++ m.lead).length := by
    simp [preceding, Arrow.toList_symbol]
    omega
  constructor
  · rintro rfl ⟨u, v, huv, ⟨before, hbefore⟩, hv⟩
    have hearlier : before ++ m.operand.toList <+: m.text rest := by
      have htail := hv.trans (List.prefix_append _ rest)
      rw [htext, ← hbefore, huv, List.append_assoc]
      rw [huv] at htail
      exact (List.prefix_append_right_inj _).mpr ((List.prefix_append_right_inj _).mpr
        (List.cons_prefix_cons.mpr ⟨rfl, htail⟩))
    have hle := hleast before hearlier
    rw [hlength, ← hbefore] at hle
    simp at hle
    omega
  · intro hrecurs
    by_contra hne
    have hbegins : first <+: m.preceding := by
      refine List.prefix_of_prefix_length_le ((List.prefix_append ..).trans hfirst)
        ((List.prefix_append ..).trans hown) (hleast _ hown)
    have hlt : first.length < m.preceding.length :=
      lt_of_le_of_ne (hleast _ hown) fun heq => hne (hbegins.eq_of_length heq)
    obtain ⟨u, x, v, huv, hx, hu⟩ := m.exists_operand_eq
    rw [htext, huv] at hfirst
    obtain ⟨hleft, rfl, hv⟩ := Text.eq_of_isPrefix_early m.isPlain_beforeBracket
      m.isPlain_afterBracket hu hx hfirst (hlength ▸ hlt)
    refine hrecurs ⟨u, v, huv, ⟨first, hleft.symm⟩, ?_⟩
    rw [← huv] at hv
    refine List.prefix_of_prefix_length_le hv (List.prefix_append ..) ?_
    simp [huv]
    omega

/-- Where what follows the operand begins with a blank, the operand is the first that is no name. -/
theorem find?_operand (hrest : ∀ c ∈ rest.head?, Text.isBlank c) :
    (Text.runs Text.isBlank (m.lead ++ (m.operand.toList ++ rest))).find? (!Text.isName ·) =
      some m.operand.toList := by
  have hword : Text.runs Text.isBlank (m.operand.toList ++ rest) =
      m.operand.toList :: Text.runs Text.isBlank rest :=
    Text.runs_word (by simpa using m.operand_ne) (fun c hc => (m.operand_solid c hc).1) hrest
  have hruns : Text.runs Text.isBlank (m.lead ++ (m.operand.toList ++ rest)) =
      Text.runs Text.isBlank m.lead ++ m.operand.toList :: Text.runs Text.isBlank rest := by
    rw [← hword]
    rcases List.eq_nil_or_concat m.lead with hnil | ⟨init, c, hlead⟩
    · rw [hnil]
      rfl
    · have hc : Text.isBlank c := m.lead_end c (by simp [hlead])
      have hnil : Text.runs Text.isBlank [] = [] := rfl
      rw [hlead, List.concat_eq_append, List.append_assoc, List.singleton_append,
        Text.runs_append_separator hc, Text.runs_append_separator hc, hnil, List.append_nil]
  have hlead : (Text.runs Text.isBlank m.lead).find? (!Text.isName ·) = none := by
    rw [List.find?_eq_none]
    intro run hrun
    simp [m.lead_names run hrun]
  have hinvalid : Text.isName m.operand.toList = false :=
    Bool.eq_false_iff.mpr m.operand_not_name
  rw [hruns, List.find?_append, hlead, Option.none_or, List.find?_cons, hinvalid]
  rfl

/-- The operand is what is wrong with the line. -/
theorem readDependency_text (hrest : ∀ c ∈ rest.head?, Text.isBlank c) (n : Nat) :
    ∃ column, Document.readDependency n (m.text rest) =
        .error ⟨n, column, .invalidOperand m.operand⟩ ∧ (column = m.column ↔ ¬ m.Recurs) := by
  have hown : m.preceding ++ m.operand.toList <+: m.text rest := ⟨rest, by simp [text]⟩
  obtain ⟨first, hbefore, hfirst, hleast⟩ := Text.exists_before? hown
  have hbegins : first <+: m.preceding :=
    List.prefix_of_prefix_length_le ((List.prefix_append ..).trans hfirst)
      ((List.prefix_append ..).trans hown) (hleast _ hown)
  have hgap := m.gap_space.isAllBlank
  have hsplit := Document.splitArrow?_spelled m.wellFormed_relation hgap
    (m.lead ++ (m.operand.toList ++ rest))
  have htrim : Text.trim (m.relation.subject.toList ++ m.gap) = m.relation.subject.toList :=
    Document.trim_subject m.wellFormed_relation hgap
  have hname : Text.isName m.relation.subject.toList := m.subject_name
  refine ⟨Text.width first + 1, ?_, ?_⟩
  · rw [spelled_eq_text] at hsplit
    simp [Document.readDependency, hsplit, htrim, hname, find?_operand hrest, hbefore]
  · rw [column, Nat.add_right_cancel_iff, Text.width_eq_iff_of_isPrefix hbegins]
    exact eq_preceding_iff hfirst hleast

end Found

/-! ## The line within a document -/

theorem not_mem_front {c : Char} (hplain : isPlain c = false) (hbracket : c ≠ m.arrow.bracket)
    (hoperand : c ∉ m.operand.toList) : c ∉ m.preceding ++ m.operand.toList := by
  simp [m.not_mem_preceding hplain hbracket, hoperand]

theorem trimEnd_operand (front : List Char) :
    Text.trimEnd (front ++ m.operand.toList) = front ++ m.operand.toList := by
  have hsolid : ∀ c ∈ m.operand.toList, Text.isBlank c = false :=
    fun c hc => (m.operand_solid c hc).1
  obtain ⟨c, cs, hcs⟩ := List.exists_cons_of_ne_nil
    (by simpa using m.operand_ne : m.operand.toList ≠ [])
  have hblank : Text.isAllBlank m.operand.toList = false := by
    simp [hcs, hsolid c (by simp [hcs])]
  rw [Text.trimEnd_append hblank, Text.trimEnd_eq_self hsolid]

theorem exists_dropAnyComment_text (tail : List Char)
    (htail : ∀ c ∈ tail.head?, Text.isBlank c ∨ c = '#') :
    ∃ rest, Document.dropAnyComment (m.text (Text.trimEnd tail)) = m.text rest ∧
      ∀ c ∈ rest.head?, Text.isBlank c := by
  have hash : '#' ∉ m.preceding ++ m.operand.toList :=
    m.not_mem_front (by decide) (by cases m.arrow <;> decide) fun hmem =>
      (m.operand_solid '#' hmem).2 rfl
  refine ⟨Document.dropAnyComment (Text.trimEnd tail), ?_, fun c hc => ?_⟩
  · rw [text, ← List.append_assoc,
      Document.dropAnyComment_append_of_trimEnd hash (m.trimEnd_operand _), text,
      List.append_assoc]
  · have hbegins := (Document.isPrefix_dropAnyComment (Text.trimEnd tail)).trans
      (Text.isPrefix_trimEnd tail)
    obtain ⟨cs, hcs⟩ := List.head?_eq_some_iff.mp hc
    rw [hcs] at hbegins
    obtain ⟨more, hmore⟩ := hbegins
    rcases htail c (by simp [← hmore]) with hblank | rfl
    · exact hblank
    · exact absurd (List.mem_of_mem_head? hc) (Document.not_mem_dropAnyComment _)

theorem readItem_line (items : Document) (n : Nat) :
    ∃ column, Document.Reader.readItem items (.ofText n m.line) =
        .error ⟨n, column, .invalidOperand m.operand⟩ ∧ (column = m.column ↔ ¬ m.Recurs) := by
  have hwell := m.wellFormed_relation
  have hgap := m.gap_space.isAllBlank
  obtain ⟨rest, hdrop, hrest⟩ := m.exists_dropAnyComment_text m.tail m.tail_begin
  obtain ⟨column, hread, hcolumn⟩ := readDependency_text hrest n
  have hfront : Text.trimEnd (m.lead ++ (m.operand.toList ++ m.tail)) =
      m.lead ++ (m.operand.toList ++ Text.trimEnd m.tail) := by
    rw [← List.append_assoc, Text.trimEnd_append_of_trimEnd (m.trimEnd_operand _),
      List.append_assoc]
  have hheading : Document.recipeHeading? (m.text rest) = none := by
    rw [← spelled_eq_text]
    exact Document.recipeHeading?_spelled hwell hgap m.glued _
  have htarget : Document.splitHeading? (m.text (Text.trimEnd m.tail)) = none := by
    rw [← spelled_eq_text]
    exact Document.splitHeading?_spelled hwell hgap _
  have hline : Line.ofText n m.line = ⟨n, 0, m.text (Text.trimEnd m.tail)⟩ := by
    rw [line, Document.ofText_spelled hwell, hfront, spelled_eq_text]
  refine ⟨column, ?_, hcolumn⟩
  simp [hline, Document.Reader.readItem, hdrop, hheading, htarget, hread]
  rfl

theorem no_break : '\n' ∉ m.line := by
  have hoperand : '\n' ∉ m.operand.toList := fun hmem =>
    absurd (m.operand_solid '\n' hmem).1 (by decide)
  refine Document.not_mem_spelled (by decide) (by decide) m.wellFormed_relation
    m.gap_space.no_break ?_
  simp [m.lead_break, hoperand, m.tail_break]

end Misspelling

namespace Document

/-- An operand that is no name is reported on the line where it stands, and at its own column unless
its text also stands around the bracket of the arrow. -/
theorem parse_misspelling (m : Misspelling) {a b ending : String} {d : Document}
    (ha : parse a = .ok d) (hend : Text.EndsLine a.toList)
    (hending : ending = "\n" ∨ ending = "\r\n" ∨ ending = "" ∧ b = "") :
    ∃ column, parse (a ++ String.ofList m.line ++ ending ++ b) =
        .error ⟨(Text.lines a.toList).length + 1, column, .invalidOperand m.operand⟩ ∧
      (column = m.column ↔ ¬ m.Recurs) := by
  obtain ⟨r, hr, hfinish⟩ := exists_of_bind_ok ha
  obtain ⟨column, hitem, hcolumn⟩ := m.readItem_line d ((Text.lines a.toList).length + 1)
  have hcode : (Line.ofText ((Text.lines a.toList).length + 1) m.line).isCode := by
    rw [Misspelling.line, ofText_spelled m.wellFormed_relation]
    exact isCode_spelled m.wellFormed_relation _ _ _
  have hindent : (Line.ofText ((Text.lines a.toList).length + 1) m.line).indent = 0 := by
    rw [Misspelling.line, ofText_spelled m.wellFormed_relation]
  have hbreak : '\n' ∉ (String.ofList m.line).toList := by simpa using m.no_break
  have hne : String.ofList m.line ++ ending ≠ "" := by
    have hsubject := (Text.isName_iff.mp m.subject_name).1
    simp_all [Misspelling.line, Relation.spelled, Misspelling.relation]
  refine ⟨column, ?_, hcolumn⟩
  rw [parse_line hend hbreak hne hending, Nat.add_comm 1, String.toList_ofList, Reader.read, hr]
  simp only [bind, Except.bind]
  rw [Reader.feed_of_finish hfinish hcode hindent, hitem]

/-- An arrow in the operand that is not the arrow of the line, and a comment glued to the operand. -/
def crowdedLine : Misspelling where
  subject := "tea"
  gap := []
  arrow := .dependedUpon
  lead := ['c', 'u', 'p', '\u3000']
  operand := "b<-c"
  tail := ['#', ' ', '<', '-']
  subject_name := by decide
  glued := by simp
  gap_space := by decide
  lead_names := by decide
  lead_end := by
    rintro _ ⟨⟩
    decide
  lead_break := by decide
  operand_ne := by decide
  operand_solid := List.all_iff_forall_prop.mp (by decide)
  operand_not_name := by decide
  tail_begin := by simp
  tail_break := by decide

theorem parse_misspelling_crowded :
    parse "kettle: apt(kettle)\n" = .ok [.shortcut "kettle" ⟨"apt", [["kettle"]]⟩ 1] ∧
      String.ofList crowdedLine.line = "tea<-cup\u3000b<-c# <-" ∧
      ¬ crowdedLine.Recurs ∧
      parse ("kettle: apt(kettle)\n" ++ String.ofList crowdedLine.line ++ "\r\n" ++
          "cup: apt(cup)") =
        .error ⟨2, crowdedLine.column, .invalidOperand "b<-c"⟩ := by
  have hkettle : parse "kettle: apt(kettle)\n" =
      .ok [.shortcut "kettle" ⟨"apt", [["kettle"]]⟩ 1] := by decide +kernel
  have hparse : parse ("kettle: apt(kettle)\n" ++ String.ofList crowdedLine.line ++ "\r\n" ++
      "cup: apt(cup)") = .error ⟨2, crowdedLine.column, .invalidOperand "b<-c"⟩ := by
    decide +kernel
  obtain ⟨column, hfound, hcolumn⟩ := parse_misspelling crowdedLine (b := "cup: apt(cup)") hkettle
    (by decide) (.inr (.inl rfl))
  rw [hparse] at hfound
  have hown : column = crowdedLine.column := by
    injection hfound with hfound
    exact (ParseError.mk.inj hfound).2.1.symm
  exact ⟨hkettle, by decide +kernel, hcolumn.mp hown, hparse⟩

/-- An operand that is an arrow itself. -/
def doubledArrow : Misspelling where
  subject := "tea"
  gap := [' ']
  arrow := .dependsOn
  lead := [' ', 'c', 'u', 'p', ' ']
  operand := "->"
  tail := []
  subject_name := by decide
  glued := by simp
  gap_space := by decide
  lead_names := by decide
  lead_end := by
    rintro _ ⟨⟩
    decide
  lead_break := by decide
  operand_ne := by decide
  operand_solid := List.all_iff_forall_prop.mp (by decide)
  operand_not_name := by decide
  tail_begin := by simp
  tail_break := by decide

/-- The second arrow stands at column twelve, and it is reported where the first one stands. -/
theorem parse_misspelling_doubled :
    String.ofList doubledArrow.line = "tea -> cup ->" ∧ doubledArrow.column = 12 ∧
      parse "tea -> cup ->" = .error ⟨1, 5, .invalidOperand "->"⟩ := by
  decide +kernel

end Document

end Provision
