import Mathlib.Data.List.Basic
import Provision.Text.Lines
import Provision.Text.Utf8

namespace Provision.Text

/-- The text stops where a line stops, so that what follows it begins a line. -/
def EndsLine (cs : List Char) : Prop := cs = [] ∨ cs.getLast? = some '\n'

instance (cs : List Char) : Decidable (EndsLine cs) :=
  inferInstanceAs (Decidable (cs = [] ∨ cs.getLast? = some '\n'))

/-- Ends the last line of a text, unless it has ended. -/
def endLine (cs : List Char) : List Char :=
  if EndsLine cs then cs else cs ++ ['\n']

/-- A line without the carriage return that a line feed behind it takes along. -/
def dropReturn (l : List Char) : List Char :=
  if l.getLast? = some '\r' then l.dropLast else l

theorem endsLine_cons_iff {c : Char} {cs : List Char} :
    EndsLine (c :: cs) ↔ (c = '\n' ∨ cs ≠ []) ∧ EndsLine cs := by
  cases cs with
  | nil => simp [EndsLine]
  | cons d cs => simp [EndsLine]

theorem endsLine_append_iff {a l : List Char} (h : '\n' ∉ l) (ha : EndsLine a) :
    EndsLine (a ++ l) ↔ l = [] := by
  rcases List.eq_nil_or_concat l with rfl | ⟨init, c, rfl⟩
  · simpa using ha
  · simp only [EndsLine, List.concat_eq_append, ← List.append_assoc, List.getLast?_concat]
    simp at h
    simp [Ne.symm h.2]

/-- The lines of a text that stops where a line stops, one after the other. -/
theorem EndsLine.induct {motive : List Char → Prop} (nil : motive [])
    (line : ∀ l a, '\n' ∉ l → EndsLine a → motive a → motive (l ++ '\n' :: a))
    {cs : List Char} (h : EndsLine cs) : motive cs := by
  suffices hall : ∀ l, '\n' ∉ l → (l ≠ [] → cs ≠ []) → motive (l ++ cs) by
    simpa using hall [] (by simp)
  intro l hl hne
  induction cs generalizing l with
  | nil =>
    have hnil : l = [] := by simpa using hne
    simpa [hnil] using nil
  | cons c cs ih =>
    obtain ⟨hcs, hend⟩ := endsLine_cons_iff.mp h
    by_cases hc : c = '\n'
    · subst hc
      exact line l cs hl hend (by simpa using ih hend [] (by simp) (by simp))
    · have hmore := ih hend (l ++ [c]) (by simp [hl, Ne.symm hc]) fun _ => hcs.resolve_left hc
      simpa using hmore

theorem exists_lastLine (cs : List Char) :
    ∃ a l, EndsLine a ∧ '\n' ∉ l ∧ cs = a ++ l := by
  induction cs with
  | nil => exact ⟨[], [], .inl rfl, by simp, rfl⟩
  | cons c cs ih =>
    obtain ⟨a, l, ha, hl, rfl⟩ := ih
    by_cases hc : c = '\n' ∨ a ≠ []
    · exact ⟨c :: a, l, endsLine_cons_iff.mpr ⟨hc, ha⟩, hl, rfl⟩
    · obtain ⟨hc', rfl⟩ : c ≠ '\n' ∧ a = [] := by simpa using hc
      exact ⟨[], c :: l, .inl rfl, by simp [hl, Ne.symm hc'], rfl⟩

theorem lines_cons {c : Char} {cs l : List Char} {ls : List (List Char)} (hc : c ≠ '\n')
    (hreturn : c = '\r' → cs.head? ≠ some '\n') (hls : lines cs = l :: ls) :
    lines (c :: cs) = (c :: l) :: ls := by
  rw [lines.eq_4 c cs (fun h => hc h) (fun ds hc' hcs => hreturn hc' (by simp [hcs])), hls]

theorem lines_line {l : List Char} (h : '\n' ∉ l) (rest : List Char) :
    lines (l ++ '\n' :: rest) = dropReturn l :: lines rest := by
  induction l with
  | nil => rfl
  | cons c l ih =>
    obtain ⟨hc, hl⟩ : '\n' ≠ c ∧ '\n' ∉ l := by simpa using h
    cases l with
    | nil =>
      by_cases hreturn : c = '\r'
      · subst hreturn
        rfl
      · rw [List.cons_append, lines_cons (Ne.symm hc) (fun h => absurd h hreturn) (ih hl)]
        simp [dropReturn, hreturn]
    | cons d l =>
      have hd : d ≠ '\n' := by
        intro hd
        simp [hd] at hl
      rw [List.cons_append, lines_cons (Ne.symm hc) (fun _ => by simpa using hd) (ih hl)]
      simp only [dropReturn, List.getLast?_cons_cons, List.dropLast_cons_cons]
      split <;> rfl

/-- The last line of a text, without an end. -/
theorem lines_unended {l : List Char} (h : '\n' ∉ l) (hne : l ≠ []) : lines l = [l] := by
  induction l with
  | nil => exact absurd rfl hne
  | cons c l ih =>
    obtain ⟨hc, hl⟩ : '\n' ≠ c ∧ '\n' ∉ l := by simpa using h
    cases l with
    | nil =>
      rw [lines.eq_4 c [] (fun h => hc h.symm) (by simp)]
      rfl
    | cons d l =>
      have hd : d ≠ '\n' := by
        intro hd
        simp [hd] at hl
      exact lines_cons (Ne.symm hc) (fun _ => by simpa using hd) (ih hl (by simp))

theorem not_mem_lines {cs l : List Char} (h : l ∈ lines cs) : '\n' ∉ l := by
  fun_induction lines cs generalizing l with
  | case1 => simp at h
  | case2 cs ih =>
    rcases List.mem_cons.mp h with rfl | h
    · simp
    · exact ih h
  | case3 cs ih =>
    rcases List.mem_cons.mp h with rfl | h
    · simp
    · exact ih h
  | case4 c cs hc _ _ _ =>
    obtain rfl : l = [c] := by simpa using h
    simpa using fun h => hc h.symm
  | case5 c cs hc _ first rest hlines ih =>
    rcases List.mem_cons.mp h with rfl | h
    · have hfirst := ih (l := first) (by simp [hlines])
      simpa [hfirst] using fun h => hc h.symm
    · exact ih (by simp [hlines, h])

theorem lines_append {a : List Char} (h : EndsLine a) (b : List Char) :
    lines (a ++ b) = lines a ++ lines b := by
  refine EndsLine.induct (motive := fun a => lines (a ++ b) = lines a ++ lines b) rfl ?_ h
  intro l a hl _ ih
  rw [List.append_assoc, List.cons_append, lines_line hl, lines_line hl, ih]
  rfl

theorem endsLine_endLine (cs : List Char) : EndsLine (endLine cs) := by
  unfold endLine
  split
  · assumption
  · exact .inr List.getLast?_concat

theorem length_lines_endLine (cs : List Char) :
    (lines (endLine cs)).length = (lines cs).length := by
  unfold endLine
  split
  · rfl
  · rename_i hend
    obtain ⟨a, l, ha, hl, rfl⟩ := exists_lastLine cs
    have hne : l ≠ [] := fun hnil => hend ((endsLine_append_iff hl ha).mpr hnil)
    rw [List.append_assoc, lines_append ha, lines_append ha, lines_line hl, lines_unended hl hne]
    simp [lines]

/-! ## Fields and runs -/

variable {separator : Char → Bool}

theorem fields_cons_of_not {c : Char} (hc : separator c = false) {cs f : List Char}
    {fs : List (List Char)} (h : fields separator cs = f :: fs) :
    fields separator (c :: cs) = (c :: f) :: fs := by
  simp [fields, hc, h]

/-- Where two texts meet, the last field of the one and the first field of the other are one. -/
theorem exists_fields_append (separator : Char → Bool) (a : List Char) :
    ∃ us u, fields separator a = us ++ [u] ∧ ∀ b f fs, fields separator b = f :: fs →
      fields separator (a ++ b) = us ++ (u ++ f) :: fs := by
  induction a with
  | nil => exact ⟨[], [], rfl, fun _ _ _ hb => hb⟩
  | cons c a ih =>
    obtain ⟨us, u, ha, hab⟩ := ih
    cases hc : separator c with
    | true =>
      refine ⟨[] :: us, u, by simp [fields, hc, ha], fun b f fs hb => ?_⟩
      simp [fields, hc, hab b f fs hb]
    | false =>
      cases us with
      | nil =>
        refine ⟨[], c :: u, fields_cons_of_not hc ha, fun b f fs hb => ?_⟩
        exact fields_cons_of_not hc (hab b f fs hb)
      | cons v us =>
        refine ⟨(c :: v) :: us, u, fields_cons_of_not hc ha, fun b f fs hb => ?_⟩
        exact fields_cons_of_not hc (hab b f fs hb)

theorem fields_append_separator {c : Char} (hc : separator c) (a b : List Char) :
    fields separator (a ++ c :: b) = fields separator a ++ fields separator b := by
  obtain ⟨us, u, ha, hab⟩ := exists_fields_append separator a
  have hcb : fields separator (c :: b) = [] :: fields separator b := by simp [fields, hc]
  rw [hab _ _ _ hcb, ha, List.append_nil, List.append_assoc]
  rfl

theorem runs_append_separator {c : Char} (hc : separator c) (a b : List Char) :
    runs separator (a ++ c :: b) = runs separator a ++ runs separator b := by
  rw [runs, fields_append_separator hc, List.filter_append]
  rfl

theorem runs_cons_separator {c : Char} (hc : separator c) (b : List Char) :
    runs separator (c :: b) = runs separator b :=
  runs_append_separator hc [] b

theorem fields_eq_singleton {a : List Char} (h : ∀ c ∈ a, separator c = false) :
    fields separator a = [a] := by
  induction a with
  | nil => rfl
  | cons c a ih =>
    exact fields_cons_of_not (h c (by simp)) (ih fun d hd => h d (List.mem_cons_of_mem _ hd))

theorem runs_word {a b : List Char} (hne : a ≠ []) (ha : ∀ c ∈ a, separator c = false)
    (hb : ∀ c ∈ b.head?, separator c) : runs separator (a ++ b) = a :: runs separator b := by
  have hword : runs separator a = [a] := by simp [runs, fields_eq_singleton ha, hne]
  cases b with
  | nil =>
    rw [List.append_nil, hword]
    rfl
  | cons c b =>
    have hc : separator c := hb c rfl
    rw [runs_append_separator hc, hword, runs_cons_separator hc]
    rfl

theorem fields_append_of_not_mem {c : Char} {a b f : List Char} {fs : List (List Char)}
    (h : c ∉ a) (hb : fields (· == c) b = f :: fs) :
    fields (· == c) (a ++ b) = (a ++ f) :: fs := by
  induction a with
  | nil => exact hb
  | cons d a ih =>
    obtain ⟨hd, ha⟩ : c ≠ d ∧ c ∉ a := by simpa using h
    exact fields_cons_of_not (by simpa using Ne.symm hd) (ih ha)

theorem fields_of_not_mem {c : Char} {a : List Char} (h : c ∉ a) : fields (· == c) a = [a] := by
  simpa using fields_append_of_not_mem (b := []) h rfl

theorem fields_line {l : List Char} (h : '\n' ∉ l) (rest : List Char) :
    fields (· == '\n') (l ++ '\n' :: rest) = l :: fields (· == '\n') rest := by
  have hrest : fields (· == '\n') ('\n' :: rest) = [] :: fields (· == '\n') rest := rfl
  rw [fields_append_of_not_mem h hrest, List.append_nil]

theorem flatten_runs (separator : Char → Bool) (cs : List Char) :
    (runs separator cs).flatten = cs.filter (!separator ·) := by
  rw [runs, List.flatten_filter_ne_nil]
  induction cs with
  | nil => rfl
  | cons c cs ih =>
    cases hc : separator c with
    | true => simp [fields, hc, ih]
    | false =>
      obtain ⟨f, fs, hf⟩ := List.exists_cons_of_ne_nil (fields_ne_nil separator cs)
      rw [hf] at ih
      rw [fields_cons_of_not hc hf]
      simp [hc, ← ih]

theorem runs_eq_nil {cs : List Char} (h : ∀ c ∈ cs, separator c) : runs separator cs = [] := by
  have hflat : (runs separator cs).flatten = [] := by
    rw [flatten_runs]
    simpa using h
  rw [List.eq_nil_iff_forall_not_mem]
  intro r hr
  exact runs_ne_nil hr (List.flatten_eq_nil_iff.mp hflat r hr)

theorem fields_intercalate {c : Char} (hc : separator c) {pieces : List (List Char)}
    (hne : pieces ≠ []) (h : ∀ piece ∈ pieces, ∀ d ∈ piece, separator d = false) :
    fields separator ([c].intercalate pieces) = pieces := by
  induction pieces with
  | nil => exact absurd rfl hne
  | cons piece pieces ih =>
    have hpiece : fields separator piece = [piece] := fields_eq_singleton (h piece (by simp))
    cases pieces with
    | nil => rw [List.intercalate_singleton, hpiece]
    | cons next pieces =>
      have hrest := ih (by simp) fun piece hmem => h piece (List.mem_cons_of_mem _ hmem)
      rw [List.intercalate_cons_cons, List.append_assoc, List.singleton_append,
        fields_append_separator hc, hpiece, hrest]
      rfl

theorem runs_intercalate {c : Char} (hc : separator c) {pieces : List (List Char)}
    (h : ∀ piece ∈ pieces, piece ≠ [] ∧ ∀ d ∈ piece, separator d = false) :
    runs separator ([c].intercalate pieces) = pieces := by
  by_cases hne : pieces = []
  · rw [hne]
    rfl
  · have hfields := fields_intercalate hc hne fun piece hmem => (h piece hmem).2
    rw [runs, hfields, List.filter_eq_self]
    intro piece hmem
    simpa using (h piece hmem).1

theorem not_mem_intercalate {c : Char} {between : List Char} {pieces : List (List Char)}
    (hbetween : c ∉ between) (h : ∀ piece ∈ pieces, c ∉ piece) :
    c ∉ between.intercalate pieces := by
  induction pieces with
  | nil => simp
  | cons piece pieces ih =>
    have hpiece := h piece (by simp)
    have hpieces : ∀ piece ∈ pieces, c ∉ piece := by
      intro piece hmem
      exact h piece (List.mem_cons_of_mem _ hmem)
    cases pieces with
    | nil => simpa using hpiece
    | cons next pieces =>
      rw [List.intercalate_cons_cons]
      simp [hpiece, hbetween, ih hpieces]

/-! ## Widths -/

theorem width_ne_zero {cs : List Char} (h : cs ≠ []) : width cs ≠ 0 := by
  obtain ⟨c, cs, rfl⟩ := List.exists_cons_of_ne_nil h
  have hc := c.utf8Size_pos
  rw [width_cons]
  omega

/-- The width of a text is what the string of it takes. -/
theorem utf8ByteSize_ofList (cs : List Char) : (String.ofList cs).utf8ByteSize = width cs := by
  induction cs with
  | nil => rfl
  | cons c cs ih =>
    rw [← List.singleton_append, String.ofList_append, String.utf8ByteSize_append, ih]
    simp

/-- A place in a text: before a character or behind the last one, in bytes counted from one. -/
def IsColumn (cs : List Char) (column : Nat) : Prop :=
  ∃ before, before <+: cs ∧ column = width before + 1

theorem isColumn_one (cs : List Char) : IsColumn cs 1 := ⟨[], List.nil_prefix, rfl⟩

theorem isColumn_of_append {a b cs : List Char} (h : cs = a ++ b) :
    IsColumn cs (width cs - width b + 1) := by
  refine ⟨a, h ▸ List.prefix_append a b, ?_⟩
  rw [h, width_append, Nat.add_sub_cancel]

theorem IsColumn.mono {a b : List Char} {column : Nat} (h : IsColumn a column) (hab : a <+: b) :
    IsColumn b column := by
  obtain ⟨before, hbefore, hcolumn⟩ := h
  exact ⟨before, hbefore.trans hab, hcolumn⟩

/-- A column of what follows a text is one of both together, so much further on. -/
theorem IsColumn.append_left {b : List Char} {column : Nat} (h : IsColumn b column)
    (a : List Char) : IsColumn (a ++ b) (width a + column) := by
  obtain ⟨before, hbefore, rfl⟩ := h
  exact ⟨a ++ before, (List.prefix_append_right_inj a).mpr hbefore, by simp [Nat.add_assoc]⟩

theorem isPrefix_of_before? {pattern cs before : List Char} (h : before? pattern cs = some before) :
    before <+: cs := by
  induction cs generalizing before with
  | nil =>
    obtain ⟨-, rfl⟩ : pattern = [] ∧ before = [] := by simpa [before?] using h.symm
    exact List.prefix_rfl
  | cons c cs ih =>
    rw [before?] at h
    split at h
    · cases h
      exact List.nil_prefix
    · obtain ⟨tail, htail, rfl⟩ := Option.map_eq_some_iff.mp h
      exact List.cons_prefix_cons.mpr ⟨rfl, ih htail⟩

theorem IsColumn.one_le {cs : List Char} {column : Nat} (h : IsColumn cs column) : 1 ≤ column := by
  obtain ⟨before, -, rfl⟩ := h
  omega

theorem IsColumn.le_width {cs : List Char} {column : Nat} (h : IsColumn cs column) :
    column ≤ width cs + 1 := by
  obtain ⟨before, ⟨rest, rfl⟩, rfl⟩ := h
  rw [width_append]
  omega

/-! ## The bytes of a text -/

section Bytes

variable {a : List UInt8} {cs : List Char} {s t : String}

theorem loop_toList (bs : ByteArray) (i : Nat) (read : List UInt8) :
    ByteArray.toList.loop bs i read = read.reverse ++ bs.data.toList.drop i := by
  fun_induction ByteArray.toList.loop bs i read with
  | case1 i read h ih =>
    have hi : i < bs.data.toList.length := by simpa using h
    have hget : bs.get! i = bs.data.toList[i] := by simp [ByteArray.get!, h]
    rw [ih, hget, List.drop_eq_getElem_cons hi]
    simp
  | case2 i read h =>
    have hend : bs.data.toList.drop i = [] :=
      List.drop_eq_nil_of_le (by simpa using Nat.le_of_not_lt h)
    simp [hend]

theorem encode_eq (s : String) : encode s = s.toByteArray.data.toList := by
  rw [encode, ByteArray.toList, loop_toList]
  rfl

theorem encode_ofList (cs : List Char) :
    encode (String.ofList cs) = cs.flatMap String.utf8EncodeChar := by
  rw [encode_eq, String.toByteArray_ofList, List.utf8Encode, List.toList_data_toByteArray]

theorem encode_inj (h : encode s = encode t) : s = t := by
  rw [encode_eq, encode_eq] at h
  exact String.toByteArray_inj.mp (ByteArray.ext (Array.toList_inj.mp h))

theorem le_of_mem_utf8EncodeChar {c : Char} (h : 0x20 ≤ c.toNat) :
    ∀ b ∈ String.utf8EncodeChar c, 0x20 ≤ b.toNat := by
  have hval : c.val.toNat = c.toNat := rfl
  unfold String.utf8EncodeChar
  simp only [hval]
  split
  · simp
    omega
  · -- All bytes of a longer character have the highest bit.
    split <;> try split
    all_goals
      simp
      omega

/-- Where no character is a control character, no byte is one. -/
theorem le_of_mem_encode (h : ∀ c ∈ cs, 0x20 ≤ c.toNat) :
    ∀ b ∈ encode (String.ofList cs), 0x20 ≤ b.toNat := by
  intro b hb
  rw [encode_ofList] at hb
  obtain ⟨c, hc, hb⟩ := List.mem_flatMap.mp hb
  exact le_of_mem_utf8EncodeChar (h c hc) b hb

/-! ## Lines of bytes -/

/-- The lines that end within some bytes. -/
def endedLines (bs : List UInt8) : List (List UInt8) := (bs.splitOn 10).dropLast

theorem endedLines_append (h : ∀ b ∈ a.getLast?, b = 10) (b : List UInt8) :
    endedLines (a ++ b) = endedLines a ++ endedLines b := by
  rcases List.eq_nil_or_concat a with rfl | ⟨init, c, rfl⟩
  · rfl
  · obtain rfl : c = 10 := h c (by simp)
    have hnil : List.splitOn (10 : UInt8) [] = [[]] := List.splitOn_nil 10
    have hne : List.splitOn 10 b ≠ [] := List.splitOn_ne_nil 10 b
    rw [List.concat_eq_append, List.append_assoc, List.singleton_append, endedLines, endedLines,
      List.splitOn_append_cons_self, List.splitOn_append_cons_self, hnil,
      List.dropLast_append_of_ne_nil hne, List.dropLast_concat]
    rfl

theorem endedLines_line (h : (10 : UInt8) ∉ a) : endedLines (a ++ [10]) = [a] := by
  rw [endedLines, List.splitOn_append_cons_self_of_not_mem h, List.splitOn_nil]
  rfl

end Bytes

end Provision.Text
