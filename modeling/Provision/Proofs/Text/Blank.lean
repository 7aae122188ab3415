import Mathlib.Data.List.Basic
import Mathlib.Data.List.TakeWhile
import Provision.Text.Blank

namespace Provision.Text

variable {a b cs : List Char}

@[simp] theorem isAllBlank_nil : isAllBlank [] = true := rfl

@[simp] theorem isAllBlank_cons (c : Char) (cs : List Char) :
    isAllBlank (c :: cs) = (isBlank c && isAllBlank cs) := List.all_cons

@[simp] theorem isAllBlank_append : isAllBlank (a ++ b) = (isAllBlank a && isAllBlank b) :=
  List.all_append

theorem isAllBlank_reverse : isAllBlank cs.reverse = isAllBlank cs := List.all_reverse

theorem isAllBlank_iff : isAllBlank cs ↔ ∀ c ∈ cs, isBlank c := List.all_eq_true

@[simp] theorem isAllBlank_margin (cs : List Char) : isAllBlank (margin cs) :=
  isAllBlank_iff.mpr fun _ hc => List.mem_takeWhile_imp hc

@[simp] theorem isAllBlank_trimStart (cs : List Char) :
    isAllBlank (trimStart cs) = isAllBlank cs := by
  have hall := isAllBlank_append (a := margin cs) (b := trimStart cs)
  rw [margin_append_trimStart] at hall
  simp [hall]

theorem trimStart_eq_nil_iff : trimStart cs = [] ↔ isAllBlank cs := by
  rw [isAllBlank_iff, trimStart, List.dropWhile_eq_nil_iff]

theorem trimStart_append_of_blank (h : isAllBlank a) : trimStart (a ++ b) = trimStart b :=
  List.dropWhile_append_of_pos (isAllBlank_iff.mp h)

theorem trimStart_append (h : isAllBlank a = false) : trimStart (a ++ b) = trimStart a ++ b := by
  have hne : (a.dropWhile isBlank).isEmpty = false := by
    rw [List.isEmpty_eq_false_iff]
    intro hnil
    simp [trimStart_eq_nil_iff.mp hnil] at h
  rw [trimStart, List.dropWhile_append, hne]
  rfl

theorem margin_append (h : isAllBlank a = false) : margin (a ++ b) = margin a := by
  have hlt : (a.takeWhile isBlank).length ≠ a.length := by
    intro heq
    have hall : a.takeWhile isBlank = a := (List.takeWhile_prefix _).eq_of_length heq
    rw [List.takeWhile_eq_self_iff] at hall
    simp [isAllBlank_iff.mpr hall] at h
  rw [margin, List.takeWhile_append, if_neg hlt]
  rfl

theorem margin_append_of_blank (ha : isAllBlank a) (hb : ∀ c ∈ b.head?, isBlank c = false) :
    margin (a ++ b) = a := by
  have hnil : b.takeWhile isBlank = [] := by
    cases b with
    | nil => rfl
    | cons c b => exact List.takeWhile_cons_of_neg (by simp [hb c rfl])
  rw [margin, List.takeWhile_append_of_pos (isAllBlank_iff.mp ha), hnil, List.append_nil]

/-- What holds of the blanks before a text holds of those behind its mirror image. -/
theorem trimEnd_eq_reverse (cs : List Char) : trimEnd cs = (trimStart cs.reverse).reverse := rfl

theorem trimEnd_eq_nil_iff : trimEnd cs = [] ↔ isAllBlank cs := by
  rw [trimEnd_eq_reverse, List.reverse_eq_nil_iff, trimStart_eq_nil_iff, isAllBlank_reverse]

theorem trimEnd_append_of_blank (h : isAllBlank b) : trimEnd (a ++ b) = trimEnd a := by
  rw [trimEnd_eq_reverse, List.reverse_append,
    trimStart_append_of_blank (by rwa [isAllBlank_reverse]), ← trimEnd_eq_reverse]

theorem trimEnd_append (h : isAllBlank b = false) : trimEnd (a ++ b) = a ++ trimEnd b := by
  rw [trimEnd_eq_reverse, List.reverse_append, trimStart_append (by rwa [isAllBlank_reverse]),
    List.reverse_append, List.reverse_reverse, ← trimEnd_eq_reverse]

theorem trimEnd_cons {c : Char} (hc : isBlank c = false) (cs : List Char) :
    trimEnd (c :: cs) = c :: trimEnd cs := by
  cases h : isAllBlank cs with
  | true =>
    have hone : trimEnd [c] = [c] := by simpa [hc] using trimEnd_append_singleton [] c
    rw [trimEnd_eq_nil_iff.mpr h, ← List.singleton_append, trimEnd_append_of_blank h, hone]
  | false =>
    rw [← List.singleton_append, trimEnd_append h]
    rfl

theorem trimEnd_append_of_trimEnd (h : trimEnd a = a) (b : List Char) :
    trimEnd (a ++ b) = a ++ trimEnd b := by
  cases hb : isAllBlank b with
  | true => rw [trimEnd_append_of_blank hb, h, trimEnd_eq_nil_iff.mpr hb, List.append_nil]
  | false => exact trimEnd_append hb

theorem trimEnd_eq_self (h : ∀ c ∈ a, isBlank c = false) : trimEnd a = a := by
  rcases List.eq_nil_or_concat a with rfl | ⟨init, c, rfl⟩
  · rfl
  · rw [List.concat_eq_append, trimEnd_append_singleton, h c (by simp)]
    rfl

theorem exists_append_trimEnd (cs : List Char) :
    ∃ tail, isAllBlank tail ∧ cs = trimEnd cs ++ tail := by
  refine ⟨(margin cs.reverse).reverse, by simp [isAllBlank_reverse], ?_⟩
  rw [trimEnd_eq_reverse, ← List.reverse_append, margin_append_trimStart, List.reverse_reverse]

theorem isPrefix_trimEnd (cs : List Char) : trimEnd cs <+: cs := by
  obtain ⟨tail, -, hcs⟩ := exists_append_trimEnd cs
  exact ⟨tail, hcs.symm⟩

@[simp] theorem isAllBlank_trimEnd (cs : List Char) : isAllBlank (trimEnd cs) = isAllBlank cs := by
  obtain ⟨tail, htail, hcs⟩ := exists_append_trimEnd cs
  have hall := isAllBlank_append (a := trimEnd cs) (b := tail)
  rw [← hcs, htail, Bool.and_true] at hall
  exact hall.symm

@[simp] theorem trimEnd_trimEnd (cs : List Char) : trimEnd (trimEnd cs) = trimEnd cs := by
  obtain ⟨tail, htail, hcs⟩ := exists_append_trimEnd cs
  have hcut := trimEnd_append_of_blank (a := trimEnd cs) htail
  rw [← hcs] at hcut
  exact hcut.symm

/-- Where no blank ends a text, none ends what the text ends with. -/
theorem trimEnd_eq_self_of_append (h : trimEnd (a ++ b) = a ++ b) : trimEnd b = b := by
  cases hb : isAllBlank b with
  | false =>
    rw [trimEnd_append hb] at h
    exact List.append_cancel_left h
  | true =>
    rw [trimEnd_append_of_blank hb] at h
    obtain ⟨tail, -, ha⟩ := exists_append_trimEnd a
    have hlen := congrArg List.length h
    have hle := congrArg List.length ha
    simp only [List.length_append] at hlen hle
    have hnil : b = [] := List.eq_nil_of_length_eq_zero (by omega)
    rw [hnil, trimEnd_nil]

theorem trim_eq_nil_iff : trim cs = [] ↔ isAllBlank cs := by
  rw [trim, trimEnd_eq_nil_iff, isAllBlank_trimStart]

@[simp] theorem trimEnd_trim (cs : List Char) : trimEnd (trim cs) = trim cs := trimEnd_trimEnd _

theorem mem_of_mem_trim {c : Char} (h : c ∈ trim cs) : c ∈ cs := by
  obtain ⟨tail, -, hend⟩ := exists_append_trimEnd (trimStart cs)
  rw [← margin_append_trimStart cs, hend]
  exact List.mem_append_right _ (List.mem_append_left _ h)

theorem isBlank_head_trim (cs : List Char) : ∀ c ∈ (trim cs).head?, isBlank c = false := by
  intro c hc
  obtain ⟨tail, -, hend⟩ := exists_append_trimEnd (trimStart cs)
  obtain ⟨rest, hrest⟩ := List.head?_eq_some_iff.mp hc
  have hhead : (trimStart cs).head? = some c := by
    rw [hend, ← trim, hrest]
    rfl
  have hnot := List.head?_dropWhile_not isBlank cs
  rw [← trimStart, hhead] at hnot
  simpa using hnot

theorem trim_append_of_blank (h : isAllBlank a) : trim (a ++ b) = trim b := by
  rw [trim, trimStart_append_of_blank h, ← trim]

theorem trim_append_right_of_blank (h : isAllBlank b) : trim (a ++ b) = trim a := by
  cases ha : isAllBlank a with
  | true => rw [trim_append_of_blank ha, trim_eq_nil_iff.mpr h, trim_eq_nil_iff.mpr ha]
  | false => rw [trim, trimStart_append ha, trimEnd_append_of_blank h, trim]

theorem trim_eq_self (hhead : ∀ c ∈ cs.head?, isBlank c = false)
    (hlast : ∀ c ∈ cs.getLast?, isBlank c = false) : trim cs = cs := by
  have hstart : trimStart cs = cs := by
    cases cs with
    | nil => rfl
    | cons c cs => simp [trimStart_cons, hhead c rfl]
  rcases List.eq_nil_or_concat cs with rfl | ⟨init, c, rfl⟩
  · rfl
  · rw [trim, hstart, List.concat_eq_append, trimEnd_append_singleton]
    simp [hlast c (by simp)]

theorem isBlank_getLast_trimEnd (cs : List Char) :
    ∀ c ∈ (trimEnd cs).getLast?, isBlank c = false := by
  intro c hc
  have hrev := List.head?_dropWhile_not isBlank cs.reverse
  rw [trimEnd, List.getLast?_reverse] at hc
  rw [hc] at hrev
  simpa using hrev

theorem isBlank_getLast_trim (cs : List Char) : ∀ c ∈ (trim cs).getLast?, isBlank c = false :=
  isBlank_getLast_trimEnd (trimStart cs)

@[simp] theorem trim_trim (cs : List Char) : trim (trim cs) = trim cs :=
  trim_eq_self (isBlank_head_trim cs) (isBlank_getLast_trim cs)

theorem trim_eq_self_iff {cs : List Char} : trim cs = cs ↔
    (∀ c ∈ cs.head?, isBlank c = false) ∧ ∀ c ∈ cs.getLast?, isBlank c = false := by
  constructor
  · intro h
    have hhead := isBlank_head_trim cs
    have hlast := isBlank_getLast_trim cs
    rw [h] at hhead hlast
    exact ⟨hhead, hlast⟩
  · rintro ⟨hhead, hlast⟩
    exact trim_eq_self hhead hlast

theorem trimmed_eq_self_iff {s : String} : trimmed s = s ↔ trim s.toList = s.toList := by
  rw [trimmed, ← String.toList_inj, String.toList_ofList]

@[simp] theorem trimmed_trimmed (s : String) : trimmed (trimmed s) = trimmed s := by
  simp [trimmed]

/-- With a break behind it a trimmed text begins with a blank just if it is blank. -/
theorem head?_trim_append_break {cs rest : List Char} :
    (∀ c ∈ (trim cs ++ '\n' :: rest).head?, isBlank c = false) ↔ isAllBlank cs = false := by
  cases h : isAllBlank cs with
  | true => simp [trim_eq_nil_iff.mpr h, isBlank, blankRanges]
  | false =>
    have hne : trim cs ≠ [] := by simp [Ne, trim_eq_nil_iff, h]
    rw [List.head?_append_of_ne_nil _ hne]
    simpa using isBlank_head_trim cs

theorem getLast?_break_append_trim {cs rest : List Char} :
    (∀ c ∈ (rest ++ '\n' :: trim cs).getLast?, isBlank c = false) ↔ isAllBlank cs = false := by
  cases h : isAllBlank cs with
  | true => simp [trim_eq_nil_iff.mpr h, isBlank, blankRanges]
  | false =>
    have hne : trim cs ≠ [] := by simp [Ne, trim_eq_nil_iff, h]
    rw [← List.singleton_append, ← List.append_assoc, List.getLast?_append_of_ne_nil _ hne]
    simpa using isBlank_getLast_trim cs

/-! ## Names -/

theorem isNameChar_of_isBlank {c : Char} (h : isBlank c) : isNameChar c = false := by
  by_contra hname
  rw [Bool.not_eq_false] at hname
  delta isNameChar Char.isAlphanum Char.isAlpha Char.isUpper Char.isLower Char.isDigit at hname
  simp only [Bool.or_eq_true, Bool.and_eq_true, decide_eq_true_eq, beq_iff_eq, ge_iff_le,
    UInt32.le_iff_toNat_le] at hname
  simp only [isBlank, blankRanges, List.any_cons, List.any_nil, Bool.or_eq_true, Bool.and_eq_true,
    decide_eq_true_eq, Bool.or_false, Char.toNat] at h
  rcases hname with ((hletter | rfl) | rfl) | rfl
  · simp only [Char.reduceVal, UInt32.reduceToNat] at hletter
    omega
  all_goals
    simp only [Char.reduceVal, UInt32.reduceToNat] at h
    omega

theorem isBlank_of_isNameChar {c : Char} (h : isNameChar c) : isBlank c = false := by
  by_contra hblank
  rw [Bool.not_eq_false] at hblank
  simp [isNameChar_of_isBlank hblank] at h

/-- A name ends where no name character follows. -/
theorem splitName_append_of_head {s : List Char} (h : ∀ c ∈ s.head?, isNameChar c = false)
    (cs : List Char) : splitName (cs ++ s) = ((splitName cs).1, (splitName cs).2 ++ s) := by
  induction cs with
  | nil =>
    cases s with
    | nil => rfl
    | cons c s => simp [splitName, h c rfl]
  | cons c cs ih =>
    cases hc : isNameChar c with
    | true => simpa [splitName, hc] using ih
    | false => simp [splitName, hc]

theorem isName_iff {cs : List Char} : isName cs ↔ cs ≠ [] ∧ ∀ c ∈ cs, isNameChar c := by
  simp [isName]

theorem splitName_of_isName {name rest : List Char} (h : isName name)
    (hrest : ∀ c ∈ rest.head?, isNameChar c = false) :
    splitName (name ++ rest) = (name, rest) := by
  have hall := (isName_iff.mp h).2
  have hname : splitName name = (name, []) := by
    rw [splitName, List.takeWhile_eq_self_iff.mpr hall, List.dropWhile_eq_nil_iff.mpr hall]
  rw [splitName_append_of_head hrest, hname]
  rfl

/-- A text that begins with a name has no blanks around it if it does not end in one. -/
theorem trim_of_isName {name rest : List Char} (h : isName name)
    (hrest : ∀ c ∈ rest.getLast?, isBlank c = false) : trim (name ++ rest) = name ++ rest := by
  obtain ⟨hne, hall⟩ := isName_iff.mp h
  apply trim_eq_self
  · intro c hc
    obtain ⟨d, ds, rfl⟩ := List.exists_cons_of_ne_nil hne
    obtain rfl : d = c := by simpa using hc
    exact isBlank_of_isNameChar (hall d (by simp))
  · intro c hc
    cases hlast : rest.getLast? with
    | none =>
      obtain rfl : rest = [] := List.getLast?_eq_none_iff.mp hlast
      rw [List.append_nil] at hc
      exact isBlank_of_isNameChar (hall c (List.mem_of_getLast? hc))
    | some d =>
      obtain rfl : d = c := by simpa [List.getLast?_append, hlast] using hc
      exact hrest d hlast

end Provision.Text
