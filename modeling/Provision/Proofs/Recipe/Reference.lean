import Mathlib.Data.List.Basic
import Mathlib.Data.List.Infix
import Provision.Proofs.Text.Blank
import Provision.Recipe.Template

namespace Provision.Template

variable {a b cs spelling name rest : List Char}

/-- How a reference is written with blanks around the name. -/
def spell (before name after : List Char) : List Char :=
  '$' :: '(' :: '(' :: (before ++ name ++ after) ++ [')', ')']

private theorem takeWhile_append_stop {p : Char → Bool} (ha : ∀ c ∈ a, p c)
    (hb : ∀ c ∈ b.head?, p c = false) :
    (a ++ b).takeWhile p = a ∧ (a ++ b).dropWhile p = b := by
  rw [List.takeWhile_append_of_pos ha, List.dropWhile_append_of_pos ha]
  cases b with
  | nil => simp
  | cons c b => simp [hb c rfl]

/-- A text begins with a reference just if it is the spelling of one and a rest. -/
theorem reference?_eq_some_iff : reference? cs = some (spelling, name, rest) ↔
    ∃ before after, Text.isAllBlank before ∧ Text.isName name ∧ Text.isAllBlank after ∧
      spelling = spell before name after ∧ cs = spelling ++ rest := by
  constructor
  · intro h
    have hcs := (eq_append_of_reference? h).1
    unfold reference? at h
    split at h
    · next cs =>
      dsimp only at h
      split at h
      · split at h
        · simp at h
        · next hname =>
          simp only [Option.some.injEq, Prod.mk.injEq] at h
          obtain ⟨rfl, rfl, rfl⟩ := h
          refine ⟨_, _, ?_, ?_, ?_, rfl, hcs⟩
          · exact Text.isAllBlank_iff.mpr fun _ hc => List.mem_takeWhile_imp hc
          · exact Text.isName_iff.mpr ⟨by simpa using hname, fun _ hc => List.mem_takeWhile_imp hc⟩
          · exact Text.isAllBlank_iff.mpr fun _ hc => List.mem_takeWhile_imp hc
      · simp at h
    · simp at h
  · rintro ⟨before, after, hbefore, hname, hafter, rfl, rfl⟩
    obtain ⟨hne, hchars⟩ := Text.isName_iff.mp hname
    have hclose : ∀ c ∈ (')' :: ')' :: rest).head?, Text.isBlank c = false := by
      simp [Text.isBlank, Text.blankRanges]
    have houter := takeWhile_append_stop (Text.isAllBlank_iff.mp hafter) hclose
    have hinner := takeWhile_append_stop (p := Text.isNameChar)
      (b := after ++ ')' :: ')' :: rest) hchars (by
        cases after with
        | nil => simp; decide
        | cons c after =>
          have hc := Text.isAllBlank_iff.mp hafter c (by simp)
          simpa using Text.isNameChar_of_isBlank hc)
    have hfirst := takeWhile_append_stop (p := Text.isBlank)
      (b := name ++ (after ++ ')' :: ')' :: rest)) (Text.isAllBlank_iff.mp hbefore) (by
        obtain ⟨c, name, rfl⟩ := List.exists_cons_of_ne_nil hne
        simpa using Text.isBlank_of_isNameChar (hchars c (by simp)))
    have htext : spell before name after ++ rest =
        '$' :: '(' :: '(' :: (before ++ (name ++ (after ++ ')' :: ')' :: rest))) := by
      simp [spell]
    rw [htext, reference?]
    simp only [hfirst, hinner, houter]
    simp [spell, hne]

theorem reference?_append (h : reference? cs = some (spelling, name, rest)) (more : List Char) :
    reference? (cs ++ more) = some (spelling, name, rest ++ more) := by
  obtain ⟨before, after, hbefore, hname, hafter, rfl, rfl⟩ := reference?_eq_some_iff.mp h
  exact reference?_eq_some_iff.mpr
    ⟨before, after, hbefore, hname, hafter, rfl, List.append_assoc ..⟩

/-- What follows a reference has no part in it. -/
theorem reference?_of_append (h : reference? (spelling ++ rest) = some (spelling, name, rest)) :
    reference? spelling = some (spelling, name, []) := by
  obtain ⟨before, after, hbefore, hname, hafter, hspelling, -⟩ := reference?_eq_some_iff.mp h
  exact reference?_eq_some_iff.mpr
    ⟨before, after, hbefore, hname, hafter, hspelling, (List.append_nil _).symm⟩

theorem exists_spelling (h : reference? cs = some (spelling, name, rest)) :
    ∃ inner, spelling = '$' :: inner ∧ '$' ∉ inner := by
  obtain ⟨before, after, hbefore, hname, hafter, rfl, -⟩ := reference?_eq_some_iff.mp h
  refine ⟨_, rfl, ?_⟩
  have hblank {cs : List Char} (hcs : Text.isAllBlank cs) : '$' ∉ cs := fun hc => by
    have := Text.isAllBlank_iff.mp hcs _ hc
    simp [Text.isBlank, Text.blankRanges] at this
  have hdollar : '$' ∉ name := fun hc =>
    absurd ((Text.isName_iff.mp hname).2 _ hc) (by decide)
  simp [hblank hbefore, hblank hafter, hdollar]

theorem reference?_eq_none_of_head (h : cs.head? ≠ some '$') : reference? cs = none := by
  cases hr : reference? cs with
  | none => rfl
  | some found =>
    obtain ⟨spelling, name, rest⟩ := found
    obtain ⟨inner, rfl, -⟩ := exists_spelling hr
    rw [(eq_append_of_reference? hr).1] at h
    exact absurd rfl h

/-! ## Pieces -/

theorem pieces_of_reference? (h : reference? cs = some (spelling, name, rest)) :
    pieces cs = .reference spelling name :: pieces rest := by
  cases cs with
  | nil => simp [reference?] at h
  | cons c cs =>
    rw [pieces]
    split
    · next found => simp_all
    · next hnone => simp [hnone] at h

theorem pieces_cons {c : Char} (h : reference? (c :: cs) = none) :
    pieces (c :: cs) = .literal c :: pieces cs := by
  rw [pieces]
  split
  · next found => simp [found] at h
  · rfl

theorem pieces_append_of_none
    (h : ∀ tail, tail ≠ [] → tail <:+ cs → reference? (tail ++ rest) = none) :
    pieces (cs ++ rest) = cs.map .literal ++ pieces rest := by
  induction cs with
  | nil => rfl
  | cons c cs ih =>
    have hc : reference? (c :: (cs ++ rest)) = none := h (c :: cs) (by simp) List.suffix_rfl
    rw [List.cons_append, pieces_cons hc, List.map_cons, List.cons_append,
      ih fun tail hne htail => h tail hne (htail.trans (List.suffix_cons ..))]

/-- No reference begins where there is no dollar sign. -/
theorem pieces_append_of_not_mem (h : '$' ∉ cs) (rest : List Char) :
    pieces (cs ++ rest) = cs.map .literal ++ pieces rest := by
  refine pieces_append_of_none fun tail hne htail => reference?_eq_none_of_head fun hhead => ?_
  obtain ⟨c, tail, rfl⟩ := List.exists_cons_of_ne_nil hne
  obtain rfl : c = '$' := by simpa using hhead
  exact h (htail.subset (by simp))

theorem fill_append (value? : String → Option String) (ps qs : List Piece) :
    fill value? (ps ++ qs) = fill value? ps ++ fill value? qs :=
  List.flatMap_append

@[simp] theorem fill_literals (value? : String → Option String) (cs : List Char) : fill value? (cs.map .literal) = cs := by
  simp [fill, List.flatMap_map, Piece.fill]

/-! ## Texts that are put together -/

/-- A reference to a name that begins in one text and ends in the text behind it. -/
def Bridged (a b name : List Char) : Prop :=
  ∃ head tail first rest, a = head ++ tail ∧ b = first ++ rest ∧ tail ≠ [] ∧ first ≠ [] ∧
    reference? (tail ++ b) = some (tail ++ first, name, rest)

/-- A reference at the start of two texts ends in the first of them or goes on in the second. -/
theorem reference?_append_cases (ha : a ≠ [])
    (h : reference? (a ++ b) = some (spelling, name, rest)) :
    (∃ left, reference? a = some (spelling, name, left) ∧ a = spelling ++ left ∧
      rest = left ++ b) ∨ Bridged a b name := by
  have htext := (eq_append_of_reference? h).1
  rcases List.append_eq_append_iff.mp htext with ⟨first, rfl, rfl⟩ | ⟨left, rfl, rfl⟩
  · cases first with
    | nil =>
      rw [List.append_nil] at h ⊢
      exact .inl ⟨[], reference?_of_append h, (List.append_nil _).symm, rfl⟩
    | cons c first => exact .inr ⟨[], a, c :: first, rest, rfl, rfl, ha, by simp, h⟩
  · rw [List.append_assoc] at h
    have hself := reference?_append (reference?_of_append h) left
    exact .inl ⟨left, by simpa using hself, rfl, rfl⟩

theorem Bridged.cons_left {c : Char} (h : Bridged a b name) : Bridged (c :: a) b name := by
  obtain ⟨head, tail, first, rest, rfl, hrest⟩ := h
  exact ⟨c :: head, tail, first, rest, rfl, hrest⟩

theorem Bridged.append_left (h : Bridged a b name) (more : List Char) :
    Bridged (more ++ a) b name := by
  obtain ⟨head, tail, first, rest, rfl, hrest⟩ := h
  exact ⟨more ++ head, tail, first, rest, (List.append_assoc ..).symm, hrest⟩

/-- A reference does not go on where another one may begin. -/
theorem not_bridged_of_head (h : b.head? = some '$') : ¬ Bridged a b name := by
  rintro ⟨head, tail, first, rest, rfl, rfl, htail, hfirst, hr⟩
  obtain ⟨inner, hinner, hnot⟩ := exists_spelling hr
  obtain ⟨c, tail, rfl⟩ := List.exists_cons_of_ne_nil htail
  obtain ⟨d, first, rfl⟩ := List.exists_cons_of_ne_nil hfirst
  obtain ⟨rfl, rfl⟩ : c = '$' ∧ tail ++ d :: first = inner := by simpa using hinner
  obtain rfl : d = '$' := by simpa using h
  exact hnot (by simp)

/-- Where no reference goes from one text to the next, each of them has its own. -/
theorem pieces_append (h : ∀ name, ¬ Bridged a b name) : pieces (a ++ b) = pieces a ++ pieces b := by
  -- A reference takes more than one character off, so the induction is on the length.
  induction hk : a.length using Nat.strong_induction_on generalizing a with
  | _ k ih =>
    cases a with
    | nil => simp [pieces]
    | cons c a =>
      cases hr : reference? (c :: (a ++ b)) with
      | none =>
        have hnone : reference? (c :: a) = none := by
          cases hc : reference? (c :: a) with
          | none => rfl
          | some found =>
            obtain ⟨spelling, name, rest⟩ := found
            have hmore := reference?_append hc b
            rw [List.cons_append, hr] at hmore
            simp at hmore
        rw [List.cons_append, pieces_cons hr, pieces_cons hnone, List.cons_append,
          ih a.length (by simp at hk; omega) (fun name hb => h name hb.cons_left) rfl]
      | some found =>
        obtain ⟨spelling, name, rest⟩ := found
        rcases reference?_append_cases (List.cons_ne_nil c a) hr with ⟨left, hleft, hca, rfl⟩ | hb
        · have hlength : left.length < k := by
            have hpos := List.length_pos_iff.mpr (eq_append_of_reference? hr).2
            rw [← hk, hca, List.length_append]
            omega
          rw [List.cons_append, pieces_of_reference? hr, pieces_of_reference? hleft,
            List.cons_append, ih left.length hlength (fun name hb => h name ?_) rfl]
          rw [hca]
          exact hb.append_left spelling
        · exact absurd hb (h name)

/-- Where a reference goes from one text to the next, it takes the place of the literals that stand
for its two parts in the texts by themselves. -/
theorem Bridged.pieces_append (h : Bridged a b name) : ∃ before after tail first,
    tail ≠ [] ∧ first ≠ [] ∧ first <+: b ∧ pieces a = before ++ tail.map .literal ∧
      pieces b = first.map .literal ++ after ∧
      pieces (a ++ b) = before ++ .reference (tail ++ first) name :: after := by
  obtain ⟨head, tail, first, rest, rfl, rfl, htail, hfirst, hr⟩ := h
  obtain ⟨inner, hinner, hnot⟩ := exists_spelling hr
  obtain ⟨c, tail, rfl⟩ := List.exists_cons_of_ne_nil htail
  obtain ⟨rfl, rfl⟩ : c = '$' ∧ tail ++ first = inner := by simpa using hinner
  simp only [List.mem_append, not_or] at hnot
  refine ⟨pieces head, pieces rest, '$' :: tail, first, by simp, hfirst,
    List.prefix_append first rest, ?_, pieces_append_of_not_mem hnot.2 rest, ?_⟩
  · have hnone : reference? ('$' :: tail) = none := by
      cases hc : reference? ('$' :: tail) with
      | none => rfl
      | some found =>
        -- It would end before the reference of which it is the beginning.
        obtain ⟨spelling, name', left⟩ := found
        have hmore := reference?_append hc (first ++ rest)
        rw [hr] at hmore
        obtain ⟨rfl, -⟩ := Prod.mk.inj (Option.some.inj hmore)
        have hshort := congrArg List.length (eq_append_of_reference? hc).1
        have hpos := List.length_pos_iff.mpr hfirst
        simp only [List.length_append, List.length_cons] at hshort
        omega
    rw [Template.pieces_append fun name => not_bridged_of_head rfl, pieces_cons hnone]
    simpa [pieces] using pieces_append_of_not_mem hnot.1 []
  · rw [List.append_assoc, Template.pieces_append fun name => not_bridged_of_head rfl,
      pieces_of_reference? hr]

end Provision.Template
