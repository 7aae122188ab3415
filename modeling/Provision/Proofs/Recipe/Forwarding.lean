import Provision.Document.WellFormed
import Provision.Proofs.Recipe.Substitution
import Provision.Recipe.Expansion

namespace Provision

namespace Template

variable {value? : String → Option String} {a b cs spelling name : List Char}
  {parameters values group : List String}

/-! ## Texts that are put together, with values -/

theorem fill_pieces_append (h : ∀ name, Bridged a b name → value? (String.ofList name) = none) :
    fill value? (pieces (a ++ b)) = fill value? (pieces a) ++ fill value? (pieces b) := by
  by_cases hb : ∃ name, Bridged a b name
  · obtain ⟨name, hb⟩ := hb
    obtain ⟨before, after, tail, first, -, -, -, ha, hb', hab⟩ := hb.pieces_append
    have href : (Piece.reference (tail ++ first) name).fill value? = tail ++ first := by
      simp [Piece.fill, h name hb]
    rw [ha, hb', hab, fill_append, fill_append, fill_append, fill_literals, fill_literals]
    simp [fill, href]
  · rw [pieces_append (not_exists.mp hb), fill_append]

theorem length_fill_lt_of_bridged (value? : String → Option String) (h : Bridged a b name)
    (hvalue : value? (String.ofList name) = some "") :
    (fill value? (pieces (a ++ b))).length <
      (fill value? (pieces a)).length + (fill value? (pieces b)).length := by
  obtain ⟨before, after, tail, first, htail, -, -, ha, hb, hab⟩ := h.pieces_append
  have href : (Piece.reference (tail ++ first) name).fill value? = [] := by
    simp [Piece.fill, hvalue]
  have hpos := List.length_pos_iff.mpr htail
  have hfilled : fill value? (pieces (a ++ b)) = fill value? before ++ fill value? after := by
    rw [hab, fill_append]
    simp [fill, href]
  rw [hfilled, ha, hb, fill_append, fill_append, fill_literals, fill_literals]
  simp only [List.length_append]
  omega

theorem length_fill_pieces_append_le (hempty : ∀ name v, value? name = some v → v = "") :
    (fill value? (pieces (a ++ b))).length ≤
      (fill value? (pieces a)).length + (fill value? (pieces b)).length := by
  by_cases h : ∃ name, Bridged a b name ∧ value? (String.ofList name) ≠ none
  · obtain ⟨name, hb, hne⟩ := h
    obtain ⟨v, hv⟩ := Option.ne_none_iff_exists'.mp hne
    exact (length_fill_lt_of_bridged value? hb (hempty _ v hv ▸ hv)).le
  · have hnone (name : List Char) (hb : Bridged a b name) : value? (String.ofList name) = none := by
      by_contra hne
      exact h ⟨name, hb, hne⟩
    rw [fill_pieces_append hnone, List.length_append]

theorem pieces_blank (cs : List Char) : pieces (' ' :: cs) = .literal ' ' :: pieces cs :=
  pieces_cons (reference?_eq_none_of_head (by simp))

theorem fill_pieces_blank (cs : List Char) :
    fill value? (pieces (' ' :: cs)) = ' ' :: fill value? (pieces cs) := by
  rw [pieces_blank]
  rfl

/-! ## References in texts that are put together -/

theorem spelling_subset (h : .reference spelling name ∈ pieces cs) : spelling ⊆ cs := by
  fun_induction pieces cs with
  | case1 => simp at h
  | case2 c tail s n rest hr ih =>
    have htext := (eq_append_of_reference? hr).1
    rcases List.mem_cons.mp h with heq | h
    · obtain ⟨rfl, rfl⟩ := Piece.reference.inj heq
      rw [htext]
      exact List.subset_append_left ..
    · rw [htext]
      exact List.Subset.trans (ih h) (List.subset_append_right ..)
  | case3 c tail hr ih =>
    rcases List.mem_cons.mp h with heq | h
    · cases heq
    · exact List.Subset.trans (ih h) (List.subset_cons_self ..)

theorem reference_mem_append_right (h : .reference spelling name ∈ pieces b) :
    .reference spelling name ∈ pieces (a ++ b) := by
  by_cases hb : ∃ name, Bridged a b name
  · obtain ⟨other, hb⟩ := hb
    obtain ⟨before, after, tail, first, -, -, -, -, hpieces, hab⟩ := hb.pieces_append
    rw [hpieces] at h
    rw [hab]
    simpa using .inr (.inr (by simpa using h))
  · rw [pieces_append (not_exists.mp hb)]
    exact List.mem_append_right _ h

/-- A reference in two texts that are put together stands in one of them, or it goes from the first
to the second. -/
theorem reference_mem_append (h : .reference spelling name ∈ pieces (a ++ b)) :
    .reference spelling name ∈ pieces a ∨ .reference spelling name ∈ pieces b ∨
      Bridged a b name := by
  by_cases hb : ∃ name, Bridged a b name
  · obtain ⟨other, hb⟩ := hb
    obtain ⟨before, after, tail, first, -, -, -, ha, hpieces, hab⟩ := hb.pieces_append
    rw [hab, List.mem_append, List.mem_cons] at h
    rcases h with h | h | h
    · left
      rw [ha]
      exact List.mem_append_left _ h
    · obtain ⟨-, rfl⟩ := Piece.reference.inj h
      exact .inr (.inr hb)
    · right; left
      rw [hpieces]
      exact List.mem_append_right _ h
  · rw [pieces_append (not_exists.mp hb), List.mem_append] at h
    exact h.imp_right .inl

theorem Bridged.exists_mem (h : Bridged a b name) : ∃ tail first, first ≠ [] ∧ first <+: b ∧
    .reference (tail ++ first) name ∈ pieces (a ++ b) := by
  obtain ⟨before, after, tail, first, -, hne, hfirst, -, -, hab⟩ := h.pieces_append
  exact ⟨tail, first, hne, hfirst, by simp [hab]⟩

/-! ## Groups of tokens -/

/-- A reference to a parameter begins in a token of a group and ends behind it. -/
def Straddles (parameters : List String) : List String → Prop
  | [] => False
  | token :: rest =>
    (rest ≠ [] ∧ ∃ name, String.ofList name ∈ parameters ∧
      Bridged token.toList (' ' :: (String.intercalate " " rest).toList) name) ∨
    Straddles parameters rest

theorem toList_substitute (text : String) : (substitute parameters values text).toList =
    fill ((parameters.zip values).lookup ·) (pieces text.toList) :=
  String.toList_ofList

theorem toList_intercalate_cons {rest : List String} (hne : rest ≠ []) (token : String) :
    (String.intercalate " " (token :: rest)).toList =
      token.toList ++ ' ' :: (String.intercalate " " rest).toList := by
  rw [String.intercalate_cons_of_ne_nil hne]
  simp

theorem lookup_zip_eq_none {name : String} (h : name ∉ parameters) :
    (parameters.zip values).lookup name = none := by
  rw [List.lookup_eq_none_iff]
  intro entry hentry
  have hmem := (List.of_mem_zip hentry).1
  rw [bne_iff_ne]
  rintro rfl
  exact h hmem

/-- Without such a reference it makes no difference when the tokens are joined. -/
theorem substitute_intercalate (h : ¬ Straddles parameters group) (values : List String) :
    substitute parameters values (String.intercalate " " group) =
      String.intercalate " " (group.map (substitute parameters values)) := by
  induction group with
  | nil => simp [substitute, pieces, fill]
  | cons token rest ih =>
    obtain ⟨htoken, hrest⟩ := not_or.mp h
    by_cases hne : rest = []
    · subst hne
      simp
    · have hnone (name : List Char)
          (hb : Bridged token.toList (' ' :: (String.intercalate " " rest).toList) name) :
          (parameters.zip values).lookup (String.ofList name) = none :=
        lookup_zip_eq_none fun hmem => htoken ⟨hne, name, hmem, hb⟩
      rw [← String.toList_inj, List.map_cons, toList_intercalate_cons (by simpa using hne),
        ← ih hrest, toList_substitute, toList_substitute, toList_substitute,
        toList_intercalate_cons hne, fill_pieces_append hnone, fill_pieces_blank]

theorem lookup_zip_empty (name : String) :
    (parameters.zip (List.replicate parameters.length "")).lookup name =
      if name ∈ parameters then some "" else none := by
  rw [lookup_zip (by simp)]
  split
  · next hmem => simp [List.getD_eq_getElem?_getD, List.idxOf_lt_length_of_mem hmem]
  · rfl

/-- Where all values are empty, such a reference takes the tokens with it when they are joined. -/
theorem length_substitute_empty {empty : List String}
    (hempty : empty = List.replicate parameters.length "") :
    (substitute parameters empty (String.intercalate " " group)).toList.length ≤
      (String.intercalate " " (group.map (substitute parameters empty))).toList.length ∧
    (Straddles parameters group →
      (substitute parameters empty (String.intercalate " " group)).toList.length <
        (String.intercalate " " (group.map (substitute parameters empty))).toList.length) := by
  subst hempty
  -- Where a token is joined to what follows it, text can only be lost.
  have hempty (name v : String) (h : (if name ∈ parameters then some "" else none) = some v) :
      v = "" := by
    split at h
    · exact (Option.some.inj h).symm
    · simp at h
  induction group with
  | nil => simp [substitute, pieces, fill, Straddles]
  | cons token rest ih =>
    by_cases hne : rest = []
    · subst hne
      simp [Straddles]
    · rw [List.map_cons, toList_intercalate_cons (by simpa using hne)]
      simp only [toList_substitute, toList_intercalate_cons hne, lookup_zip_empty] at ih ⊢
      have hjoin := length_fill_pieces_append_le (a := token.toList)
        (b := ' ' :: (String.intercalate " " rest).toList) hempty
      rw [fill_pieces_blank] at hjoin
      simp only [List.length_append, List.length_cons] at hjoin ⊢
      refine ⟨by omega, ?_⟩
      rintro (⟨-, name, hmem, hb⟩ | hrest)
      · have hname : (if String.ofList name ∈ parameters then some "" else none) = some "" :=
          if_pos hmem
        have hlt := length_fill_lt_of_bridged
          (fun name => if name ∈ parameters then some "" else none) hb hname
        rw [fill_pieces_blank] at hlt
        simp only [List.length_cons] at hlt
        omega
      · have hlt := ih.2 hrest
        omega

/-- Of tokens that hold no blank, a reference takes in more than one if there is a blank in it. -/
theorem straddles_iff (h : ∀ token ∈ group, IsToken token) : Straddles parameters group ↔
    ∃ spelling name, .reference spelling name ∈ pieces (String.intercalate " " group).toList ∧
      String.ofList name ∈ parameters ∧ ' ' ∈ spelling := by
  have hsolid {token : String} (ht : IsToken token) : ' ' ∉ token.toList :=
    fun hblank => absurd (by decide) (ht.2 ' ' hblank).1
  induction group with
  | nil => simp [Straddles, pieces]
  | cons token rest ih =>
    obtain ⟨htoken, hrest⟩ := List.forall_mem_cons.mp h
    by_cases hne : rest = []
    · subst hne
      rw [String.intercalate_singleton]
      refine iff_of_false (by simp [Straddles]) ?_
      rintro ⟨spelling, name, href, -, hblank⟩
      exact hsolid htoken (spelling_subset href hblank)
    · rw [toList_intercalate_cons hne, Straddles]
      constructor
      · rintro (⟨-, name, hmem, hb⟩ | hbelow)
        · obtain ⟨tail, first, hfirst, hprefix, href⟩ := hb.exists_mem
          obtain ⟨c, first, rfl⟩ := List.exists_cons_of_ne_nil hfirst
          -- What is behind a token begins with the blank that parts it from the next one.
          obtain ⟨rfl, -⟩ := List.cons_prefix_cons.mp hprefix
          exact ⟨_, name, href, hmem, by simp⟩
        · obtain ⟨spelling, name, href, hmem, hblank⟩ := (ih hrest).mp hbelow
          refine ⟨spelling, name, reference_mem_append_right ?_, hmem, hblank⟩
          rw [pieces_blank]
          exact List.mem_cons_of_mem _ href
      · rintro ⟨spelling, name, href, hmem, hblank⟩
        rcases reference_mem_append href with href | href | hb
        · exact absurd (spelling_subset href hblank) (hsolid htoken)
        · rw [pieces_blank] at href
          exact .inr ((ih hrest).mpr ⟨spelling, name, by simpa using href, hmem, hblank⟩)
        · exact .inl ⟨hne, name, hmem, hb⟩

end Template

open Template

/-- A call inside a recipe is passed the values of its arguments with the parameters replaced in them,
whatever values the parameters have, just if no reference to a parameter goes from one token of an
argument to a later one. In a call that has been read these are the references with a blank. -/
theorem values_forward_iff (parameters : List String) (nested : Invocation) :
    ((∀ values : List String, parameters.length = values.length →
        (nested.forward parameters values).values =
          nested.values.map (substitute parameters values)) ↔
      ∀ group ∈ nested.groups, ¬ Straddles parameters group) ∧
    (nested.WellFormed → ∀ group ∈ nested.groups, (Straddles parameters group ↔
      ∃ spelling name, .reference spelling name ∈ pieces (String.intercalate " " group).toList ∧
        String.ofList name ∈ parameters ∧ ' ' ∈ spelling)) := by
  have hvalues (values : List String) : (nested.forward parameters values).values =
        nested.values.map (substitute parameters values) ↔ ∀ group ∈ nested.groups,
      String.intercalate " " (group.map (substitute parameters values)) =
        substitute parameters values (String.intercalate " " group) := by
    simp only [Invocation.values, Invocation.forward, List.map_map]
    exact List.map_inj_left
  refine ⟨?_, fun hw group hgroup => straddles_iff (hw.tokens group hgroup)⟩
  constructor
  · intro h group hgroup hs
    -- Without any text in the values the joined group comes out the shorter one.
    have hshort := (length_substitute_empty rfl).2 hs
    rw [(hvalues _).mp (h _ (by simp)) group hgroup] at hshort
    exact absurd hshort (Nat.lt_irrefl _)
  · exact fun h values _ => (hvalues values).mpr fun group hgroup =>
      (substitute_intercalate (h group hgroup) values).symm

/-- Token by token the reference is left alone, in the value as a whole it is replaced. -/
theorem forward_spaced :
    ((Invocation.mk "inner" [["$((", "p", "))"]]).forward ["p"] ["x"]).values = ["$(( p ))"] ∧
      (Invocation.mk "inner" [["$((", "p", "))"]]).values.map (substitute ["p"] ["x"]) = ["x"] := by
  decide +kernel

end Provision
