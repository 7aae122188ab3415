import Mathlib.Data.List.Infix
import Provision.Proofs.OrderedMap
import Provision.Proofs.Recipe.Reference

namespace Provision.Template

/-- A stretch of a text: characters that stand for themselves, or a reference with the blanks around
its name. -/
inductive Segment
  | text (cs : List Char)
  | reference (before name after : List Char)
  deriving DecidableEq, Repr

namespace Segment

def spelling : Segment → List Char
  | .text cs => cs
  | .reference before name after => spell before name after

/-- The characters hold no beginning of a reference, not even at their end. -/
def IsPlain : Segment → Prop
  | .text cs => ¬ ['$', '(', '('] <:+: cs ∧ ¬ ['$'] <:+ cs ∧ ¬ ['$', '('] <:+ cs
  | .reference before name after =>
    Text.isAllBlank before ∧ Text.isName name ∧ Text.isAllBlank after

instance : DecidablePred IsPlain
  | .text _ => inferInstanceAs (Decidable (_ ∧ _))
  | .reference .. => inferInstanceAs (Decidable (_ ∧ _))

/-- The pieces of a segment that is plain. -/
def pieces : Segment → List Piece
  | .text cs => cs.map .literal
  | .reference before name after => [.reference (spell before name after) name]

/-- A reference to a parameter becomes the value of the first parameter with its name. -/
def filled (parameters values : List String) : Segment → List Char
  | .text cs => cs
  | .reference before name after =>
    if String.ofList name ∈ parameters then
      (values.getD (parameters.idxOf (String.ofList name)) "").toList
    else spell before name after

end Segment

variable {parameters values : List String}

theorem reference?_append_of_isPlain {cs tail : List Char} (h : (Segment.text cs).IsPlain)
    (hne : tail ≠ []) (htail : tail <:+ cs) (rest : List Char) :
    reference? (tail ++ rest) = none := by
  cases hr : reference? (tail ++ rest) with
  | none => rfl
  | some found =>
    obtain ⟨spelling, name, left⟩ := found
    obtain ⟨before, after, -, -, -, hspelling, htext⟩ := reference?_eq_some_iff.mp hr
    rw [hspelling, spell] at htext
    obtain ⟨hinner, hdollar, hopen⟩ := h
    have hnone (tail : List Char) : ¬ '$' :: '(' :: '(' :: tail <:+ cs := fun htail =>
      hinner ((List.prefix_append ['$', '(', '('] tail).isInfix.trans htail.isInfix)
    -- The characters take in the opening of the reference, or they end within it.
    cases tail with
    | nil => exact absurd rfl hne
    | cons c tail =>
      cases tail with
      | nil =>
        obtain rfl : c = '$' := by simpa using (List.cons.inj htext).1
        exact absurd htail hdollar
      | cons d tail =>
        cases tail with
        | nil =>
          obtain ⟨rfl, rfl⟩ : c = '$' ∧ d = '(' := by
            simp only [List.cons_append, List.cons.injEq] at htext
            exact ⟨htext.1, htext.2.1⟩
          exact absurd htail hopen
        | cons e tail =>
          obtain ⟨rfl, rfl, rfl⟩ : c = '$' ∧ d = '(' ∧ e = '(' := by
            simp only [List.cons_append, List.cons.injEq] at htext
            exact ⟨htext.1, htext.2.1, htext.2.2.1⟩
          exact absurd htail (hnone tail)

theorem pieces_append_of_isPlain {s : Segment} (h : s.IsPlain) (rest : List Char) :
    pieces (s.spelling ++ rest) = s.pieces ++ pieces rest := by
  cases s with
  | text cs =>
    exact pieces_append_of_none fun tail hne htail =>
      reference?_append_of_isPlain h hne htail rest
  | reference before name after =>
    obtain ⟨hbefore, hname, hafter⟩ := h
    exact pieces_of_reference? (reference?_eq_some_iff.mpr
      ⟨before, after, hbefore, hname, hafter, rfl, rfl⟩)

/-- A text that has been put together of plain segments is taken apart into them. -/
theorem pieces_flatMap_spelling {segments : List Segment} (h : ∀ s ∈ segments, s.IsPlain) :
    pieces (segments.flatMap Segment.spelling) = segments.flatMap Segment.pieces := by
  induction segments with
  | nil => simp [pieces]
  | cons s segments ih =>
    obtain ⟨hs, hrest⟩ := List.forall_mem_cons.mp h
    rw [List.flatMap_cons, List.flatMap_cons, pieces_append_of_isPlain hs, ih hrest]

/-! ## Values -/

theorem lookup_zip (hlength : parameters.length = values.length) (name : String) :
    (parameters.zip values).lookup name =
      if name ∈ parameters then some (values.getD (parameters.idxOf name) "") else none := by
  induction parameters generalizing values with
  | nil => simp
  | cons p parameters ih =>
    cases values with
    | nil => simp at hlength
    | cons v values =>
      rw [List.zip_cons_cons, List.lookup_cons]
      by_cases hname : name = p
      · simp [hname]
      · rw [beq_eq_false_iff_ne.mpr hname, ih (by simpa using hlength)]
        simp [hname, List.idxOf_cons_ne _ (Ne.symm hname)]

theorem fill_pieces (hlength : parameters.length = values.length) (s : Segment) :
    fill ((parameters.zip values).lookup ·) s.pieces = s.filled parameters values := by
  cases s with
  | text cs => exact fill_literals _ cs
  | reference before name after =>
    simp only [Segment.pieces, Segment.filled, fill, List.flatMap_singleton, Piece.fill,
      lookup_zip hlength]
    by_cases hname : String.ofList name ∈ parameters
    · simp only [hname, if_true]
    · simp only [hname, if_false]

/-- Pairs with distinct keys give the same values in every order. -/
theorem lookup_eq_of_perm {es es' : List (String × String)} (hn : (es.map Prod.fst).Nodup)
    (hperm : es'.Perm es) (name : String) : es'.lookup name = es.lookup name := by
  have hn' : (es'.map Prod.fst).Nodup := (hperm.map Prod.fst).nodup_iff.mpr hn
  refine Option.ext fun value => ?_
  rw [OrderedMap.lookup_eq_some_iff hn, OrderedMap.lookup_eq_some_iff hn', hperm.mem_iff]

/-- In a text that has been put together of plain segments, each reference to a parameter is replaced
by the value of the parameter, and nothing else is, whatever the values hold. It does not matter in
which order parameters with different names are given. -/
theorem substitute_segments (hlength : parameters.length = values.length) :
    (∀ segments : List Segment, (∀ s ∈ segments, s.IsPlain) →
      substitute parameters values (String.ofList (segments.flatMap Segment.spelling)) =
        String.ofList (segments.flatMap (Segment.filled parameters values))) ∧
    (parameters.Nodup → ∀ parameters' values' : List String,
      (parameters'.zip values').Perm (parameters.zip values) →
        ∀ text, substitute parameters' values' text = substitute parameters values text) := by
  constructor
  · intro segments h
    rw [substitute, String.toList_ofList, pieces_flatMap_spelling h, fill, List.flatMap_assoc]
    refine congrArg String.ofList (List.flatMap_congr fun s _ => ?_)
    exact fill_pieces hlength s
  · intro hn parameters' values' hperm text
    have hkeys : ((parameters.zip values).map Prod.fst).Nodup := by
      rwa [List.map_fst_zip hlength.le]
    simp only [substitute, lookup_eq_of_perm hkeys hperm]

/-- A reference to `a`, then one to `a.b` right behind it and one to a name that is no parameter. -/
def sample : List Segment :=
  [.text "echo $(date) ".toList, .reference [] "a".toList [],
    .reference [' '] "a.b".toList ['\t', '\n'], .text "-$ (".toList,
    .reference [] "b".toList [' ']]

theorem substitute_sample :
    (∀ s ∈ sample, s.IsPlain) ∧ ["a.b", "a"].Nodup ∧
      substitute ["a.b", "a"] ["1 2", "$((a.b))"] "echo $(date) $((a))$(( a.b\t\n))-$ ($((b ))" =
        "echo $(date) $((a.b))1 2-$ ($((b ))" ∧
      substitute ["a", "a.b"] ["$((a.b))", "1 2"] "$((a))$((a.b))" =
        substitute ["a.b", "a"] ["1 2", "$((a.b))"] "$((a))$((a.b))" := by
  have hplain : ∀ s ∈ sample, s.IsPlain := by decide
  have hn : ["a.b", "a"].Nodup := by decide
  have hlength : ["a.b", "a"].length = ["1 2", "$((a.b))"].length := rfl
  obtain ⟨hsegments, hperm⟩ := substitute_segments hlength
  exact ⟨hplain, hn, hsegments sample hplain,
    hperm hn ["a", "a.b"] ["$((a.b))", "1 2"] (.swap ..) "$((a))$((a.b))"⟩

end Provision.Template
