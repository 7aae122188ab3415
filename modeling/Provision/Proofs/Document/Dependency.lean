import Provision.Proofs.Document.Layout

namespace Provision

theorem IsName.isToken {s : String} (h : IsName s) : IsToken s := by
  obtain ⟨hne, hall⟩ := Text.isName_iff.mp h
  refine ⟨by simpa using hne, fun c hc => ⟨by simp [Text.isBlank_of_isNameChar (hall c hc)], ?_⟩⟩
  rintro rfl
  exact absurd (hall ',' hc) (by decide)

namespace Text

variable {cs : List Char} {after : Bool} {tokens : List String}

theorem SpellsGroup.mono {Gap Gap' : List Char → Prop} (hgap : ∀ gap, Gap gap → Gap' gap)
    (h : SpellsGroup Gap after tokens cs) : SpellsGroup Gap' after tokens cs := by
  induction h with
  | nil h => exact .nil (hgap _ h)
  | cons h hne _ ih => exact .cons (hgap _ h) hne ih

theorem runs_trimEnd (cs : List Char) : runs isBlank (trimEnd cs) = runs isBlank cs := by
  obtain ⟨tail, htail, hcs⟩ := exists_append_trimEnd cs
  conv_rhs => rw [hcs]
  cases tail with
  | nil => rw [List.append_nil]
  | cons c tail =>
    obtain ⟨hc, htail⟩ : isBlank c ∧ isAllBlank tail := by simpa using htail
    rw [runs_append_separator hc, runs_eq_nil (isAllBlank_iff.mp htail), List.append_nil]

end Text

namespace Document

variable {items : List Item} {n : Nat} {gap others ending : List Char} {r : Relation}

/-! ## The line of a dependency -/

theorem runs_of_spellsGroup (h : r.WellFormed)
    (hothers : Text.SpellsGroup Text.IsSpace false r.others others) :
    Text.runs Text.isBlank others = r.others.map String.toList := by
  have hblank := hothers.mono fun _ => Text.IsSpace.isAllBlank
  exact (hblank.runs_eq fun name hname => (h.others name hname).isToken).1

theorem trim_spelled (h : r.WellFormed) (gap others : List Char) :
    Text.trim (r.spelled gap others) = r.spelled gap (Text.trimEnd others) := by
  obtain ⟨tail, htail, hothers⟩ := Text.exists_append_trimEnd others
  have htext : r.spelled gap others = r.spelled gap (Text.trimEnd others) ++ tail := by
    conv_lhs => rw [hothers]
    simp [Relation.spelled]
  rw [htext, Text.trim_append_right_of_blank htail]
  exact trim_relation h (Text.isBlank_getLast_trimEnd others)

theorem ofText_spelled (h : r.WellFormed) (gap others : List Char) (n : Nat) :
    Line.ofText n (r.spelled gap others) = ⟨n, 0, r.spelled gap (Text.trimEnd others)⟩ := by
  obtain ⟨c, cs, hname⟩ := List.exists_cons_of_ne_nil (Text.isName_iff.mp h.subject).1
  have hc : Text.isBlank c = false :=
    Text.isBlank_of_isNameChar ((Text.isName_iff.mp h.subject).2 c (by simp [hname]))
  have hmargin : Text.margin (r.spelled gap others) = [] := by
    simp [Relation.spelled, hname, Text.margin, hc]
  rw [Line.ofText, hmargin, trim_spelled h]
  rfl

/-! ## An arrow behind the word `recipe` -/

/-- What is wrong with an arrow where the name of a recipe should stand: the dash of the one is
taken for the name, and the other has nothing of a name in it. -/
def misplacedArrow (line column : Nat) : Arrow → ParseError
  | .dependsOn => ⟨line, column + 1, .malformedRecipeHeader "-"⟩
  | .dependedUpon => ⟨line, column, .recipeNameExpected⟩

theorem readRecipeHeading_arrow (line : Nat) (hgap : Text.isAllBlank gap) (arrow : Arrow)
    (others : List Char) :
    readRecipeHeading line ("recipe".toList ++ (gap ++ (arrow.symbol.toList ++ others)))
        (gap ++ (arrow.symbol.toList ++ others)) =
      .error (misplacedArrow line (Text.width ("recipe".toList ++ gap) + 1) arrow) := by
  have hcolumn : Text.width ("recipe".toList ++ (gap ++ (arrow.symbol.toList ++ others))) -
      Text.width (arrow.symbol.toList ++ others) = Text.width ("recipe".toList ++ gap) := by
    rw [← List.append_assoc, Text.width_append, Nat.add_sub_cancel]
  rw [readRecipeHeading, Text.trimStart_append_of_blank hgap, trimStart_symbol]
  dsimp only
  rw [hcolumn]
  cases arrow with
  | dependsOn =>
    have hsplit : Text.splitName (Arrow.dependsOn.symbol.toList ++ others) =
        (['-'], '>' :: others) :=
      @Text.splitName_of_isName ['-'] ('>' :: others) (by decide) (by simp; decide)
    have hparameters : parameterText? ('>' :: others) = none := by
      rw [parameterText?, Text.trimStart_cons]
      rfl
    rw [hsplit]
    dsimp only
    rw [hparameters]
    rfl
  | dependedUpon => rfl

theorem readItem_recipe_apart (h : r.WellFormed) (hrecipe : r.subject = "recipe")
    (hgap : Text.isAllBlank gap) (hne : gap ≠ []) (hash : '#' ∉ others) :
    Reader.readItem items ⟨n, 0, r.spelled gap others⟩ =
      .error (misplacedArrow n (Text.width ("recipe".toList ++ gap) + 1) r.arrow) := by
  have hash : '#' ∉ r.spelled gap others :=
    not_mem_spelled (by decide) (by decide) h (not_mem_of_isAllBlank (by decide) hgap) hash
  have htext : r.spelled gap others =
      "recipe".toList ++ (gap ++ (r.arrow.symbol.toList ++ others)) := by
    rw [Relation.spelled, hrecipe]
  have hheading : recipeHeading? (r.spelled gap others) =
      some (gap ++ (r.arrow.symbol.toList ++ others)) := by
    obtain ⟨c, cs, rfl⟩ := List.exists_cons_of_ne_nil hne
    rw [htext]
    exact recipeHeading?_of_blank (Text.isAllBlank_iff.mp hgap c (by simp)) _
  simp only [Reader.readItem, dropAnyComment_of_not_mem hash, hheading]
  rw [htext, readRecipeHeading_arrow n hgap]
  rfl

/-! ## A document of one line -/

theorem parse_ended {l : List Char} (h : '\n' ∉ l) (hne : l ≠ [])
    (hending : ending = ['\n'] ∨ ending = ['\r', '\n'] ∨ ending = []) :
    parse (.ofList (l ++ ending)) = (Reader.start.feed (.ofText 1 l) >>= Reader.finish) := by
  have hread := @Reader.read_ended l ending [] h (by simp [hne])
    (hending.imp_right (.imp_right fun hnone => ⟨hnone, rfl⟩)) Reader.start 1
  rw [List.append_nil] at hread
  rw [parse_eq_read, String.toList_ofList, hread, bind_assoc]
  rfl

/-- A dependency on a line of its own is read as itself, however its names are spaced and glued to
the arrow, except where its subject is the word `recipe` and stands apart from the arrow: there the
line is taken for the heading of a recipe. -/
theorem parse_dependency_iff (h : r.WellFormed) (hgap : Text.IsSpace gap)
    (hothers : Text.SpellsGroup Text.IsSpace false r.others others)
    (hending : ending = ['\n'] ∨ ending = ['\r', '\n'] ∨ ending = []) :
    parse (.ofList (r.spelled gap others ++ ending)) = .ok [.dependency r 1] ↔
      (r.subject = "recipe" → gap = []) := by
  have hruns : Text.runs Text.isBlank (Text.trimEnd others) = r.others.map String.toList := by
    rw [Text.runs_trimEnd, runs_of_spellsGroup h hothers]
  have hbreak : '\n' ∉ r.spelled gap others := by
    refine not_mem_spelled (by decide) (by decide) h hgap.no_break ?_
    exact hothers.not_mem (fun _ => Text.IsSpace.no_break) fun name hname =>
      not_mem_of_isName (by decide) (h.others name hname)
  have hne : r.spelled gap others ≠ [] := by
    simp [Relation.spelled, (Text.isName_iff.mp h.subject).1]
  rw [parse_ended hbreak hne hending, ofText_spelled h, Reader.start,
    Reader.feed_top (isCode_spelled h 1 gap _)]
  constructor
  · intro hparse hrecipe
    by_contra hapart
    have hash : '#' ∉ Text.trimEnd others :=
      not_mem_of_runs (by decide) (by decide) h.others hruns
    rw [readItem_recipe_apart h hrecipe hgap.isAllBlank hapart hash] at hparse
    cases hparse
  · intro hrecipe
    rw [Reader.readItem_spelled h hgap.isAllBlank hrecipe hruns]
    rfl

/-- Dashes on either side belong to the names, and so do digits and dots. -/
theorem parse_dependency_glued :
    parse "recipe<--tea\t3.\u2003 --\u00a0\r\n" =
        .ok [.dependency ⟨"recipe", .dependedUpon, ["-tea", "3.", "--"]⟩ 1] ∧
      parse "a-\u3000->-" = .ok [.dependency ⟨"a-", .dependsOn, ["-"]⟩ 1] := by
  have hnone : Text.IsSpace [] := by decide
  have hmany : Text.SpellsGroup Text.IsSpace false ["-tea", "3.", "--"] _ :=
    .cons hnone (by simp) (.cons (by decide : Text.IsSpace ['\t']) (by simp)
      (.cons (by decide : Text.IsSpace ['\u2003', ' ']) (by simp)
        (.nil (by decide : Text.IsSpace ['\u00a0']))))
  have hone : Text.SpellsGroup Text.IsSpace false ["-"] _ := .cons hnone (by simp) (.nil hnone)
  have hglued := @parse_dependency_iff [] _ ['\r', '\n']
    ⟨"recipe", .dependedUpon, ["-tea", "3.", "--"]⟩ (by decide) (by decide) hmany (by simp)
  have hapart := @parse_dependency_iff ['\u3000'] _ [] ⟨"a-", .dependsOn, ["-"]⟩ (by decide)
    (by decide) hone (by simp)
  exact ⟨(congrArg parse (by decide +kernel)).trans (hglued.mpr fun _ => rfl),
    (congrArg parse (by decide +kernel)).trans (hapart.mpr (by simp))⟩

/-- A dependency of the target `recipe` that is taken for a heading. -/
theorem parse_recipe_arrow :
    let r : Relation := ⟨"recipe", .dependsOn, ["tea"]⟩
    r.WellFormed ∧ Text.IsSpace [' '] ∧
      Text.SpellsGroup Text.IsSpace false r.others [' ', 't', 'e', 'a'] ∧
      String.ofList (r.spelled [' '] [' ', 't', 'e', 'a']) = "recipe -> tea" ∧
      parse "recipe -> tea" = .error ⟨1, 9, .malformedRecipeHeader "-"⟩ := by
  have hspace : Text.IsSpace [' '] := by decide
  have htea : Text.SpellsGroup Text.IsSpace false ["tea"] ([' '] ++ ("tea".toList ++ [])) :=
    .cons hspace (by simp) (.nil (by decide))
  exact ⟨by decide, hspace, htea, by decide +kernel, by decide +kernel⟩

end Document

end Provision
