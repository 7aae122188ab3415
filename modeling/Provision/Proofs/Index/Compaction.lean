import Mathlib.Data.List.Chain
import Provision.Index.Basic
import Provision.Proofs.Document.WellFormed

namespace Provision

/-- The statements behind an action: each line of a script is one, and a call is one. -/
def Action.statements : Action → List Action
  | .shell script =>
    (Text.fields (· == '\n') script.toList).map fun line => .shell (String.ofList line)
  | .call invocation => [.call invocation]

/-- Two actions of which one at least is a call. -/
def Action.Apart (a b : Action) : Prop := a.invocation?.isSome ∨ b.invocation?.isSome

/-- What a list of actions is to the statements that it has been made of: they can be told from it
in their order, and nothing is left in it that could be joined. -/
structure Compacts (statements actions : List Action) : Prop where
  statements : actions.flatMap Action.statements = statements
  apart : actions.IsChain Action.Apart
  stable : compact actions = actions

/-- A script of one line or several, without blanks around it. -/
structure IsScript (s : String) : Prop where
  ne_empty : s ≠ ""
  trimmed : Text.trimmed s = s

def Action.IsWhole : Action → Prop
  | .shell script => IsScript script
  | .call _ => True

theorem IsScriptLine.isScript {s : String} (h : IsScriptLine s) : IsScript s :=
  ⟨h.ne_empty, h.trimmed⟩

theorem Text.trim_join {a b : List Char} (ha : trim a = a) (hane : a ≠ []) (hb : trim b = b)
    (hbne : b ≠ []) (between : List Char) : trim (a ++ between ++ b) = a ++ between ++ b := by
  apply trim_eq_self
  · intro c hc
    have hhead := isBlank_head_trim a
    rw [ha] at hhead
    obtain ⟨d, ds, rfl⟩ := List.exists_cons_of_ne_nil hane
    exact hhead c (by simpa using hc)
  · intro c hc
    have hlast := isBlank_getLast_trim b
    rw [hb] at hlast
    rw [List.getLast?_append_of_ne_nil _ hbne] at hc
    exact hlast c hc

theorem IsScript.join {s t : String} (hs : IsScript s) (ht : IsScript t) (between : String) :
    IsScript (s ++ between ++ t) where
  ne_empty := by simp [hs.ne_empty]
  trimmed := by
    have trim_toList {u : String} (hu : IsScript u) : Text.trim u.toList = u.toList := by
      simpa [Text.trimmed] using congrArg String.toList hu.trimmed
    have hjoin := Text.trim_join (trim_toList hs) (by simpa using hs.ne_empty) (trim_toList ht)
      (by simpa using ht.ne_empty) between.toList
    rw [Text.trimmed, String.toList_append, String.toList_append, hjoin]
    simp only [String.ofList_append, String.ofList_toList]

theorem statements_shell {s : String} (h : IsScriptLine s) :
    (Action.shell s).statements = [.shell s] := by
  simp [Action.statements, Text.fields_of_not_mem h.no_break]

theorem statements_join (s t : String) : (Action.shell (s ++ "\n" ++ t)).statements =
    (Action.shell s).statements ++ (Action.shell t).statements := by
  have hfields : Text.fields (· == '\n') (s.toList ++ '\n' :: t.toList) =
      Text.fields (· == '\n') s.toList ++ Text.fields (· == '\n') t.toList :=
    Text.fields_append_separator rfl s.toList t.toList
  have htext : (s ++ "\n" ++ t).toList = s.toList ++ '\n' :: t.toList := by simp
  rw [Action.statements, htext, hfields, List.map_append]
  rfl

/-! ## Runs of scripts -/

/-- What a script does to a list that has been compacted: it joins a script that comes first. -/
theorem compact_shell (script : String) (rest : List Action) :
    (∃ next more, compact rest = .shell next :: more ∧
      compact (.shell script :: rest) = .shell (Text.trimmed script ++ "\n" ++ next) :: more) ∨
    (∀ next more, compact rest ≠ .shell next :: more) ∧
      compact (.shell script :: rest) = .shell (Text.trimmed script) :: compact rest := by
  rw [compact]
  split
  · next next more h => exact .inl ⟨next, more, h, rfl⟩
  · next h => exact .inr ⟨h, rfl⟩

theorem apart_of_shell {script : String} {actions : List Action}
    (h : ∀ next more, actions ≠ .shell next :: more) :
    ∀ a ∈ actions.head?, Action.Apart (.shell script) a := by
  intro a ha
  obtain ⟨more, rfl⟩ := List.head?_eq_some_iff.mp ha
  cases a with
  | shell next => exact absurd rfl (h next more)
  | call invocation => exact .inr rfl

theorem isChain_compact (actions : List Action) : (compact actions).IsChain Action.Apart := by
  induction actions with
  | nil => exact .nil
  | cons a rest ih =>
    cases a with
    | call invocation => exact List.isChain_cons.mpr ⟨fun _ _ => .inl rfl, ih⟩
    | shell script =>
      rcases compact_shell script rest with ⟨next, more, hrest, h⟩ | ⟨hrest, h⟩
      · rw [hrest, List.isChain_cons] at ih
        rw [h]
        exact List.isChain_cons.mpr ih
      · rw [h]
        exact List.isChain_cons.mpr ⟨apart_of_shell hrest, ih⟩

def Action.trimmed : Action → Action
  | .shell script => .shell (Text.trimmed script)
  | .call invocation => .call invocation

/-- Where the scripts are apart, they are only trimmed. -/
theorem compact_of_apart {actions : List Action} (hapart : actions.IsChain Action.Apart) :
    compact actions = actions.map Action.trimmed := by
  induction actions with
  | nil => rfl
  | cons a rest ih =>
    obtain ⟨hhead, htail⟩ := List.isChain_cons.mp hapart
    cases a with
    | call invocation => rw [compact, ih htail]; rfl
    | shell script =>
      rcases compact_shell script rest with ⟨next, more, hmore, -⟩ | ⟨-, hcompact⟩
      · rw [ih htail] at hmore
        obtain ⟨b, rest, rfl, hb, -⟩ := List.map_eq_cons_iff.mp hmore
        have hclash := hhead b (by simp)
        cases b <;> simp [Action.Apart, Action.invocation?, Action.trimmed] at hclash hb
      · rw [hcompact, ih htail]; rfl

/-- Where nothing is to be cut off them either, nothing is left to be done. -/
theorem compact_eq_self {actions : List Action} (h : ∀ a ∈ actions, a.IsWhole)
    (hapart : actions.IsChain Action.Apart) : compact actions = actions := by
  rw [compact_of_apart hapart, List.map_congr_left, List.map_id]
  intro a ha
  cases a with
  | call invocation => rfl
  | shell script => exact congrArg Action.shell (h _ ha).trimmed

theorem isWhole_compact {statements : List Action} (h : ∀ a ∈ statements, a.IsLine) :
    ∀ a ∈ compact statements, a.IsWhole := by
  induction statements with
  | nil => simp [compact]
  | cons a rest ih =>
    obtain ⟨ha, hrest⟩ := List.forall_mem_cons.mp h
    have hwhole := ih hrest
    cases a with
    | call invocation => exact List.forall_mem_cons.mpr ⟨trivial, hwhole⟩
    | shell script =>
      have hscript : IsScriptLine script := ha
      rcases compact_shell script rest with ⟨next, more, hmore, hcompact⟩ | ⟨-, hcompact⟩
      · rw [hmore, List.forall_mem_cons] at hwhole
        rw [hcompact, hscript.trimmed, List.forall_mem_cons]
        exact ⟨hscript.isScript.join hwhole.1 "\n", hwhole.2⟩
      · rw [hcompact, hscript.trimmed, List.forall_mem_cons]
        exact ⟨hscript.isScript, hwhole⟩

theorem flatMap_statements_compact {statements : List Action} (h : ∀ a ∈ statements, a.IsLine) :
    (compact statements).flatMap Action.statements = statements := by
  induction statements with
  | nil => rfl
  | cons a rest ih =>
    obtain ⟨ha, hrest⟩ := List.forall_mem_cons.mp h
    have hsame := ih hrest
    cases a with
    | call invocation => rw [compact, List.flatMap_cons, hsame, Action.statements]; rfl
    | shell script =>
      have hscript : IsScriptLine script := ha
      rcases compact_shell script rest with ⟨next, more, hmore, hcompact⟩ | ⟨-, hcompact⟩
      · rw [hmore, List.flatMap_cons] at hsame
        rw [hcompact, hscript.trimmed, List.flatMap_cons, statements_join, List.append_assoc, hsame,
          statements_shell hscript]
        rfl
      · rw [hcompact, hscript.trimmed, List.flatMap_cons, hsame, statements_shell hscript]
        rfl

/-- Scripts that are lines can be told from what has been joined of them. -/
theorem compacts_compact {statements : List Action} (h : ∀ a ∈ statements, a.IsLine) :
    Compacts statements (compact statements) where
  statements := flatMap_statements_compact h
  apart := isChain_compact statements
  stable := compact_eq_self (isWhole_compact h) (isChain_compact statements)

/-! ## Longest runs -/

/-- The text that a run of scripts becomes. -/
def joined (scripts : List String) : String := String.intercalate "\n" (scripts.map Text.trimmed)

/-- Scripts that follow one another, with none before them and none behind them. -/
def IsRun (actions : List Action) (scripts : List String) : Prop :=
  ∃ before after, actions = before ++ scripts.map Action.shell ++ after ∧ scripts ≠ [] ∧
    (∀ init s, before ≠ init ++ [.shell s]) ∧ ∀ s rest, after ≠ .shell s :: rest

/-- A run goes as far as scripts follow one another. -/
theorem exists_run (actions : List Action) : ∃ (scripts : List String) (after : List Action),
    actions = scripts.map Action.shell ++ after ∧ ∀ s rest, after ≠ .shell s :: rest := by
  induction actions with
  | nil => exact ⟨[], [], rfl, by simp⟩
  | cons a actions ih =>
    cases a with
    | call invocation => exact ⟨[], .call invocation :: actions, rfl, by simp⟩
    | shell script =>
      obtain ⟨scripts, after, rfl, hafter⟩ := ih
      exact ⟨script :: scripts, after, rfl, hafter⟩

theorem run_unique {scripts scripts' : List String} {after after' : List Action}
    (h : scripts.map Action.shell ++ after = scripts'.map Action.shell ++ after')
    (hafter : ∀ s rest, after ≠ .shell s :: rest) (hafter' : ∀ s rest, after' ≠ .shell s :: rest) :
    scripts = scripts' := by
  induction scripts generalizing scripts' with
  | nil =>
    cases scripts' with
    | nil => rfl
    | cons s scripts' => exact absurd h (hafter _ _)
  | cons s scripts ih =>
    cases scripts' with
    | nil => exact absurd h.symm (hafter' _ _)
    | cons s' scripts' =>
      obtain ⟨hs, hrest⟩ := List.cons.inj h
      rw [Action.shell.inj hs, ih hrest]

theorem isRun_call {invocation : Invocation} {actions : List Action} {scripts : List String} :
    IsRun (.call invocation :: actions) scripts ↔ IsRun actions scripts := by
  constructor
  · rintro ⟨before, after, h, hne, hbefore, hafter⟩
    cases before with
    | nil =>
      cases scripts with
      | nil => exact absurd rfl hne
      | cons s scripts => simp at h
    | cons a before =>
      obtain ⟨rfl, h⟩ := List.cons.inj h
      refine ⟨before, after, by simpa using h, hne, fun init s hinit => ?_, hafter⟩
      exact hbefore (.call invocation :: init) s (by rw [hinit]; rfl)
  · rintro ⟨before, after, rfl, hne, hbefore, hafter⟩
    refine ⟨.call invocation :: before, after, by simp, hne, fun init s hinit => ?_, hafter⟩
    cases init with
    | nil => simp at hinit
    | cons a init => exact hbefore init s (List.cons.inj hinit).2

theorem isRun_append {scripts run : List String} {after : List Action} (hne : scripts ≠ [])
    (hafter : ∀ s rest, after ≠ .shell s :: rest) :
    IsRun (scripts.map Action.shell ++ after) run ↔ run = scripts ∨ IsRun after run := by
  constructor
  · rintro ⟨before, tail, h, hrun, hbefore, htail⟩
    rw [List.append_assoc] at h
    rcases List.append_eq_append_iff.mp h with ⟨between, rfl, hrest⟩ | ⟨more, hscripts, hrest⟩
    · refine .inr ⟨between, tail, by simpa using hrest, hrun, fun init s hinit => ?_, htail⟩
      exact hbefore (scripts.map Action.shell ++ init) s (by simp [hinit])
    · left
      rcases List.eq_nil_or_concat before with rfl | ⟨init, last, rfl⟩
      · exact (run_unique (by simpa using h) hafter htail).symm
      · have hlast : last ∈ scripts.map Action.shell := by rw [hscripts]; simp
        obtain ⟨s, _, rfl⟩ := List.mem_map.mp hlast
        exact absurd (List.concat_eq_append ..) (hbefore init s)
  · rintro (rfl | ⟨before, tail, rfl, hrun, hbefore, htail⟩)
    · exact ⟨[], after, by simp, hne, by simp, hafter⟩
    · refine ⟨scripts.map Action.shell ++ before, tail, by simp, hrun, fun init s hinit => ?_, htail⟩
      rcases List.eq_nil_or_concat before with rfl | ⟨first, last, rfl⟩
      · obtain ⟨s, run, rfl⟩ := List.exists_cons_of_ne_nil hrun
        exact hafter s _ rfl
      · rw [List.concat_eq_append, ← List.append_assoc] at hinit
        obtain ⟨_, hlast⟩ := List.append_inj' hinit rfl
        exact hbefore first s (by rw [List.concat_eq_append, hlast])

theorem compact_ne_shell {after : List Action} (h : ∀ s rest, after ≠ .shell s :: rest) :
    ∀ s rest, compact after ≠ .shell s :: rest := by
  cases after with
  | nil => simp [compact]
  | cons a after =>
    cases a with
    | call invocation => simp [compact]
    | shell script => exact absurd rfl (h script after)

theorem compact_run {scripts : List String} {after : List Action} (hne : scripts ≠ [])
    (hafter : ∀ s rest, after ≠ .shell s :: rest) :
    compact (scripts.map Action.shell ++ after) = .shell (joined scripts) :: compact after := by
  induction scripts with
  | nil => exact absurd rfl hne
  | cons s scripts ih =>
    cases scripts with
    | nil =>
      rcases compact_shell s after with ⟨next, more, hnext, -⟩ | ⟨-, h⟩
      · exact absurd hnext (compact_ne_shell hafter next more)
      · simpa [joined] using h
    | cons t scripts =>
      have hrest := ih (by simp)
      rw [List.map_cons, List.cons_append, compact, hrest]
      simp [joined, String.intercalate_cons_cons, String.append_assoc]

/-- The scripts of a compacted list are what has been made of the runs. -/
theorem shell_mem_compact {actions : List Action} {text : String} :
    .shell text ∈ compact actions ↔ ∃ scripts, IsRun actions scripts ∧ text = joined scripts := by
  induction hk : actions.length using Nat.strong_induction_on generalizing actions with
  | _ k ih =>
    obtain ⟨scripts, after, rfl, hafter⟩ := exists_run actions
    by_cases hne : scripts = []
    · subst hne
      cases after with
      | nil => simp [compact, IsRun]
      | cons a after =>
        cases a with
        | shell script => exact absurd rfl (hafter script after)
        | call invocation =>
          have := ih after.length (by simp at hk; omega) rfl
          simpa [compact, isRun_call] using this
    · have hpos : 0 < scripts.length := List.length_pos_iff.mpr hne
      have hrest := ih after.length (by simp at hk; omega) rfl
      rw [compact_run hne hafter, List.mem_cons, Action.shell.injEq, hrest]
      simp only [isRun_append hne hafter, or_and_right, exists_or, exists_eq_left]

/-! ## Twice compacted -/

/-- A second compaction does no more than trim. -/
theorem compact_compact (actions : List Action) :
    compact (compact actions) = (compact actions).map Action.trimmed :=
  compact_of_apart (isChain_compact actions)

/-- Trimming takes something off a run of several scripts just if one at an end of it is blank. -/
theorem trimmed_joined_iff {scripts : List String} : Text.trimmed (joined scripts) = joined scripts ↔
    (2 ≤ scripts.length → ∀ s, s ∈ scripts.head? ∨ s ∈ scripts.getLast? →
      Text.isAllBlank s.toList = false) := by
  rcases scripts with _ | ⟨s, _ | ⟨t, scripts⟩⟩
  · exact iff_of_true rfl (by simp)
  · simp [joined]
  · obtain ⟨init, last, hlast⟩ := (List.eq_nil_or_concat (t :: scripts)).resolve_left (by simp)
    have hfirst : (joined (s :: t :: scripts)).toList =
        Text.trim s.toList ++ '\n' :: (joined (t :: scripts)).toList := by
      simp [joined, String.intercalate_cons_cons, Text.trimmed]
    have hend : (joined (s :: t :: scripts)).toList =
        (joined (s :: init)).toList ++ '\n' :: Text.trim last.toList := by
      rw [hlast, List.concat_eq_append, ← List.cons_append, joined, List.map_append,
        String.intercalate_append_of_ne_nil (by simp) (by simp)]
      simp [joined, Text.trimmed]
    rw [Text.trimmed_eq_self_iff, Text.trim_eq_self_iff]
    conv => lhs; left; rw [hfirst]
    conv => lhs; right; rw [hend]
    rw [Text.head?_trim_append_break, Text.getLast?_break_append_trim]
    have hget : (s :: t :: scripts).getLast? = some last := by
      rw [hlast, List.concat_eq_append, ← List.cons_append, List.getLast?_concat]
    simp [hget, or_imp, forall_and]

/-- Compacting twice is as good as three times, and as good as once unless there is a run of several
scripts with a blank one at an end of it. -/
theorem compact_compact_iff (actions : List Action) :
    (compact (compact actions) = compact actions ↔
      ∀ scripts, IsRun actions scripts → 2 ≤ scripts.length →
        ∀ s, s ∈ scripts.head? ∨ s ∈ scripts.getLast? → Text.isAllBlank s.toList = false) ∧
    compact (compact (compact actions)) = compact (compact actions) := by
  constructor
  · have hself : compact (compact actions) = compact actions ↔
        ∀ a ∈ compact actions, a.trimmed = a := by
      rw [compact_compact]
      conv => lhs; rhs; rw [← List.map_id (compact actions)]
      exact List.map_inj_left
    have hscripts : (∀ a ∈ compact actions, a.trimmed = a) ↔
        ∀ text, .shell text ∈ compact actions → Text.trimmed text = text := by
      constructor
      · exact fun h text htext => Action.shell.inj (h _ htext)
      · intro h a ha
        cases a with
        | call invocation => rfl
        | shell text => exact congrArg Action.shell (h text ha)
    rw [hself, hscripts]
    constructor
    · exact fun h scripts hrun =>
        trimmed_joined_iff.mp (h _ (shell_mem_compact.mpr ⟨scripts, hrun, rfl⟩))
    · intro h text htext
      obtain ⟨scripts, hrun, rfl⟩ := shell_mem_compact.mp htext
      exact trimmed_joined_iff.mpr (h scripts hrun)
  · rw [compact_compact (compact actions), compact_compact, List.map_map]
    refine List.map_congr_left fun a _ => ?_
    cases a <;> simp [Action.trimmed]

/-- A break is left at the end of a run whose last script is blank, and the next compaction trims it
off. -/
theorem compact_compact_blank : compact (compact [.shell "a", .shell ""]) ≠
    compact [.shell "a", .shell ""] := by
  decide

end Provision
