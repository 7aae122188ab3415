import Provision.Proofs.Graph.Run

namespace Provision.Graph

variable {g : Graph} {σ τ : Type}

/-- A property of a state and of the visits so far that each visit keeps holds at the end of a
walk. -/
theorem walkFrom_log (hs : g.HasSource) {visit : σ → String → Bool × σ}
    {I : History → σ → Prop}
    (hstep : ∀ h s n, I h s → g.Schedule (h ++ [(n, (visit s n).1)]) →
      I (h ++ [(n, (visit s n).1)]) (visit s n).2)
    {log : Traversal.Log} {t : Traversal} {s : σ} {success : Bool}
    (ht : Traversal.Sound g log t)
    (hI : I (log.history ++ t.current.toList.map (·, success)) s) :
    ∃ log' t', Traversal.Ended g log' t' ∧ I log'.history (g.walkFrom visit s t success).2 ∧
      (g.walkFrom visit s t success).1 = t'.unvisited g := by
  fun_induction walkFrom g visit s t success generalizing log with
  | case1 s t success n t' hadvance success' s' hvisit ih =>
    obtain ⟨more, ht', hhistory, hanswer⟩ := ht.advance hs success
    rw [hadvance] at ht' hanswer
    rcases hanswer with ⟨m, hm, hcurrent⟩ | ⟨hdone, _⟩
    · obtain rfl : n = m := by simpa using hm
      obtain ⟨_, _, hsched, _, hreport⟩ := ht'.report hs success'
      have hstep' := hstep (Traversal.Log.history (log ++ more)) s n (hhistory ▸ hI)
      rw [hvisit] at hstep'
      rw [hreport, hcurrent] at hsched
      refine ih ht' ?_
      rw [hcurrent]
      exact hstep' hsched
    · simp at hdone
  | case2 s t success unvisited t' hadvance =>
    obtain ⟨more, ht', hhistory, hanswer⟩ := ht.advance hs success
    rw [hadvance] at ht' hanswer
    rcases hanswer with ⟨m, hm, _⟩ | ⟨hdone, hcurrent, hqueue⟩
    · simp at hm
    · exact ⟨log ++ more, t', ⟨ht', hcurrent, hqueue⟩, hhistory ▸ hI, by simpa using hdone⟩

theorem walk_log (hs : g.HasSource) (visit : σ → String → Bool × σ) {I : History → σ → Prop}
    {s : σ} (hstart : I [] s)
    (hstep : ∀ h s n, I h s → g.Schedule (h ++ [(n, (visit s n).1)]) →
      I (h ++ [(n, (visit s n).1)]) (visit s n).2) :
    ∃ log t, Traversal.Ended g log t ∧ I log.history (g.walk visit s).2 ∧
      (g.walk visit s).1 = t.unvisited g := by
  exact walkFrom_log hs hstep (Traversal.Sound.start hs) (by simpa using hstart)

/-- What each visit keeps holds at the end of any walk, over any graph. -/
theorem walkFrom_keeps {visit : σ → String → Bool × σ} {I : σ → Prop}
    (hstep : ∀ s n, I s → I (visit s n).2) {s : σ} (hs : I s) (t : Traversal) (success : Bool) :
    I (g.walkFrom visit s t success).2 := by
  fun_induction walkFrom g visit s t success with
  | case1 s t success n t' _ success' s' hvisit ih =>
    have hkept := hstep s n hs
    rw [hvisit] at hkept
    exact ih hkept
  | case2 => exact hs

/-- Two walks whose visits do alike in related states leave the same targets out. -/
theorem walkFrom_agree {R : σ → τ → Prop} {visit : σ → String → Bool × σ}
    {visit' : τ → String → Bool × τ}
    (hvisit : ∀ {s u}, R s u → ∀ n, (visit s n).1 = (visit' u n).1 ∧
      R (visit s n).2 (visit' u n).2) {s : σ} {u : τ} (hs : R s u) (t : Traversal)
    (success : Bool) :
    (g.walkFrom visit s t success).1 = (g.walkFrom visit' u t success).1 ∧
      R (g.walkFrom visit s t success).2 (g.walkFrom visit' u t success).2 := by
  fun_induction walkFrom g visit' u t success generalizing s with
  | case1 u t success n t' hadvance success' u' hv ih =>
    obtain ⟨hsuccess, hstates⟩ := hvisit hs n
    rw [hv] at hsuccess hstates
    -- The traversal is the same on both sides as long as the visits report the same.
    rw [walkFrom]
    split
    · next m t'' heq =>
      obtain ⟨rfl, rfl⟩ : n = m ∧ t' = t'' := by simpa [hadvance] using heq
      obtain rfl : (visit s n).1 = success' := hsuccess
      exact ih hstates
    · next heq => simp [hadvance] at heq
  | case2 u t success unvisited t' hadvance =>
    rw [walkFrom]
    split
    · next heq => simp [hadvance] at heq
    · next heq =>
      obtain ⟨rfl, -⟩ : unvisited = _ ∧ t' = _ := by simpa [hadvance] using heq
      exact ⟨rfl, hs⟩

theorem walk_agree {R : σ → τ → Prop} {visit : σ → String → Bool × σ}
    {visit' : τ → String → Bool × τ}
    (hvisit : ∀ {s u}, R s u → ∀ n, (visit s n).1 = (visit' u n).1 ∧
      R (visit s n).2 (visit' u n).2) {s : σ} {u : τ} (hs : R s u) :
    (g.walk visit s).1 = (g.walk visit' u).1 ∧ R (g.walk visit s).2 (g.walk visit' u).2 :=
  walkFrom_agree hvisit hs _ _

/-- The order of installation is a walk without a failure. -/
theorem installOrder_log (hs : g.HasSource) :
    ∃ log t, Traversal.Ended g log t ∧ log.history = g.installOrder.map (·, true) := by
  obtain ⟨log, t, hend, hI, _⟩ := walk_log hs (fun order n => (true, order ++ [n]))
    (I := fun h order => h = order.map (·, true)) (s := []) rfl
    (by rintro h order n rfl _; simp)
  exact ⟨log, t, hend, hI⟩

theorem installOrder_finished (hs : g.HasSource) :
    ∃ unvisited, g.Finished (g.installOrder.map (·, true)) unvisited := by
  obtain ⟨log, t, hend, hlog⟩ := installOrder_log hs
  exact ⟨t.unvisited g, hlog ▸ hend.finished⟩

theorem nodup_installOrder (hs : g.HasSource) : g.installOrder.Nodup := by
  obtain ⟨_, hf⟩ := installOrder_finished hs
  simpa [Function.comp_def] using hf.schedule.nodup

theorem mem_names_of_mem_installOrder (hs : g.HasSource) {n : String}
    (hn : n ∈ g.installOrder) : n ∈ g.names := by
  obtain ⟨_, hf⟩ := installOrder_finished hs
  exact hf.schedule.mem_names (by simpa using hn)

/-- The order holds the targets that are neither on a cycle nor behind one. -/
theorem mem_installOrder (hs : g.HasSource) {n : String} :
    n ∈ g.installOrder ↔ n ∈ g.names ∧ ∀ c, g.Reaches c c → ¬ g.Reaches c n := by
  obtain ⟨unvisited, hf⟩ := installOrder_finished hs
  constructor
  · intro hn
    refine ⟨mem_names_of_mem_installOrder hs hn, fun c hc hr => ?_⟩
    have hmem : (n, true) ∈ g.installOrder.map (·, true) := List.mem_map_of_mem hn
    obtain ⟨before, after, he⟩ := List.append_of_mem hmem
    rcases hf.schedule.reaches_before hs hr he with rfl | hbefore
    · exact g.root_not_mem (hc.target hs)
    · refine hf.schedule.not_reaches_self hs ?_ hc
      rw [he]
      exact List.mem_map_of_mem (f := Prod.fst) (List.mem_append_left _ hbefore)
  · rintro ⟨hn, hclear⟩
    -- What stands above the target is not behind a cycle either, so it is in the order already.
    induction acc_edge hclear with
    | intro n _ ih =>
      suffices hvisited : n ∈ (g.installOrder.map (·, true)).map Prod.fst by simpa using hvisited
      refine hf.exhausted n hn fun p hp => ?_
      by_cases hroot : p = root
      · exact .inl hroot
      · have hpn : p ∈ g.names := (List.mem_cons.mp (g.ends_mem _ hp).1).resolve_left hroot
        have horder := ih p hp hpn fun c hc hr => hclear c hc (hr.snoc hp)
        exact .inr (List.mem_map_of_mem horder)

/-- In an acyclic graph every target has its place in the order. -/
theorem mem_installOrder_iff (hs : g.HasSource) (ha : g.Acyclic) {n : String} :
    n ∈ g.installOrder ↔ n ∈ g.names := by
  rw [mem_installOrder hs]
  exact and_iff_left fun c hc => absurd hc (ha c)

theorem acyclic_of_installOrder (hs : g.HasSource) (hall : ∀ n ∈ g.names, n ∈ g.installOrder) :
    g.Acyclic :=
  fun n hr => ((mem_installOrder hs).mp (hall n (hr.target hs))).2 n hr hr

/-- A dependency comes before its dependents. -/
theorem idxOf_lt_of_edge (hs : g.HasSource) {p n : String} (hp : g.Edge p n) (hroot : p ≠ root)
    (hn : n ∈ g.installOrder) : g.installOrder.idxOf p < g.installOrder.idxOf n := by
  obtain ⟨_, hf⟩ := installOrder_finished hs
  have hi : (g.installOrder.map (·, true))[g.installOrder.idxOf n]? = some (n, true) := by
    simp [List.getElem?_eq_getElem (List.idxOf_lt_length_of_mem hn)]
  obtain ⟨j, hj, hget⟩ := (hf.schedule.ready_at hi hp).resolve_left hroot
  have hget : g.installOrder[j]? = some p := by simpa using hget
  have hle : g.installOrder.idxOf p ≤ j := by
    obtain ⟨hlt, rfl⟩ := List.getElem?_eq_some_iff.mp hget
    exact ((nodup_installOrder hs).idxOf_getElem j hlt).le
  exact hle.trans_lt hj

end Provision.Graph
