import Provision.Proofs.Document.WellFormed
import Provision.Proofs.Journal.Outputs
import Provision.Proofs.Pass.Chronicle

namespace Provision

theorem Configuration.isName_of_load {source text : String} {c : Configuration} {d : Document}
    (hparse : Document.parse text = .ok d) (hload : load source text = .ok c) {n : String}
    (hn : n ∈ c.graph.installOrder) : IsName n := by
  obtain ⟨ms, hget, -⟩ := complete_of_load hparse hload hn
  obtain ⟨rfl, -⟩ := (load_eq_ok_iff hparse).mp hload
  have hkey : n ∈ (ofDocument d).targets.keys :=
    List.mem_map_of_mem ((ofDocument d).targets.get?_eq_some_iff.mp hget)
  obtain ⟨i, hi, htarget⟩ := List.mem_filterMap.mp (TargetIndex.mem_keys_ofDocument.mp hkey)
  have hwell : i.WellFormed := (Document.wellFormed_of_parse hparse).items i hi
  cases i <;> simp [Item.target?] at htarget
  all_goals
    subst htarget
    exact hwell.1

namespace Journal

/-- What an entry wants to be filed. -/
def Entry.filing? : Entry → Option Filing
  | .event _ => none
  | .output _ target m o => some ⟨target, m, o⟩

def filings (notes : List Entry) : List Filing := notes.filterMap Entry.filing?

@[simp] theorem filings_append (notes more : List Entry) :
    filings (notes ++ more) = filings notes ++ filings more :=
  List.filterMap_append

@[simp] theorem filings_event (e : Event) (notes : List Entry) :
    filings (.event e :: notes) = filings notes := rfl

@[simp] theorem filings_output (run : Run) (target : String) (m : Method) (output : Output)
    (notes : List Entry) :
    filings (.output run target m output :: notes) = ⟨target, m, output⟩ :: filings notes := rfl

@[simp] theorem filings_nil : filings [] = [] := rfl

/-- What an entry wants to be filed belongs to a run, and is of a target with a proper name. -/
def Entry.BelongsTo (run : Run) : Entry → Prop
  | .event _ => True
  | .output other target _ _ => other = run ∧ IsName target

end Journal

namespace Pass

open Journal

variable {σ : Type} {c : Configuration}

/-- A runner that leaves the files below a directory alone, and the disk writable. -/
def Runner.Avoids (r : Runner σ) (writable : σ → Prop) (files : σ → Contents)
    (directory : String) : Prop :=
  ∀ kept, (r.machine none).Keeps fun w => writable w ∧ inside (files w) directory = kept

/-- As long as no target is noted twice for a method, the directory of a run holds what has been
noted. -/
theorem keeps_filed {r : Runner σ} {p : Place σ} {run : Journal.Run} {writable : σ → Prop}
    {there : String → σ → Prop} {files : σ → Contents}
    (hp : p.disk.Stores p.directory writable there files)
    (hr : r.Avoids writable files (run.path p.directory)) :
    (r.machine (some p)).recording.Keeps fun w => (∀ e ∈ w.2.notes, e.BelongsTo run) →
      ((filings w.2.notes).map Filing.key).Nodup →
        writable w.1 ∧ Filed (filings w.2.notes) (inside (files w.1) (run.path p.directory)) where
  run := by
    intro w hw command hnotes hnodup
    obtain ⟨hwritable, hfiled⟩ := hw hnotes hnodup
    obtain ⟨hkept, hsame⟩ := (hr _).run ⟨hwritable, rfl⟩ command
    exact ⟨hkept, hsame.symm ▸ hfiled⟩
  now := by
    intro w hw hnotes hnodup
    obtain ⟨hwritable, hfiled⟩ := hw hnotes hnodup
    obtain ⟨hkept, hsame⟩ := (hr _).now ⟨hwritable, rfl⟩
    exact ⟨hkept, hsame.symm ▸ hfiled⟩
  note := by
    intro w hw e hnotes hnodup
    have hearlier : ∀ e' ∈ w.2.notes, e'.BelongsTo run := fun e' he' =>
      hnotes e' (List.mem_append_left _ he')
    have hlast : e.BelongsTo run := hnotes e (List.mem_append_right _ (by simp))
    have hnodup : ((filings (w.2.notes ++ [e])).map Filing.key).Nodup := hnodup
    rw [filings_append, List.map_append] at hnodup
    obtain ⟨hwritable, hfiled⟩ := hw hearlier (List.nodup_append.mp hnodup).1
    cases e with
    | event e =>
      obtain ⟨hkept, hsame⟩ := hp.record_event hwritable (r.time w.1) e run
      rw [← hsame] at hfiled
      exact ⟨hkept, by simpa [Machine.recording, Runner.machine] using hfiled⟩
    | output run target m output =>
      obtain ⟨rfl, hname⟩ := hlast
      obtain ⟨hkept, hput⟩ := hp.record_output hwritable (r.time w.1) run hname m output
      -- What has been filed earlier is for another target, so it stays.
      have hfiled := hfiled.put (f := ⟨target, m, output⟩) fun hmem =>
        (List.nodup_append.mp hnodup).2.2 _ hmem _ (by simp) rfl
      rw [← hput] at hfiled
      exact ⟨hkept, by simpa [Machine.recording, Runner.machine] using hfiled⟩

/-! ## What is filed of runs of commands -/

/-- What is filed of the commands that have been run for targets. -/
def filingsOf (m : Method) (runs : List (String × List Trial)) : List Filing :=
  runs.filterMap fun (target, trials) => (failure? trials).map (⟨target, m, ·⟩)

section FilingsOf

variable {m : Method} {runs : List (String × List Trial)}

theorem mem_filingsOf {f : Filing} : f ∈ filingsOf m runs ↔
    f.method = m ∧ ∃ trials, (f.target, trials) ∈ runs ∧ failure? trials = some f.output := by
  obtain ⟨target, method, output⟩ := f
  simp only [filingsOf, List.mem_filterMap, Option.map_eq_some_iff, Filing.mk.injEq]
  constructor
  · rintro ⟨⟨_, trials⟩, hmem, _, hfailure, rfl, rfl, rfl⟩
    exact ⟨rfl, trials, hmem, hfailure⟩
  · rintro ⟨rfl, trials, hmem, hfailure⟩
    exact ⟨_, hmem, output, hfailure, rfl, rfl, rfl⟩

theorem filingsOf_cons (target : String) (trials : List Trial) (runs : List (String × List Trial)) :
    filingsOf m ((target, trials) :: runs) =
      ((failure? trials).map (⟨target, m, ·⟩)).toList ++ filingsOf m runs := by
  cases hf : failure? trials <;> simp [filingsOf, hf]

/-- Where each of some notes is about the commands of its own target, so are all. -/
theorem filings_flatMap {α : Type} {l : List α} {notes : α → List Entry}
    {key : α → String × List Trial} (h : ∀ a ∈ l, filings (notes a) =
      ((failure? (key a).2).map (⟨(key a).1, m, ·⟩)).toList) :
    filings (l.flatMap notes) = filingsOf m (l.map key) := by
  induction l with
  | nil => rfl
  | cons a l ih =>
    obtain ⟨ha, hl⟩ := List.forall_mem_cons.mp h
    rw [List.flatMap_cons, filings_append, ha, ih hl, List.map_cons, filingsOf_cons]

theorem nodup_filingsOf (h : (runs.map Prod.fst).Nodup) :
    ((filingsOf m runs).map Filing.key).Nodup := by
  induction runs with
  | nil => simp [filingsOf]
  | cons head rest ih =>
    obtain ⟨target, trials⟩ := head
    obtain ⟨hnew, hrest⟩ := List.nodup_cons.mp h
    rw [filingsOf_cons]
    cases failure? trials with
    | none => exact ih hrest
    | some output =>
      refine List.nodup_cons.mpr ⟨fun hmem => hnew ?_, ih hrest⟩
      obtain ⟨f, hf, heq⟩ := List.mem_map.mp hmem
      obtain ⟨-, trials', hmem', -⟩ := mem_filingsOf.mp hf
      obtain rfl : f.target = target := congrArg Prod.fst heq
      exact List.mem_map.mpr ⟨_, hmem', rfl⟩

end FilingsOf

/-- A directory holds two files for each of some targets, and no others. In them is what has been
written by the first command that failed, of those that have been run for the target itself. -/
structure Holds (m : Method) (targets : List String) (runs : List (String × List Trial))
    (contents : Contents) : Prop where
  own : ∀ n ∈ targets, ∃ trials last, (n, trials) ∈ runs ∧ EndedBy trials last ∧
    ∀ s, contents (fileName n m s) = some (Text.encode (sectioned s (last.output.text s)))
  only : ∀ name, contents name ≠ none → ∃ n ∈ targets, ∃ s, name = fileName n m s
  nodup : (targets.flatMap fun n => [fileName n m .stdout, fileName n m .stderr]).Nodup

theorem nodup_fileNames {targets : List String} (h : targets.Nodup) (m : Method) :
    (targets.flatMap fun n => [fileName n m .stdout, fileName n m .stderr]).Nodup := by
  refine List.nodup_flatMap.mpr ⟨fun n _ => ?_, h.imp fun {a b} hne => ?_⟩
  · have hstream : fileName n m .stdout ≠ fileName n m .stderr := fun heq => by
      cases (fileName_inj heq).2.2
    simp [hstream]
  · have htarget (s t : Stream) : fileName b m s ≠ fileName a m t :=
      fun heq => hne (fileName_inj heq).1.symm
    simp [htarget]

theorem holds_of_filed {m : Method} {targets : List String} {runs : List (String × List Trial)}
    {contents : Contents} (h : Filed (filingsOf m runs) contents)
    (htried : ∀ n trials, (n, trials) ∈ runs →
      ∃ commands, Tried commands trials (failure? trials).isNone)
    (htargets : ∀ n, n ∈ targets ↔ ∃ trials, (n, trials) ∈ runs ∧ failure? trials ≠ none)
    (hnodup : targets.Nodup) : Holds m targets runs contents where
  own := by
    intro n hn
    obtain ⟨trials, hmem, hfailure⟩ := (htargets n).mp hn
    obtain ⟨output, houtput⟩ := Option.ne_none_iff_exists'.mp hfailure
    obtain ⟨commands, ht⟩ := htried n trials hmem
    obtain ⟨last, hlast⟩ := ht.exists_endedBy (by simp [houtput])
    have hf : (⟨n, m, last.output⟩ : Filing) ∈ filingsOf m runs :=
      mem_filingsOf.mpr ⟨rfl, trials, hmem, hlast.failure?_eq⟩
    exact ⟨trials, last, hmem, hlast, h.held _ hf⟩
  only := by
    intro name hname
    obtain ⟨f, hf, s, hs⟩ := h.only name hname
    obtain ⟨rfl, trials, hmem, hfailure⟩ := mem_filingsOf.mp hf
    exact ⟨f.target, (htargets _).mpr ⟨trials, hmem, by simp [hfailure]⟩, s, hs⟩
  nodup := nodup_fileNames hnodup m

/-! ## What is filed of passes -/

/-- What a status pass has left in the directory of its run: the output of the checks of all targets
that it has not found installed. -/
def CheckedInto (c : Configuration) (report : StatusReport) (trials : List Trial)
    (contents : Contents) : Prop :=
  ∃ checks : List Check, checks.map Check.target = c.graph.installOrder ∧
    trials = checks.flatMap Check.trials ∧ (∀ k ∈ checks, k.Judged c report) ∧
    Holds .isSetup (c.graph.installOrder.filter (· ∉ report.installed))
      (checks.map fun k => (k.target, k.trials)) contents

/-- What an install pass has left in the directory of its run: the output of the attempts at all
targets that it reports as errors. -/
def InstalledInto (c : Configuration) (needed : List String) (report : InstallReport)
    (trials : List Trial) (contents : Contents) : Prop :=
  ∃ attempts : List Attempt, attempts.map Attempt.target =
      c.graph.installOrder.filter (fun n => n ∈ needed ∧ n ∉ report.skipped) ∧
    trials = attempts.flatMap Attempt.trials ∧ (∀ a ∈ attempts, a.Faithful c) ∧
    Holds .setup report.errors (attempts.map fun a => (a.target, a.trials)) contents

theorem classify_eq_installed_iff {failure : Option Output} :
    classify failure = .installed ↔ failure = none := by
  cases failure with
  | none => simp [classify]
  | some output =>
    rw [classify]
    split <;> simp

section Inspected

variable {run : Journal.Run} {ks : List Inspection} {r : Result StatusReport (σ × Record)}

theorem Inspected.filings_notes (h : Inspected c run ks r) :
    filings r.world.2.notes = filingsOf .isSetup (ks.map fun k => (k.target, k.trials)) := by
  have hinspections : filings (ks.flatMap (·.notes run)) =
      filingsOf .isSetup (ks.map fun k => (k.target, k.trials)) :=
    filings_flatMap fun k _ => by
      cases hf : failure? k.trials <;> simp [Inspection.notes, hf]
  rw [h.notes]
  simp [hinspections]

theorem Inspected.belongsTo (h : Inspected c run ks r)
    (hnames : ∀ n ∈ c.graph.installOrder, IsName n) : ∀ e ∈ r.world.2.notes, e.BelongsTo run := by
  have hinspection : ∀ k ∈ ks, ∀ e ∈ k.notes run, e.BelongsTo run := by
    intro k hk e he
    have hname : IsName k.target := hnames _ (h.targets ▸ List.mem_map_of_mem hk)
    cases hf : failure? k.trials <;> simp [Inspection.notes, hf] at he
    · exact he ▸ trivial
    · rcases he with rfl | rfl
      · exact ⟨rfl, hname⟩
      · trivial
  intro e he
  rw [h.notes] at he
  simp only [List.cons_append, List.mem_cons, List.mem_append, List.mem_flatMap,
    List.not_mem_nil, or_false] at he
  rcases he with rfl | ⟨k, hk, he⟩ | rfl
  · trivial
  · exact hinspection k hk e he
  · trivial

theorem Inspected.checkedInto (h : Inspected c run ks r) (hc : c.Loaded)
    {contents : Contents} (hfiled : Filed (filings r.world.2.notes) contents) :
    CheckedInto c r.report r.world.2.trials contents := by
  have horder := Graph.nodup_installOrder hc.source
  have hnodup := h.checks_target ▸ horder
  refine ⟨ks.map (·.toCheck), h.checks_target, h.survey.trials,
    fun k hk => h.survey.judged hnodup hk, ?_⟩
  have hinstalled : ∀ k ∈ ks, k.target ∈ r.report.installed ↔ failure? k.trials = none := by
    intro k hk
    obtain ⟨-, -, hstatus⟩ := h.faithful k hk
    have hlisted := h.survey.target_mem_listed_iff hnodup
      (List.mem_map_of_mem (f := (·.toCheck)) hk) .installed
    rw [← classify_eq_installed_iff, ← hstatus]
    exact hlisted
  rw [h.filings_notes] at hfiled
  rw [List.map_map]
  refine holds_of_filed hfiled (fun n trials hmem => ?_) (fun n => ?_) (horder.filter _)
  · obtain ⟨k, hk, heq⟩ := List.mem_map.mp hmem
    obtain ⟨rfl, rfl⟩ := Prod.mk.inj heq
    exact ⟨k.commands, (h.faithful k hk).2.1⟩
  · rw [← h.targets]
    constructor
    · intro hn
      obtain ⟨hn, hmissing⟩ := List.mem_filter.mp hn
      obtain ⟨k, hk, rfl⟩ := List.mem_map.mp hn
      refine ⟨k.trials, List.mem_map.mpr ⟨k, hk, rfl⟩, fun hnone => ?_⟩
      simp [(hinstalled k hk).mpr hnone] at hmissing
    · rintro ⟨trials, hmem, hfailure⟩
      obtain ⟨k, hk, heq⟩ := List.mem_map.mp hmem
      obtain ⟨rfl, rfl⟩ := Prod.mk.inj heq
      refine List.mem_filter.mpr ⟨List.mem_map_of_mem hk, ?_⟩
      simpa [hinstalled k hk] using hfailure

end Inspected

section Operated

variable {needed : List String} {run : Journal.Run} {h : Graph.History} {os : List Operation}
  {r : Result InstallReport (σ × Record)}

theorem Operated.filings_notes (ho : Operated c needed run h os r) :
    filings r.world.2.notes = filingsOf .setup (os.map fun o => (o.target, o.trials)) := by
  have hoperations : filings (os.flatMap (·.notes run)) =
      filingsOf .setup (os.map fun o => (o.target, o.trials)) :=
    filings_flatMap fun o ho' => by
      obtain ⟨-, -, hsuccess⟩ := ho.performed o ho'
      cases hf : failure? o.trials <;> simp [Operation.notes, failureNotes, hsuccess, hf]
  have hskipped : filings (r.report.skipped.map fun n => .event (.targetSkipped n)) = [] := by
    simp [filings, List.filterMap_map, Function.comp_def, Entry.filing?]
  rw [ho.notes]
  simp [hoperations, hskipped]

theorem Operated.belongsTo (ho : Operated c needed run h os r)
    (hnames : ∀ n ∈ c.graph.installOrder, IsName n) : ∀ e ∈ r.world.2.notes, e.BelongsTo run := by
  have hoperation : ∀ o ∈ os, ∀ e ∈ o.notes run, e.BelongsTo run := by
    intro o hmem e he
    have htarget : o.target ∈ os.map (·.target) := List.mem_map_of_mem hmem
    rw [ho.targets] at htarget
    have hname : IsName o.target := hnames _ (List.mem_filter.mp htarget).1
    rcases List.mem_append.mp he with he | he
    · cases hf : failure? o.trials <;> simp [failureNotes, hf] at he
      rcases he with rfl | rfl
      · exact ⟨rfl, hname⟩
      · trivial
    · split at he
      · exact List.mem_singleton.mp he ▸ trivial
      · cases he
  intro e he
  rw [ho.notes] at he
  simp only [List.cons_append, List.mem_cons, List.mem_append, List.mem_flatMap, List.mem_map,
    List.not_mem_nil, or_false] at he
  rcases he with rfl | (⟨o, hmem, he⟩ | ⟨n, -, rfl⟩) | rfl
  · trivial
  · exact hoperation o hmem e he
  · trivial
  · trivial

theorem Operated.installedInto (ho : Operated c needed run h os r)
    {contents : Contents} (hfiled : Filed (filings r.world.2.notes) contents) :
    InstalledInto c needed r.report r.world.2.trials contents := by
  refine ⟨os.map (·.toAttempt), ?_, ho.trials, ho.faithful, ?_⟩
  · rw [List.map_map]
    exact ho.targets
  rw [ho.filings_notes] at hfiled
  rw [List.map_map]
  refine holds_of_filed hfiled (fun n trials hmem => ?_) (fun n => ?_)
    (List.nodup_append.mp (ho.toAccount.nodup ho.finished.schedule)).2.1
  · obtain ⟨o, ho', heq⟩ := List.mem_map.mp hmem
    obtain ⟨rfl, rfl⟩ := Prod.mk.inj heq
    obtain ⟨-, ht, hsuccess⟩ := ho.performed o ho'
    exact ⟨o.commands, hsuccess ▸ ht⟩
  · have hfail : ∀ o ∈ os, o.success = false ↔ failure? o.trials ≠ none := by
      intro o hmem
      obtain ⟨-, -, hsuccess⟩ := ho.performed o hmem
      rw [hsuccess]
      cases failure? o.trials <;> simp
    rw [ho.errors]
    constructor
    · intro hn
      obtain ⟨a, ha, rfl⟩ := List.mem_map.mp hn
      obtain ⟨ha, hsuccess⟩ := List.mem_filter.mp ha
      obtain ⟨o, hmem, rfl⟩ := List.mem_map.mp ha
      exact ⟨o.trials, List.mem_map.mpr ⟨o, hmem, rfl⟩, (hfail o hmem).mp (by simpa using hsuccess)⟩
    · rintro ⟨trials, hmem, hfailure⟩
      obtain ⟨o, ho', heq⟩ := List.mem_map.mp hmem
      obtain ⟨rfl, rfl⟩ := Prod.mk.inj heq
      have hsuccess := (hfail o ho').mpr hfailure
      exact List.mem_map.mpr ⟨o.toAttempt,
        List.mem_filter.mpr ⟨List.mem_map_of_mem ho', by simp [hsuccess]⟩, rfl⟩

end Operated

/-- In a fresh directory for the run of a pass there are in the end two files for each target of
which a command has failed, with the output of that command, and no others. -/
theorem filed_of_load {source text : String} {d : Document}
    (hparse : Document.parse text = .ok d) (hload : Configuration.load source text = .ok c)
    (hroot : Graph.root ∉ d.names) (r : Runner σ) (p : Place σ) {writable : σ → Prop}
    {there : String → σ → Prop} {files : σ → Contents}
    (hp : p.disk.Stores p.directory writable there files) (status : StatusReport) (w : σ)
    (hw : writable w) :
    let machine := r.machine (some p)
    let checked := checkAll machine.recording c (w, ⟨[], []⟩)
    let installed := installAll machine.recording c status (w, ⟨[], []⟩)
    let directory := (Run.ofTime (r.now w).1).path p.directory
    r.Avoids writable files directory → (∀ name, inside (files w) directory name = none) →
      (checkAll machine c w = checked.through Prod.fst ∧
        CheckedInto c checked.report checked.world.2.trials
          (inside (files checked.world.1) directory)) ∧
      (installAll machine c status w = installed.through Prod.fst ∧
        InstalledInto c status.needed installed.report installed.world.2.trials
          (inside (files installed.world.1) directory)) := by
  intro machine checked installed directory hr hfresh
  have hc := Configuration.loaded_of_load hparse hload hroot
  have hnames : ∀ n ∈ c.graph.installOrder, IsName n := fun n =>
    Configuration.isName_of_load hparse hload
  have hcommands (n : String) (hn : n ∈ c.graph.installOrder) :=
    hc.commands n (Graph.mem_names_of_mem_installOrder hc.source hn) .isSetup
  obtain ⟨ks, hchecked⟩ := checkAll_inspections machine hcommands w
  obtain ⟨h, os, hinstalled⟩ := installAll_operations machine hc status w
  have hempty : Filed [] (inside (files w) directory) :=
    ⟨by simp, fun name hname => absurd (hfresh name) hname⟩
  have hkeeps := keeps_filed hp hr
  refine ⟨⟨(mirrors_recording machine).checkAll c (w, ⟨[], []⟩), hchecked.checkedInto hc ?_⟩,
    (mirrors_recording machine).installAll c status (w, ⟨[], []⟩), hinstalled.installedInto ?_⟩
  · refine (hkeeps.checkAll c (w := (w, ⟨[], []⟩)) (fun _ _ => ⟨hw, hempty⟩)
      (hchecked.belongsTo hnames) ?_).2
    rw [hchecked.filings_notes]
    refine nodup_filingsOf ?_
    rw [List.map_map]
    exact hchecked.targets ▸ Graph.nodup_installOrder hc.source
  · refine (hkeeps.installAll c status (w := (w, ⟨[], []⟩)) (fun _ _ => ⟨hw, hempty⟩)
      (hinstalled.belongsTo hnames) ?_).2
    rw [hinstalled.filings_notes]
    refine nodup_filingsOf ?_
    rw [List.map_map]
    exact hinstalled.targets ▸ (Graph.nodup_installOrder hc.source).filter _

/-- What runs beside a disk stays out of its directories. -/
theorem avoids_beside {τ : Type} (machine : Machine σ) (writable : τ → Prop)
    (files : τ → Contents) (directory : String) :
    (machine.beside τ).Avoids (fun w => writable w.2) (fun w => files w.2) directory :=
  fun _ => ⟨fun hw _ => hw, fun hw => hw, fun hw _ => hw⟩

/-- A journal in a cabinet, beside a workshop. -/
def filingCabinet : Place (List String × Cabinet) := ⟨"notes", Disk.cabinet.beside (List String)⟩

theorem filed_blunt :
    let c := Configuration.ofDocument Configuration.workshop
    let r := blunt.beside Cabinet
    let machine := r.machine (some filingCabinet)
    let w : List String × Cabinet := ([], ⟨[], fun _ => none⟩)
    let status : StatusReport := ⟨["base", "drill"], [], ["saw"]⟩
    let checked := checkAll machine.recording c (w, ⟨[], []⟩)
    let installed := installAll machine.recording c status (w, ⟨[], []⟩)
    let directory := (Run.ofTime 0).path "notes"
    (Graph.root ∉ Configuration.workshop.names ∧
      ∀ name, inside w.2.files directory name = none) ∧
    (checked.report = status ∧ installed.report = ⟨[], ["saw"], ["drill"]⟩) ∧
    (checkAll machine c w = checked.through Prod.fst ∧
      CheckedInto c checked.report checked.world.2.trials
        (inside checked.world.1.2.files directory)) ∧
    (installAll machine c status w = installed.through Prod.fst ∧
      InstalledInto c status.needed installed.report installed.world.2.trials
        (inside installed.world.1.2.files directory)) := by
  have hroot : Graph.root ∉ Configuration.workshop.names := by decide
  have hstores : filingCabinet.disk.Stores "notes" (fun _ => True)
      (fun path w => path ∈ w.2.directories) fun w => w.2.files :=
    (Disk.stores_cabinet "notes").on fun _ _ => rfl
  obtain ⟨hchecked, hinstalled⟩ := filed_of_load Configuration.parse_workshop
    Configuration.load_workshop hroot (blunt.beside Cabinet) filingCabinet hstores
    ⟨["base", "drill"], [], ["saw"]⟩ ([], ⟨[], fun _ => none⟩) trivial
    (avoids_beside blunt (fun _ => True) Cabinet.files _) fun _ => rfl
  exact ⟨⟨hroot, fun _ => rfl⟩, ⟨by decide +kernel, by decide +kernel⟩, hchecked, hinstalled⟩

end Pass

end Provision
