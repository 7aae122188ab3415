import Provision.Proofs.Journal.Disk
import Provision.Proofs.Pass.Classification
import Provision.Proofs.Pass.Evidence

namespace Provision

namespace Journal

def Entry.event? : Entry → Option Event
  | .event e => some e
  | .output .. => none

/-- The events among entries. -/
def events (notes : List Entry) : List Event := notes.filterMap Entry.event?

@[simp] theorem events_append (notes more : List Entry) :
    events (notes ++ more) = events notes ++ events more :=
  List.filterMap_append

@[simp] theorem events_event (e : Event) (notes : List Entry) :
    events (.event e :: notes) = e :: events notes := rfl

@[simp] theorem events_output (run : Run) (target : String) (m : Method) (output : Output)
    (notes : List Entry) : events (.output run target m output :: notes) = events notes := rfl

@[simp] theorem events_nil : events [] = [] := rfl

theorem events_flatMap {α : Type} (l : List α) (f : α → List Entry) :
    events (l.flatMap f) = l.flatMap fun a => events (f a) :=
  List.filterMap_flatMap

/-- How a target has come out that an event tells of. -/
def Event.outcome? : Event → Option State
  | .runStarted .. | .runCompleted .. => none
  | .targetChecked _ status _ => some status.state
  | .targetInstalled .. => some .installed
  | .targetFailed .. => some .error
  | .targetSkipped _ => some .skipped

/-- How many of the events tell of an outcome. -/
def tally (s : State) (events : List Event) : Nat := events.countP (·.outcome? = some s)

theorem tally_append (s : State) (events more : List Event) :
    tally s (events ++ more) = tally s events + tally s more :=
  List.countP_append

/-- A run from its start to its end, which has the name of the run and counts the outcomes in
between. -/
def Encloses (kind : PassKind) (events inner : List Event) : Prop :=
  ∃ id seconds, events = .runStarted id kind.name Pass.version :: inner ++
    [.runCompleted id kind.name (UInt32.ofNat (tally .installed inner))
      (UInt32.ofNat (tally .error inner)) (UInt32.ofNat (tally .skipped inner)) seconds]

/-- A log has grown by the lines of events, each of them written at some time. -/
def Grown (before after : List UInt8) (events : List Event) : Prop :=
  ∃ times : List Nat, times.length = events.length ∧
    after = before ++ (List.zipWith Event.written events times).flatten

theorem Grown.refl (log : List UInt8) : Grown log log [] := ⟨[], rfl, by simp⟩

theorem Grown.snoc {before after : List UInt8} {events : List Event}
    (h : Grown before after events) (e : Event) (time : Nat) :
    Grown before (after ++ e.written time) (events ++ [e]) := by
  obtain ⟨times, hlength, rfl⟩ := h
  refine ⟨times ++ [time], by simp [hlength], ?_⟩
  rw [List.zipWith_append hlength.symm]
  simp

end Journal

namespace Pass

open Journal

variable {σ : Type} {c : Configuration}

/-- What the log tells of a status pass: of each target in the order of installation, where the
report has it. -/
def CheckedIn (c : Configuration) (report : StatusReport) (events : List Event) : Prop :=
  ∃ inner, Encloses .status events inner ∧
    List.Forall₂ (fun n e => ∃ status seconds, e = .targetChecked n status seconds ∧
      n ∈ report.listed status) c.graph.installOrder inner

/-- What the log tells of an attempt agrees with the report. -/
structure Attempt.ToldBy (a : Attempt) (report : InstallReport) (e : Event) : Prop where
  reported : a.target ∈ report.installed ∨ a.target ∈ report.errors
  installed : a.target ∈ report.installed ↔ ∃ seconds, e = .targetInstalled a.target seconds
  errors : a.target ∈ report.errors ↔ ∃ last, EndedBy a.trials last ∧
    e = .targetFailed a.target .setup last.output.exit

/-- What the log tells of an install pass: of each attempt, in the order of installation, and then
of each target that has been left out. -/
def InstalledIn (c : Configuration) (needed : List String) (report : InstallReport)
    (trials : List Trial) (events : List Event) : Prop :=
  ∃ attempts inner, Encloses .install events (inner ++ report.skipped.map .targetSkipped) ∧
    attempts.map Attempt.target =
      c.graph.installOrder.filter (fun n => n ∈ needed ∧ n ∉ report.skipped) ∧
    trials = attempts.flatMap Attempt.trials ∧ (∀ a ∈ attempts, a.Faithful c) ∧
    List.Forall₂ (Attempt.ToldBy · report) attempts inner

/-! ## The log of a status pass -/

def Inspection.event (k : Inspection) : Event :=
  .targetChecked k.target k.status (toSeconds k.duration)

theorem Inspection.events_notes (k : Inspection) (run : Journal.Run) :
    events (k.notes run) = [k.event] := by
  cases h : failure? k.trials <;> simp [notes, h, event]

theorem Inspection.outcome?_event (k : Inspection) : k.event.outcome? = some k.status.state := rfl

section Inspected

variable {run : Journal.Run} {ks : List Inspection} {r : Result StatusReport (σ × Record)}

theorem Inspected.events_notes (h : Inspected c run ks r) :
    events r.world.2.notes = .runStarted run.id PassKind.status.name version ::
      ks.map Inspection.event ++
      [.runCompleted run.id PassKind.status.name (UInt32.ofNat r.report.installed.length)
        (UInt32.ofNat r.report.errors.length) 0 (toSeconds r.duration)] := by
  rw [h.notes]
  simp [events_flatMap, Inspection.events_notes, List.map_eq_flatMap]

theorem Inspected.tally_inspections (h : Inspected c run ks r) (s : Status) :
    tally s.state (ks.map Inspection.event) = (r.report.listed s).length := by
  have hstate (k : Inspection) : (k.status.state = s.state) = (k.status = s) := by
    cases k.status <;> cases s <;> simp [Status.state]
  simp [tally, h.survey.listed, ← List.countP_eq_length_filter, List.countP_map,
    Function.comp_def, Inspection.outcome?_event, hstate]

theorem Inspected.encloses (h : Inspected c run ks r) :
    Encloses .status (events r.world.2.notes) (ks.map Inspection.event) := by
  have hinstalled : tally .installed (ks.map Inspection.event) = r.report.installed.length :=
    h.tally_inspections .installed
  have herrors : tally .error (ks.map Inspection.event) = r.report.errors.length :=
    h.tally_inspections .error
  have hskipped : tally .skipped (ks.map Inspection.event) = 0 := by
    rw [tally, List.countP_eq_zero]
    intro e he
    obtain ⟨k, _, rfl⟩ := List.mem_map.mp he
    cases hk : k.status <;> simp [Inspection.outcome?_event, Status.state, hk]
  refine ⟨run.id, toSeconds r.duration, ?_⟩
  rw [h.events_notes, hinstalled, herrors, hskipped]
  rfl

theorem Inspected.checkedIn (h : Inspected c run ks r) (hc : c.Loaded) :
    CheckedIn c r.report (events r.world.2.notes) := by
  have hnodup := h.checks_target ▸ Graph.nodup_installOrder hc.source
  refine ⟨ks.map Inspection.event, h.encloses, ?_⟩
  rw [← h.targets, List.forall₂_map_left_iff, List.forall₂_map_right_iff, List.forall₂_same]
  intro k hk
  have hmem : k.toCheck ∈ ks.map (·.toCheck) := List.mem_map_of_mem hk
  exact ⟨k.status, toSeconds k.duration, rfl,
    (h.survey.target_mem_listed_iff hnodup hmem k.status).mpr rfl⟩

end Inspected

/-! ## The log of an install pass -/

def Operation.event (o : Operation) : Event :=
  match failure? o.trials with
  | none => .targetInstalled o.target (toSeconds o.duration)
  | some output => .targetFailed o.target .setup output.exit

theorem Operation.Faithful.events_notes {o : Operation} (h : o.Faithful c) (run : Journal.Run) :
    events (o.notes run) = [o.event] := by
  obtain ⟨_, _, hsuccess⟩ := h
  cases hf : failure? o.trials <;>
    simp [notes, event, failureNotes, hf, hsuccess]

theorem Operation.Faithful.outcome?_event {o : Operation} (h : o.Faithful c) :
    o.event.outcome? = some (if o.success then .installed else .error) := by
  obtain ⟨_, _, hsuccess⟩ := h
  cases hf : failure? o.trials <;> simp [event, hf, hsuccess, Event.outcome?]

section Operated

variable {needed : List String} {run : Journal.Run} {h : Graph.History} {os : List Operation}
  {r : Result InstallReport (σ × Record)}

theorem Operated.events_notes (ho : Operated c needed run h os r) :
    events r.world.2.notes = .runStarted run.id PassKind.install.name version ::
      (os.map Operation.event ++ r.report.skipped.map .targetSkipped) ++
      [.runCompleted run.id PassKind.install.name (UInt32.ofNat r.report.installed.length)
        (UInt32.ofNat r.report.errors.length) (UInt32.ofNat r.report.skipped.length)
        (toSeconds r.duration)] := by
  have hoperations : os.flatMap (fun o => events (o.notes run)) = os.map Operation.event := by
    rw [List.map_eq_flatMap]
    exact List.flatMap_congr fun o hmem => (ho.performed o hmem).events_notes run
  have hskipped : events (r.report.skipped.map fun n => .event (.targetSkipped n)) =
      r.report.skipped.map .targetSkipped := by
    simp [events, List.filterMap_map, Function.comp_def, Entry.event?]
  rw [ho.notes]
  simp [events_flatMap, hoperations, hskipped]

theorem Operated.tally_operations (ho : Operated c needed run h os r) (s : State) :
    tally s (os.map Operation.event) =
      os.countP fun o => (if o.success then .installed else .error) = s := by
  rw [tally, List.countP_map]
  exact List.countP_congr fun o hmem => by simp [(ho.performed o hmem).outcome?_event]

theorem Operated.encloses (ho : Operated c needed run h os r) :
    Encloses .install (events r.world.2.notes)
      (os.map Operation.event ++ r.report.skipped.map .targetSkipped) := by
  -- The counts are those of the lists, which are kept apart from the log.
  have hskips (s : State) : tally s (r.report.skipped.map .targetSkipped) =
      if s = .skipped then r.report.skipped.length else 0 := by
    cases s <;> simp [tally, List.countP_map, Function.comp_def, Event.outcome?]
  have hinstalled : tally .installed
      (os.map Operation.event ++ r.report.skipped.map .targetSkipped) =
        r.report.installed.length := by
    rw [tally_append, hskips, ho.tally_operations, ho.installed, List.length_map,
      ← List.countP_eq_length_filter, List.countP_map]
    simp [Function.comp_def]
  have herrors : tally .error
      (os.map Operation.event ++ r.report.skipped.map .targetSkipped) =
        r.report.errors.length := by
    rw [tally_append, hskips, ho.tally_operations, ho.errors, List.length_map,
      ← List.countP_eq_length_filter, List.countP_map]
    simp [Function.comp_def]
  have hskipped : tally .skipped
      (os.map Operation.event ++ r.report.skipped.map .targetSkipped) =
        r.report.skipped.length := by
    have hnone : os.countP (fun o => (if o.success then State.installed else .error) = .skipped) =
        0 := List.countP_eq_zero.mpr fun o _ => by cases o.success <;> simp
    rw [tally_append, hskips, ho.tally_operations, hnone]
    simp
  refine ⟨run.id, toSeconds r.duration, ?_⟩
  rw [ho.events_notes, hinstalled, herrors, hskipped]

/-- The targets that are operated on are the needed ones, in the order of installation and without
those that are left out. -/
theorem Operated.targets (ho : Operated c needed run h os r) :
    os.map (·.target) =
      c.graph.installOrder.filter (fun n => n ∈ needed ∧ n ∉ r.report.skipped) := by
  calc os.map (·.target) = (h.filter (·.1 ∈ needed)).map Prod.fst := by simp [ho.visits]
    _ = (h.map Prod.fst).filter (· ∈ needed) := by simp [List.filter_map, Function.comp_def]
    _ = _ := by simp [ho.order, List.filter_filter]

theorem Operated.toldBy (ho : Operated c needed run h os r) {o : Operation} (hmem : o ∈ os) :
    o.toAttempt.ToldBy r.report o.event := by
  obtain ⟨hinstalled, herrors⟩ :=
    ho.toAccount.mem_report ho.finished.schedule (List.mem_map_of_mem (f := (·.toAttempt)) hmem)
  obtain ⟨_, ht, hsuccess⟩ := ho.performed o hmem
  refine ⟨?_, hinstalled.trans ?_, herrors.trans ?_⟩
  · rw [hinstalled, herrors]
    cases o.success <;> simp
  · cases hf : failure? o.trials <;> simp [hsuccess, hf, Operation.event]
  · constructor
    · intro hfail
      obtain ⟨last, hlast⟩ := ht.exists_endedBy hfail
      exact ⟨last, hlast, by simp [Operation.event, hlast.failure?_eq]⟩
    · rintro ⟨last, hlast, _⟩
      simp [hsuccess, hlast.failure?_eq]

theorem Operated.installedIn (ho : Operated c needed run h os r) :
    InstalledIn c needed r.report r.world.2.trials (events r.world.2.notes) := by
  refine ⟨os.map (·.toAttempt), os.map Operation.event, ho.encloses, ?_, ho.trials, ho.faithful,
    ?_⟩
  · rw [List.map_map]
    exact ho.targets
  · rw [List.forall₂_map_left_iff, List.forall₂_map_right_iff, List.forall₂_same]
    exact fun o hmem => ho.toldBy hmem

end Operated

/-! ## The log on a disk -/

/-- What a log holds after a run is what it held before, and then the events of that run. -/
theorem keeps_grown {r : Runner σ} {p : Place σ} {writable : σ → Prop} {log : σ → List UInt8}
    (hp : p.disk.Logs p.directory writable log) (hr : r.Spares writable log)
    (before : List UInt8) :
    (r.machine (some p)).recording.Keeps fun w =>
      writable w.1 ∧ Grown before (log w.1) (events w.2.notes) where
  run := by
    rintro w ⟨hw, hgrown⟩ command
    obtain ⟨hkept, hspared⟩ := hr.run hw command
    rw [← hspared] at hgrown
    exact ⟨hkept, hgrown⟩
  now := by
    rintro w ⟨hw, hgrown⟩
    obtain ⟨hkept, hspared⟩ := hr.now hw
    rw [← hspared] at hgrown
    exact ⟨hkept, hgrown⟩
  note := by
    rintro w ⟨hw, hgrown⟩ e
    cases e with
    | event e =>
      obtain ⟨hkept, hwritten⟩ := hp.record_event hw (r.time w.1) e
      have hgrown := hgrown.snoc e (r.time w.1)
      rw [← hwritten] at hgrown
      exact ⟨hkept, by simpa [Machine.recording, Runner.machine] using hgrown⟩
    | output run target m output =>
      obtain ⟨hkept, hspared⟩ := hp.record_output hw (r.time w.1) run target m output
      rw [← hspared] at hgrown
      exact ⟨hkept, by simpa [Machine.recording, Runner.machine] using hgrown⟩

/-- The log of the events of a pass agrees with the report of the pass, whatever runs the commands.
In a directory that is writable, it is what the file of the log grows by. -/
theorem chronicled_of_load {source text : String} {d : Document}
    (hparse : Document.parse text = .ok d) (hload : Configuration.load source text = .ok c)
    (hroot : Graph.root ∉ d.names) (r : Runner σ) (p : Place σ) (status : StatusReport) (w : σ) :
    let machine := r.machine (some p)
    let checked := checkAll machine.recording c (w, ⟨[], []⟩)
    let installed := installAll machine.recording c status (w, ⟨[], []⟩)
    (checkAll machine c w = checked.through Prod.fst ∧
      CheckedIn c checked.report (events checked.world.2.notes)) ∧
    (installAll machine c status w = installed.through Prod.fst ∧
      InstalledIn c status.needed installed.report installed.world.2.trials
        (events installed.world.2.notes)) ∧
    ∀ writable log, p.disk.Logs p.directory writable log → r.Spares writable log → writable w →
      Grown (log w) (log checked.world.1) (events checked.world.2.notes) ∧
      Grown (log w) (log installed.world.1) (events installed.world.2.notes) := by
  have hc := Configuration.loaded_of_load hparse hload hroot
  have hcommands (n : String) (hn : n ∈ c.graph.installOrder) :=
    hc.commands n (Graph.mem_names_of_mem_installOrder hc.source hn) .isSetup
  let machine := r.machine (some p)
  obtain ⟨_, _, hchecked⟩ := checkAll_inspected machine hcommands w
  obtain ⟨_, _, _, hinstalled⟩ := installAll_operated machine hc status w
  refine ⟨⟨(mirrors_recording machine).checkAll c (w, ⟨[], []⟩), hchecked.checkedIn hc⟩,
    ⟨(mirrors_recording machine).installAll c status (w, ⟨[], []⟩), hinstalled.installedIn⟩,
    fun writable log hp hr hw => ?_⟩
  have hkeeps := keeps_grown hp hr (log w)
  exact ⟨(hkeeps.checkAll c ⟨hw, Grown.refl _⟩).2,
    (hkeeps.installAll c status ⟨hw, Grown.refl _⟩).2⟩

/-- A notebook in a workshop, in which there is always room. -/
def notebook : Place (List String × (String → List UInt8)) :=
  ⟨"notes", Disk.ideal.beside (List String)⟩

/-- What has been written in the notebook of events. -/
def notebookLog (files : String → List UInt8) : List UInt8 :=
  files (Files.join "notes" eventLogName)

theorem chronicled_blunt :
    let c := Configuration.ofDocument Configuration.workshop
    let r := blunt.beside (String → List UInt8)
    let machine := r.machine (some notebook)
    let w : List String × (String → List UInt8) := ([], fun _ => [])
    let status : StatusReport := ⟨["base", "drill"], [], ["saw"]⟩
    let checked := checkAll machine.recording c (w, ⟨[], []⟩)
    let installed := installAll machine.recording c status (w, ⟨[], []⟩)
    (Graph.root ∉ Configuration.workshop.names ∧ checked.report = status) ∧
    ((events checked.world.2.notes).map Event.outcome? =
        [none, some .installed, some .error, some .installed, none] ∧
      (events installed.world.2.notes).map Event.outcome? =
        [none, some .error, some .skipped, none]) ∧
    (checkAll machine c w = checked.through Prod.fst ∧
      CheckedIn c checked.report (events checked.world.2.notes)) ∧
    (installAll machine c status w = installed.through Prod.fst ∧
      InstalledIn c status.needed installed.report installed.world.2.trials
        (events installed.world.2.notes)) ∧
    (Grown [] (notebookLog checked.world.1.2) (events checked.world.2.notes) ∧
      Grown [] (notebookLog installed.world.1.2) (events installed.world.2.notes)) := by
  have hroot : Graph.root ∉ Configuration.workshop.names := by decide
  obtain ⟨hchecked, hinstalled, hgrown⟩ := chronicled_of_load Configuration.parse_workshop
    Configuration.load_workshop hroot (blunt.beside (String → List UInt8)) notebook
    ⟨["base", "drill"], [], ["saw"]⟩ ([], fun _ => [])
  exact ⟨⟨hroot, by decide +kernel⟩, ⟨by decide +kernel, by decide +kernel⟩, hchecked, hinstalled,
    hgrown _ (fun w => notebookLog w.2) ((Disk.logs_ideal "notes").on fun _ _ => rfl)
      (spares_beside blunt (fun _ => True) notebookLog) trivial⟩

end Pass

end Provision
