import Provision.Proofs.Journal.Disk
import Provision.Proofs.Pass.Evidence

namespace Provision

/-- What is written at the paths of a journal makes no difference between worlds. -/
def Journal.Place.Hidden {σ : Type} (p : Journal.Place σ) (same : σ → σ → Prop) : Prop :=
  ∀ w path, Journal.IsEventPath p.directory path ∨ Journal.IsOutputPath p.directory path →
    p.disk.Keeps (same w) path

namespace Journal.Place.Hidden

variable {σ τ : Type} {same : σ → σ → Prop}

/-- What a hidden journal fails to write makes no difference either. -/
theorem withFaults {p : Place σ} (h : p.Hidden same)
    (fault? : String → σ → Option Files.FileError) :
    Place.Hidden ⟨p.directory, p.disk.withFaults fault?⟩ same :=
  fun w path hpath => (h w path hpath).withFaults fault?

theorem record {p : Place σ} (h : p.Hidden same) {w v : σ} (hw : same w v) (time : Nat)
    (e : Entry) : same w (p.disk.record p.directory time e v) :=
  Disk.record_keeps (fun path hpath => h w path (.inl hpath))
    (fun path hpath => h w path (.inr hpath)) time e hw

theorem beside (directory : String) (disk : Disk τ) :
    Place.Hidden ⟨directory, disk.beside σ⟩ fun w v => w.1 = v.1 := by
  intro w path _
  have hset (v : σ × τ) (t : τ) (hv : w.1 = v.1) : w.1 = (v.1, t).1 := hv
  exact Disk.keeps_on disk hset path

end Journal.Place.Hidden

namespace Pass

open Journal (Place)

variable {σ τ : Type}

/-- A runner to which it makes no difference in which of several worlds it is: it answers alike. Its
clock can show another time. -/
structure Runner.Ignores (r : Runner σ) (same : σ → σ → Prop) : Prop where
  equivalence : Equivalence same
  run : ∀ {w v}, same w v → ∀ command, (r.run command w).1 = (r.run command v).1 ∧
    same (r.run command w).2 (r.run command v).2
  now : ∀ {w v}, same w v → same (r.now w).2 (r.now v).2

theorem ignores_beside (machine : Machine σ) (τ : Type) :
    (machine.beside τ).Ignores fun w v => w.1 = v.1 where
  equivalence := ⟨fun _ => rfl, fun h => h.symm, fun h h' => h.trans h'⟩
  run {w v} hw command := by simp [Machine.beside, hw]
  now {w v} hw := by simp [Machine.beside, hw]

section Journals

variable {r : Runner σ} {same : σ → σ → Prop} {j j' : Option (Place σ)} {w v : σ}

theorem same_note (r : Runner σ) (hj : ∀ p ∈ j, p.Hidden same) (hw : same w v)
    (e : Journal.Entry) : same w ((r.machine j).note e v) := by
  cases j with
  | none => exact hw
  | some p => exact (hj p rfl).record hw _ e

/-- With one journal or another one, the machine of a runner does alike. -/
theorem Runner.Ignores.agrees (hr : r.Ignores same) (hj : ∀ p ∈ j, p.Hidden same)
    (hj' : ∀ p ∈ j', p.Hidden same) : (r.machine j).Agrees False (r.machine j') same where
  run hw command := hr.run hw command
  now hw := ⟨False.elim, hr.now hw⟩
  note hw := fun {e e'} _ => by
    -- The entries can differ, so each journal has to be hidden by itself.
    have hright := same_note r hj' hw e'
    have hboth := same_note r hj (hr.equivalence.symm hright) e
    exact hr.equivalence.symm hboth

end Journals

/-- Where machines do alike, they are told to run the same commands. -/
theorem Machine.Agrees.recording {timed : Prop} {a : Machine σ} {b : Machine τ}
    {R : σ → τ → Prop} (h : a.Agrees timed b R) :
    a.recording.Agrees timed b.recording fun w v => R w.1 v.1 ∧ w.2.trials = v.2.trials where
  run := by
    rintro w v ⟨hw, htrials⟩ command
    obtain ⟨hanswer, hworld⟩ := h.run hw command
    exact ⟨hanswer, hworld, by simp [Machine.recording, htrials, hanswer]⟩
  now := by
    rintro w v ⟨hw, htrials⟩
    obtain ⟨htime, hworld⟩ := h.now hw
    exact ⟨htime, hworld, htrials⟩
  note := by
    rintro w v ⟨hw, htrials⟩ e e' he
    exact ⟨h.note hw he, htrials⟩

/-- Two passes that have been recorded have come to the same, but for the time that it took: they
report and tell the same, and they have run the same commands, one after the other. -/
structure Result.Alike {ρ : Type} (r r' : Result ρ (σ × Record)) : Prop where
  report : r.report = r'.report
  told : r.progress.map told = r'.progress.map told
  trials : r.world.2.trials = r'.world.2.trials

theorem Result.Concurs.alike {ρ : Type} {timed : Prop} {R : σ → σ → Prop}
    {r r' : Result ρ (σ × Record)}
    (h : r.Concurs timed (fun w v => R w.1 v.1 ∧ w.2.trials = v.2.trials) r') : r.Alike r' :=
  ⟨h.concur.report, h.concur.told, h.concur.world.2⟩

/-- What a pass does and tells does not depend on its journal, be there one or none, and be it
written or not. -/
theorem alike_of_ignores {r : Runner σ} {same : σ → σ → Prop} (hr : r.Ignores same)
    {j j' : Option (Place σ)} (hj : ∀ p ∈ j, p.Hidden same) (hj' : ∀ p ∈ j', p.Hidden same)
    (c : Configuration) (status : StatusReport) {w v : σ} (hw : same w v) :
    let checked := checkAll (r.machine j).recording c (w, ⟨[], []⟩)
    let checked' := checkAll (r.machine j').recording c (v, ⟨[], []⟩)
    let installed := installAll (r.machine j).recording c status (w, ⟨[], []⟩)
    let installed' := installAll (r.machine j').recording c status (v, ⟨[], []⟩)
    (checkAll (r.machine j) c w = checked.through Prod.fst ∧
      checkAll (r.machine j') c v = checked'.through Prod.fst ∧ checked.Alike checked') ∧
    (installAll (r.machine j) c status w = installed.through Prod.fst ∧
      installAll (r.machine j') c status v = installed'.through Prod.fst ∧
      installed.Alike installed') := by
  have hagrees := (hr.agrees hj hj').recording
  have hstart : same w v ∧ ([] : List Trial) = [] := ⟨hw, rfl⟩
  have hm := mirrors_recording (r.machine j)
  have hm' := mirrors_recording (r.machine j')
  exact ⟨⟨hm.checkAll c (w, ⟨[], []⟩), hm'.checkAll c (v, ⟨[], []⟩),
      (hagrees.checkAll c hstart).alike⟩,
    hm.installAll c status (w, ⟨[], []⟩), hm'.installAll c status (v, ⟨[], []⟩),
    (hagrees.installAll c status hstart).alike⟩

/-- A notebook that is full: it can be opened, but nothing can be written in it. -/
def fullNotebook : Place (List String × (String → List UInt8)) :=
  ⟨"notes", (Journal.Disk.ideal.beside (List String)).withFaults fun path _ =>
    if path = "notes" then none else some .noSpace⟩

theorem alike_blunt :
    let r := blunt.beside (String → List UInt8)
    let c := Configuration.ofDocument Configuration.workshop
    let status : StatusReport := ⟨["base", "drill"], [], ["saw"]⟩
    let w : List String × (String → List UInt8) := ([], fun _ => [])
    let checked := checkAll (r.machine none).recording c (w, ⟨[], []⟩)
    let checked' := checkAll (r.machine (some fullNotebook)).recording c (w, ⟨[], []⟩)
    let installed := installAll (r.machine none).recording c status (w, ⟨[], []⟩)
    let installed' := installAll (r.machine (some fullNotebook)).recording c status (w, ⟨[], []⟩)
    (checked.report = status ∧ installed.report = ⟨[], ["saw"], ["drill"]⟩) ∧
    (checkAll (r.machine none) c w = checked.through Prod.fst ∧
      checkAll (r.machine (some fullNotebook)) c w = checked'.through Prod.fst ∧
      checked.Alike checked') ∧
    (installAll (r.machine none) c status w = installed.through Prod.fst ∧
      installAll (r.machine (some fullNotebook)) c status w = installed'.through Prod.fst ∧
      installed.Alike installed') := by
  have hfull : fullNotebook.Hidden fun w v => w.1 = v.1 :=
    (Place.Hidden.beside "notes" Journal.Disk.ideal).withFaults _
  refine ⟨⟨by decide +kernel, by decide +kernel⟩, ?_⟩
  exact alike_of_ignores (ignores_beside blunt _) (by simp) (by simpa using hfull) _ _ rfl

end Pass

end Provision
