import Provision.Pass.Machine

namespace Provision.Pass

variable {σ τ : Type}

/-- A machine that does what another one does, seen through a view of its worlds. -/
structure Machine.Mirrors (mirror : Machine τ) (machine : Machine σ) (view : τ → σ) : Prop where
  run : ∀ command w, machine.run command (view w) =
    ((mirror.run command w).1, view (mirror.run command w).2)
  now : ∀ w, machine.now (view w) = ((mirror.now w).1, view (mirror.now w).2)
  note : ∀ e w, machine.note e (view w) = view (mirror.note e w)

/-- To remember does not change what a machine does. -/
theorem mirrors_recording (machine : Machine σ) : machine.recording.Mirrors machine Prod.fst :=
  ⟨fun _ _ => rfl, fun _ => rfl, fun _ _ => rfl⟩

/-- One record after another one. -/
def Record.append (r s : Record) : Record := ⟨r.trials ++ s.trials, r.notes ++ s.notes⟩

@[simp] theorem Record.append_empty (r : Record) : r.append ⟨[], []⟩ = r := by
  simp [append]

/-- What has been remembered before does not change what a machine does. -/
theorem mirrors_append (machine : Machine σ) (r : Record) :
    machine.recording.Mirrors machine.recording fun w => (w.1, r.append w.2) := by
  refine ⟨fun command w => ?_, fun w => ?_, fun e w => ?_⟩
  all_goals simp [Machine.recording, Record.append]

/-- Two machines that do alike in related worlds: a command gets the same answer. Where `timed`
holds, their clocks agree as well, so that they are told to take the same notes. -/
structure Machine.Agrees (timed : Prop) (a : Machine σ) (b : Machine τ) (R : σ → τ → Prop) :
    Prop where
  run : ∀ {w v}, R w v → ∀ command, (a.run command w).1 = (b.run command v).1 ∧
    R (a.run command w).2 (b.run command v).2
  now : ∀ {w v}, R w v → (timed → (a.now w).1 = (b.now v).1) ∧ R (a.now w).2 (b.now v).2
  note : ∀ {w v}, R w v → ∀ {e e'}, (timed → e = e') → R (a.note e w) (b.note e' v)

theorem Machine.Mirrors.agrees {mirror : Machine τ} {machine : Machine σ} {view : τ → σ}
    (hm : mirror.Mirrors machine view) : mirror.Agrees True machine fun w v => v = view w where
  run := by
    rintro w _ rfl command
    simp [hm.run]
  now := by
    rintro w _ rfl
    simp [hm.now]
  note := by
    rintro w _ rfl e e' he
    rw [hm.note, he trivial]

namespace Machine.Agrees

variable {timed : Prop} {a : Machine σ} {b : Machine τ} {R : σ → τ → Prop} {w : σ} {v : τ}

theorem runCommands (h : a.Agrees timed b R) (hw : R w v) (commands : List String) :
    (Pass.runCommands a commands w).1 = (Pass.runCommands b commands v).1 ∧
      R (Pass.runCommands a commands w).2 (Pass.runCommands b commands v).2 := by
  induction commands generalizing w v with
  | nil => exact ⟨rfl, hw⟩
  | cons command rest ih =>
    obtain ⟨hanswer, hworld⟩ := h.run hw command
    rw [Pass.runCommands, Pass.runCommands]
    rcases ha : a.run command w with ⟨answer, w'⟩
    rcases hb : b.run command v with ⟨answer', v'⟩
    rw [ha, hb] at hanswer hworld
    obtain rfl : answer = answer' := hanswer
    rcases answer with reason | output
    · exact ⟨rfl, hworld⟩
    · dsimp only
      split
      · exact ih hworld
      · exact ⟨rfl, hworld⟩

theorem openRun (h : a.Agrees timed b R) (hw : R w v) (kind : PassKind) :
    (timed → (Pass.openRun a kind w).1 = (Pass.openRun b kind v).1) ∧
      R (Pass.openRun a kind w).2 (Pass.openRun b kind v).2 := by
  obtain ⟨htime, hworld⟩ := h.now hw
  exact ⟨fun he => congrArg Journal.Run.ofTime (htime he),
    h.note hworld fun he => by rw [htime he]⟩

theorem closeRun (h : a.Agrees timed b R) (hw : R w v) (kind : PassKind) {run run' : Journal.Run}
    (hrun : timed → run = run') {succeeded succeeded' failed failed' skipped skipped' : Nat}
    (hsucceeded : succeeded = succeeded') (hfailed : failed = failed')
    (hskipped : skipped = skipped') :
    (timed → (Pass.closeRun a kind run succeeded failed skipped w).1 =
      (Pass.closeRun b kind run' succeeded' failed' skipped' v).1) ∧
      R (Pass.closeRun a kind run succeeded failed skipped w).2
        (Pass.closeRun b kind run' succeeded' failed' skipped' v).2 := by
  subst hsucceeded hfailed hskipped
  obtain ⟨htime, hworld⟩ := h.now hw
  have htotal (he : timed) : (a.now w).1 - run.start = (b.now v).1 - run'.start := by
    rw [htime he, hrun he]
  exact ⟨htotal, h.note hworld fun he => by rw [htotal he, hrun he]⟩

end Machine.Agrees

/-- A property of worlds that a machine keeps, whatever it is asked for. -/
structure Machine.Keeps (machine : Machine σ) (I : σ → Prop) : Prop where
  run : ∀ {w}, I w → ∀ command, I (machine.run command w).2
  now : ∀ {w}, I w → I (machine.now w).2
  note : ∀ {w}, I w → ∀ e, I (machine.note e w)

theorem Machine.Keeps.agrees {machine : Machine σ} {I : σ → Prop} (h : machine.Keeps I) :
    machine.Agrees True machine fun w v => w = v ∧ I v where
  run := by
    rintro w _ ⟨rfl, hw⟩ command
    exact ⟨rfl, rfl, h.run hw command⟩
  now := by
    rintro w _ ⟨rfl, hw⟩
    exact ⟨fun _ => rfl, rfl, h.now hw⟩
  note := by
    rintro w _ ⟨rfl, hw⟩ e e' he
    rw [he trivial]
    exact ⟨rfl, h.note hw e'⟩

/-- Commands have been tried in their order up to the first failure, if there is one. -/
inductive Tried : List String → List Trial → Bool → Prop
  | nil : Tried [] [] true
  | success {t : Trial} {rest : List String} {trials : List Trial} {success : Bool} :
    t.success = true → Tried rest trials success →
      Tried (t.command :: rest) (t :: trials) success
  | failure {t : Trial} (rest : List String) : t.success = false →
    Tried (t.command :: rest) [t] false

namespace Tried

variable {commands : List String} {trials : List Trial} {success : Bool}

theorem isPrefix (ht : Tried commands trials success) :
    trials.map Trial.command <+: commands := by
  induction ht with
  | nil => exact List.prefix_refl _
  | success _ _ ih => exact List.cons_prefix_cons.mpr ⟨rfl, ih⟩
  | failure rest _ => exact List.cons_prefix_cons.mpr ⟨rfl, List.nil_prefix⟩

/-- After a success all commands have been run, each of them with success. -/
theorem complete (ht : Tried commands trials success) (hs : success = true) :
    trials.map Trial.command = commands ∧ ∀ t ∈ trials, t.success = true := by
  induction ht with
  | nil => simp
  | success ht _ ih =>
    obtain ⟨hcommands, hall⟩ := ih hs
    exact ⟨congrArg _ hcommands, List.forall_mem_cons.mpr ⟨ht, hall⟩⟩
  | failure => cases hs

/-- Where not all has been a success, one of the commands that have been run was none. -/
theorem exists_failure (ht : Tried commands trials success) (hs : success = false) :
    ∃ t ∈ trials, t.command ∈ commands ∧ t.success = false := by
  induction ht with
  | nil => cases hs
  | success _ _ ih =>
    obtain ⟨t, hmem, hcommand, hfail⟩ := ih hs
    exact ⟨t, List.mem_cons_of_mem _ hmem, List.mem_cons_of_mem _ hcommand, hfail⟩
  | failure rest hfail => exact ⟨_, List.mem_cons_self .., List.mem_cons_self .., hfail⟩

end Tried

/-- Among the commands that have been run are, one after the other, those of a target for a method,
and all of them were a success. -/
def Completed (c : Configuration) (target : String) (m : Method) (trials : List Trial) : Prop :=
  ∃ own, own <:+: trials ∧ commandsOf c target m = .ok (own.map Trial.command) ∧
    ∀ t ∈ own, t.success = true

/-- Among the commands that have been run are, one after the other, those of a target for a method
up to the first that was no success. -/
def Failed (c : Configuration) (target : String) (m : Method) (trials : List Trial) : Prop :=
  ∃ commands own, commandsOf c target m = .ok commands ∧ own <:+: trials ∧
    Tried commands own false ∧ ∃ t ∈ own, t.command ∈ commands ∧ t.success = false

section Segments

variable {c : Configuration} {target : String} {m : Method} {commands : List String}
  {own trials : List Trial}

theorem Tried.completed (ht : Tried commands own true)
    (hcommands : commandsOf c target m = .ok commands) (hown : own <:+: trials) :
    Completed c target m trials := by
  obtain ⟨rfl, hall⟩ := ht.complete rfl
  exact ⟨own, hown, hcommands, hall⟩

theorem Tried.failed (ht : Tried commands own false)
    (hcommands : commandsOf c target m = .ok commands) (hown : own <:+: trials) :
    Failed c target m trials :=
  ⟨commands, own, hcommands, hown, ht, ht.exists_failure rfl⟩

theorem Completed.append (h : Completed c target m trials) (more : List Trial) :
    Completed c target m (trials ++ more) := by
  obtain ⟨own, hown, hcommands, hall⟩ := h
  exact ⟨own, hown.trans (List.prefix_append trials more).isInfix, hcommands, hall⟩

end Segments

/-- What a command has left behind, or why it could not be run. -/
def Trial.output (t : Trial) : Output :=
  match t.answer with
  | .ok output => output
  | .error reason => ⟨-1, "", reason⟩

/-- What the first command has left behind that was no success. -/
def failure? (trials : List Trial) : Option Output :=
  (trials.find? (!·.success)).map Trial.output

/-- What a machine remembers of commands that it has run one after the other. -/
theorem runCommands_recording (machine : Machine σ) (commands : List String) (w : σ × Record) :
    ∃ trials v, Tried commands trials (failure? trials).isNone ∧
      runCommands machine.recording commands w =
        (failure? trials, v, w.2.append ⟨trials, []⟩) := by
  induction commands generalizing w with
  | nil => exact ⟨[], w.1, .nil, by simp [runCommands, failure?]⟩
  | cons command rest ih =>
    rcases hrun : machine.run command w.1 with ⟨answer, v⟩
    let t : Trial := ⟨command, answer⟩
    have hstep : machine.recording.run command w = (answer, v, w.2.append ⟨[t], []⟩) := by
      simp [Machine.recording, hrun, t, Record.append]
    rw [runCommands, hstep]
    rcases answer with reason | output
    · exact ⟨[t], v, .failure (t := t) rest rfl, rfl⟩
    · dsimp only
      split
      · next hs =>
        have hsuccess : t.success = true := hs
        obtain ⟨trials, v', ht, hrest⟩ := ih (v, w.2.append ⟨[t], []⟩)
        have hfailure : failure? (t :: trials) = failure? trials := by simp [failure?, hsuccess]
        refine ⟨t :: trials, v', hfailure ▸ .success hsuccess ht, ?_⟩
        rw [hrest, hfailure]
        simp [Record.append]
      · next hs =>
        have hfail : t.success = false := Bool.eq_false_iff.mpr hs
        have hfailure : failure? [t] = some output := by
          simp [failure?, hfail, t, Trial.output]
        exact ⟨[t], v, hfailure ▸ .failure rest hfail, by rw [hfailure]⟩

end Provision.Pass
