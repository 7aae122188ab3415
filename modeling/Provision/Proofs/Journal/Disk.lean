import Mathlib.Data.List.Basic
import Provision.CommandLine.World
import Provision.Journal.Log

namespace Provision.Journal

open Files

/-- The operations on files that a journal is written with. Each of them can fail, and can leave
traces even so. -/
structure Disk (σ : Type) where
  makeDirectories : String → σ → Except FileError Unit × σ
  append : String → List UInt8 → σ → Except FileError Unit × σ
  write : String → List UInt8 → σ → Except FileError Unit × σ

namespace Disk

variable {σ : Type}

/-- An operation on a tree that changes nothing where it fails. -/
def attempt (r : Except FileError Tree) (t : Tree) : Except FileError Unit × Tree :=
  match r with
  | .ok t => (.ok (), t)
  | .error e => (.error e, t)

def tree : Disk Tree where
  makeDirectories path t := t.makeDirectories path
  append path bytes t := attempt (t.append path bytes) t
  write path bytes t := attempt (t.write path bytes) t

def appendEvent (disk : Disk σ) (directory time : String) (e : Event) (w : σ) :
    Except LogError Unit × σ :=
  match disk.makeDirectories directory w with
  | (.error e, w) => (.error (.directory directory e), w)
  | (.ok (), w) =>
    let path := join directory eventLogName
    match disk.append path (Text.encode (String.ofList (e.line time ++ ['\n']))) w with
    | (.ok (), w) => (.ok (), w)
    | (.error e, w) => (.error (.eventLog path e), w)

def writeStream (disk : Disk σ) (runDirectory target : String) (m : Method) (s : Stream)
    (body : String) (w : σ) : Except LogError Unit × σ :=
  let path := streamPath runDirectory target m s
  match disk.write path (Text.encode (sectioned s body)) w with
  | (.ok (), w) => (.ok (), w)
  | (.error e, w) => (.error (.file path e), w)

def writeOutput (disk : Disk σ) (runDirectory target : String) (m : Method)
    (stdout stderr : String) (w : σ) : Except LogError Unit × σ :=
  let directory := methodDirectory runDirectory m
  match disk.makeDirectories directory w with
  | (.error e, w) => (.error (.directory directory e), w)
  | (.ok (), w) =>
    match disk.writeStream runDirectory target m .stdout stdout w with
    | (.error e, w) => (.error e, w)
    | (.ok (), w) => disk.writeStream runDirectory target m .stderr stderr w

/-- Writes an entry down on a disk. What cannot be written is lost. -/
def record (disk : Disk σ) (directory : String) (time : Nat) (e : Entry) (w : σ) : σ :=
  match e with
  | .event e => (disk.appendEvent directory (timestamp (time / 1000000000)) e w).2
  | .output run target m output =>
    (disk.writeOutput (join directory run.directoryName) target m output.stdout output.stderr w).2

theorem appendEvent_tree (directory time : String) (e : Event) (t : Tree) :
    tree.appendEvent directory time e t = Journal.appendEvent directory time e t := by
  simp only [appendEvent, Journal.appendEvent, tree]
  rcases t.makeDirectories directory with ⟨e' | _, t'⟩
  · rfl
  · dsimp only
    cases t'.append _ _ <;> rfl

theorem writeStream_tree (runDirectory target : String) (m : Method) (s : Stream) (body : String)
    (t : Tree) : tree.writeStream runDirectory target m s body t =
      Journal.writeStream runDirectory target m s body t := by
  simp only [writeStream, Journal.writeStream, tree]
  cases t.write _ _ <;> rfl

theorem writeOutput_tree (runDirectory target : String) (m : Method) (stdout stderr : String)
    (t : Tree) : tree.writeOutput runDirectory target m stdout stderr t =
      Journal.writeOutput runDirectory target m stdout stderr t := by
  simp only [writeOutput, Journal.writeOutput, writeStream_tree]
  simp only [tree]
  rcases t.makeDirectories _ with ⟨e | _, t'⟩
  · rfl
  · dsimp only
    rcases Journal.writeStream _ _ _ .stdout _ t' with ⟨e | _, t''⟩ <;> rfl

/-- On a tree of files this is how a journal is written. -/
theorem record_tree (directory : String) (time : Nat) (e : Entry) (t : Tree) :
    tree.record directory time e t = Journal.record directory time e t := by
  cases e with
  | event e => simp only [record, Journal.record, appendEvent_tree]
  | output run target m output => simp only [record, Journal.record, writeOutput_tree]

/-! ## Disks in larger worlds -/

def on {τ : Type} (disk : Disk τ) (get : σ → τ) (set : σ → τ → σ) : Disk σ where
  makeDirectories path w :=
    ((disk.makeDirectories path (get w)).1, set w (disk.makeDirectories path (get w)).2)
  append path bytes w :=
    ((disk.append path bytes (get w)).1, set w (disk.append path bytes (get w)).2)
  write path bytes w :=
    ((disk.write path bytes (get w)).1, set w (disk.write path bytes (get w)).2)

section On

variable {τ : Type} {disk : Disk τ} {get : σ → τ} {set : σ → τ → σ}

theorem writeStream_on (runDirectory target : String) (m : Method) (s : Stream) (body : String)
    (w : σ) : (disk.on get set).writeStream runDirectory target m s body w =
      ((disk.writeStream runDirectory target m s body (get w)).1,
        set w (disk.writeStream runDirectory target m s body (get w)).2) := by
  simp only [writeStream, on]
  rcases disk.write _ _ (get w) with ⟨e | _, t⟩ <;> rfl

variable (hget : ∀ w t, get (set w t) = t) (hset : ∀ w t t', set (set w t) t' = set w t')
include hget hset

theorem appendEvent_on (directory time : String) (e : Event) (w : σ) :
    (disk.on get set).appendEvent directory time e w =
      ((disk.appendEvent directory time e (get w)).1,
        set w (disk.appendEvent directory time e (get w)).2) := by
  simp only [appendEvent, on]
  rcases disk.makeDirectories directory (get w) with ⟨e' | _, t⟩
  · rfl
  · dsimp only
    rw [hget]
    rcases disk.append _ _ t with ⟨e' | _, t'⟩ <;> simp only [hset]

theorem writeOutput_on (runDirectory target : String) (m : Method) (stdout stderr : String)
    (w : σ) : (disk.on get set).writeOutput runDirectory target m stdout stderr w =
      ((disk.writeOutput runDirectory target m stdout stderr (get w)).1,
        set w (disk.writeOutput runDirectory target m stdout stderr (get w)).2) := by
  simp only [writeOutput, writeStream_on]
  simp only [on]
  rcases disk.makeDirectories _ (get w) with ⟨e | _, t⟩
  · rfl
  · dsimp only
    rw [hget]
    rcases disk.writeStream _ _ _ .stdout _ t with ⟨e | _, t'⟩
    · simp only [hset]
    · simp only [hget, hset]

theorem record_on (directory : String) (time : Nat) (e : Entry) (w : σ) :
    (disk.on get set).record directory time e w =
      set w (disk.record directory time e (get w)) := by
  cases e with
  | event e => simp only [record, appendEvent_on hget hset]
  | output run target m output => simp only [record, writeOutput_on hget hset]

end On

def beside {τ : Type} (disk : Disk τ) (σ : Type) : Disk (σ × τ) :=
  disk.on Prod.snd fun w t => (w.1, t)

/-! ## What a journal leaves alone -/

/-- What is done at a path keeps a property of worlds. -/
structure Keeps (disk : Disk σ) (P : σ → Prop) (path : String) : Prop where
  makeDirectories : ∀ {w}, P w → P (disk.makeDirectories path w).2
  append : ∀ {w}, P w → ∀ bytes, P (disk.append path bytes w).2
  write : ∀ {w}, P w → ∀ bytes, P (disk.write path bytes w).2

/-- A disk of which some operations fail without a trace. -/
def withFaults (disk : Disk σ) (fault? : String → σ → Option FileError) : Disk σ where
  makeDirectories path w := (fault? path w).elim (disk.makeDirectories path w) (.error ·, w)
  append path bytes w := (fault? path w).elim (disk.append path bytes w) (.error ·, w)
  write path bytes w := (fault? path w).elim (disk.write path bytes w) (.error ·, w)

theorem Keeps.withFaults {disk : Disk σ} {P : σ → Prop} {path : String}
    (h : disk.Keeps P path) (fault? : String → σ → Option FileError) :
    (disk.withFaults fault?).Keeps P path where
  makeDirectories {w} hw := by
    cases hf : fault? path w <;> simp [Disk.withFaults, hf, hw, h.makeDirectories hw]
  append {w} hw bytes := by
    cases hf : fault? path w <;> simp [Disk.withFaults, hf, hw, h.append hw bytes]
  write {w} hw bytes := by
    cases hf : fault? path w <;> simp [Disk.withFaults, hf, hw, h.write hw bytes]

end Disk

/-- The paths at which a journal below a directory writes its events. -/
inductive IsEventPath (directory : String) : String → Prop
  | directory : IsEventPath directory directory
  | events : IsEventPath directory (join directory eventLogName)

/-- The paths at which a journal below a directory writes what commands have written. -/
inductive IsOutputPath (directory : String) : String → Prop
  | method (run : Run) (m : Method) :
    IsOutputPath directory (methodDirectory (join directory run.directoryName) m)
  | stream (run : Run) (target : String) (m : Method) (s : Stream) :
    IsOutputPath directory (streamPath (join directory run.directoryName) target m s)

namespace Disk

variable {σ : Type} {disk : Disk σ} {P : σ → Prop} {directory : String} {w : σ}

theorem appendEvent_keeps (h : ∀ path, IsEventPath directory path → disk.Keeps P path)
    (time : String) (e : Event) (hw : P w) : P (disk.appendEvent directory time e w).2 := by
  have hdirectory := (h _ .directory).makeDirectories hw
  rw [appendEvent]
  rcases hmade : disk.makeDirectories directory w with ⟨e' | _, w'⟩
  all_goals rw [hmade] at hdirectory
  · exact hdirectory
  · have hevents := (h _ .events).append hdirectory
      (Text.encode (String.ofList (e.line time ++ ['\n'])))
    dsimp only
    rcases hput : disk.append _ _ w' with ⟨e' | _, w''⟩
    all_goals
      rw [hput] at hevents
      exact hevents

theorem writeStream_keeps (h : ∀ path, IsOutputPath directory path → disk.Keeps P path)
    (run : Run) (target : String) (m : Method) (s : Stream) (body : String) (hw : P w) :
    P (disk.writeStream (join directory run.directoryName) target m s body w).2 := by
  have hstream := (h _ (.stream run target m s)).write hw (Text.encode (sectioned s body))
  rw [writeStream]
  rcases hput : disk.write _ _ w with ⟨e | _, w'⟩
  all_goals
    rw [hput] at hstream
    exact hstream

theorem writeOutput_keeps (h : ∀ path, IsOutputPath directory path → disk.Keeps P path)
    (run : Run) (target : String) (m : Method) (stdout stderr : String) (hw : P w) :
    P (disk.writeOutput (join directory run.directoryName) target m stdout stderr w).2 := by
  have hmethod := (h _ (.method run m)).makeDirectories hw
  rw [writeOutput]
  rcases hmade : disk.makeDirectories _ w with ⟨e | _, w'⟩
  all_goals rw [hmade] at hmethod
  · exact hmethod
  · have hstdout := writeStream_keeps h run target m .stdout stdout hmethod
    dsimp only
    rcases hput : disk.writeStream _ _ _ .stdout _ w' with ⟨e | _, w''⟩
    all_goals rw [hput] at hstdout
    · exact hstdout
    · exact writeStream_keeps h run target m .stderr stderr hstdout

/-- What the operations at the paths of a journal keep, every entry keeps. -/
theorem record_keeps (hevents : ∀ path, IsEventPath directory path → disk.Keeps P path)
    (houtputs : ∀ path, IsOutputPath directory path → disk.Keeps P path) (time : Nat) (e : Entry)
    (hw : P w) : P (disk.record directory time e w) := by
  cases e with
  | event e => exact appendEvent_keeps hevents _ e hw
  | output run target m output => exact writeOutput_keeps houtputs run target m _ _ hw

/-- In a part of the world a disk leaves the rest of it alone. -/
theorem keeps_on {τ : Type} (disk : Disk τ) {get : σ → τ} {set : σ → τ → σ}
    (hset : ∀ w t, P w → P (set w t)) (path : String) : (disk.on get set).Keeps P path where
  makeDirectories hw := hset _ _ hw
  append hw _ := hset _ _ hw
  write hw _ := hset _ _ hw

end Disk

/-! ## A log that can be written -/

/-- An event as it is written down at a time in nanoseconds. -/
def Event.written (e : Event) (time : Nat) : List UInt8 :=
  Text.encode (String.ofList (e.line (timestamp (time / 1000000000)) ++ ['\n']))

/-- As long as a directory is writable, the log of the events below it grows by what is added to it,
and what commands have written goes elsewhere. -/
structure Disk.Logs {σ : Type} (disk : Disk σ) (directory : String) (writable : σ → Prop)
    (log : σ → List UInt8) : Prop where
  made : ∀ {w}, writable w → (disk.makeDirectories directory w).1 = .ok () ∧
    writable (disk.makeDirectories directory w).2 ∧
    log (disk.makeDirectories directory w).2 = log w
  appended : ∀ {w}, writable w → ∀ bytes,
    (disk.append (join directory eventLogName) bytes w).1 = .ok () ∧
    writable (disk.append (join directory eventLogName) bytes w).2 ∧
    log (disk.append (join directory eventLogName) bytes w).2 = log w ++ bytes
  outputs : ∀ bytes path, IsOutputPath directory path →
    disk.Keeps (fun w => writable w ∧ log w = bytes) path

namespace Disk.Logs

variable {σ : Type} {disk : Disk σ} {directory : String} {writable : σ → Prop}
  {log : σ → List UInt8} {w : σ}

theorem record_event (h : disk.Logs directory writable log) (hw : writable w) (time : Nat)
    (e : Event) : writable (disk.record directory time (.event e) w) ∧
      log (disk.record directory time (.event e) w) = log w ++ e.written time := by
  -- Neither of the two operations fails, so the line is written and nothing else.
  obtain ⟨hmade, hkept, hsame⟩ := h.made hw
  rw [record, appendEvent]
  rcases hdirectory : disk.makeDirectories directory w with ⟨r, w'⟩
  rw [hdirectory] at hmade hkept hsame
  obtain rfl : r = .ok () := hmade
  have hlog : log w' = log w := hsame
  obtain ⟨hput, hkept, hgrown⟩ := h.appended hkept (e.written time)
  rw [← hlog, ← hgrown]
  rcases hevents : disk.append (join directory eventLogName) (e.written time) w' with ⟨r, w''⟩
  rw [hevents] at hput hkept
  obtain rfl : r = .ok () := hput
  rw [Event.written] at hevents
  dsimp only
  rw [hevents]
  exact ⟨hkept, rfl⟩

theorem record_output (h : disk.Logs directory writable log) (hw : writable w) (time : Nat)
    (run : Run) (target : String) (m : Method) (output : Output) :
    writable (disk.record directory time (.output run target m output) w) ∧
      log (disk.record directory time (.output run target m output) w) = log w :=
  writeOutput_keeps (h.outputs (log w)) run target m output.stdout output.stderr ⟨hw, rfl⟩

theorem on {τ : Type} {get : τ → σ} {set : τ → σ → τ} (h : disk.Logs directory writable log)
    (hget : ∀ w t, get (set w t) = t) :
    (disk.on get set).Logs directory (fun w => writable (get w)) fun w => log (get w) where
  made hw := by
    simp only [Disk.on, hget]
    exact h.made hw
  appended hw bytes := by
    simp only [Disk.on, hget]
    exact h.appended hw bytes
  outputs bytes path hpath := by
    have hkeeps := h.outputs bytes path hpath
    refine ⟨fun hw => ?_, fun hw more => ?_, fun hw more => ?_⟩
    all_goals simp only [Disk.on, hget]
    · exact hkeeps.makeDirectories hw
    · exact hkeeps.append hw more
    · exact hkeeps.write hw more

end Disk.Logs

/-- A disk that never fails, on which each path has a content. -/
def Disk.ideal : Disk (String → List UInt8) where
  makeDirectories _ w := (.ok (), w)
  append path bytes w := (.ok (), Function.update w path (w path ++ bytes))
  write path bytes w := (.ok (), Function.update w path bytes)

theorem getLast?_join {path : String} (h : path ≠ "") (directory : String) :
    (join directory path).toList.getLast? = path.toList.getLast? := by
  have hpath : path.toList ≠ [] := by simpa using h
  rw [join]
  split
  · rfl
  · split
    all_goals
      rw [String.toList_append]
      exact List.getLast?_append_of_ne_nil _ hpath

theorem IsOutputPath.ne_events {directory path : String} (h : IsOutputPath directory path) :
    path ≠ join directory eventLogName := by
  intro heq
  have hlast := congrArg (·.toList.getLast?) heq
  cases h with
  | method run m =>
    cases m <;> simp [methodDirectory, getLast?_join, eventLogName, Method.name] at hlast
  | stream run target m s =>
    cases s <;> simp [streamPath, getLast?_join, eventLogName, Stream.name] at hlast

theorem Disk.logs_ideal (directory : String) :
    Disk.ideal.Logs directory (fun _ => True) fun w => w (join directory eventLogName) where
  made _ := ⟨rfl, trivial, rfl⟩
  appended _ bytes := ⟨rfl, trivial, Function.update_self ..⟩
  outputs bytes path hpath := by
    have hne := hpath.ne_events.symm
    refine ⟨fun hw => hw, fun hw more => ⟨trivial, ?_⟩, fun hw more => ⟨trivial, ?_⟩⟩
    all_goals exact (Function.update_of_ne hne _ _).trans hw.2

end Provision.Journal

namespace Provision

/-- Where a journal is written: below a directory on a disk. -/
structure Journal.Place (σ : Type) where
  directory : String
  disk : Disk σ

namespace Pass

variable {σ : Type}

/-- What runs commands and has a clock. The time of a world is the one that a journal notes. -/
structure Runner (σ : Type) where
  run : String → σ → Except String Output × σ
  now : σ → Nat × σ
  time : σ → Nat

/-- The machine that takes its notes in a journal, or none at all. -/
def Runner.machine (r : Runner σ) (journal : Option (Journal.Place σ)) : Machine σ where
  run := r.run
  now := r.now
  note e w :=
    match journal with
    | none => w
    | some p => p.disk.record p.directory (r.time w) e w

/-- A runner that leaves a log alone, and writable. -/
structure Runner.Spares (r : Runner σ) (writable : σ → Prop) (log : σ → List UInt8) : Prop where
  run : ∀ {w}, writable w → ∀ command,
    writable (r.run command w).2 ∧ log (r.run command w).2 = log w
  now : ∀ {w}, writable w → writable (r.now w).2 ∧ log (r.now w).2 = log w

/-- A machine as a runner that has a disk beside it, and does not look at it. -/
def Machine.beside (machine : Machine σ) (τ : Type) : Runner (σ × τ) where
  run command w := ((machine.run command w.1).1, (machine.run command w.1).2, w.2)
  now w := ((machine.now w.1).1, (machine.now w.1).2, w.2)
  time w := (machine.now w.1).1

theorem spares_beside {τ : Type} (machine : Machine σ) (writable : τ → Prop)
    (log : τ → List UInt8) :
    (machine.beside τ).Spares (fun w => writable w.2) fun w => log w.2 :=
  ⟨fun hw _ => ⟨hw, rfl⟩, fun hw => ⟨hw, rfl⟩⟩

end Pass

namespace CommandLine

/-- What a shell runs on the files of a world. -/
def runner : Pass.Runner World := ⟨(machine "").run, (machine "").now, World.time⟩

/-- The files of a world as a disk. -/
def disk : Journal.Disk World := Journal.Disk.tree.on World.files fun w files => { w with files }

theorem machine_runner (logDirectory : String) :
    runner.machine (some ⟨logDirectory, disk⟩) = machine logDirectory := by
  have hget (w : World) (files : Files.Tree) : { w with files }.files = files := rfl
  have hnote (e : Journal.Entry) (w : World) : disk.record logDirectory w.time e w =
      { w with files := Journal.record logDirectory w.time e w.files } := by
    rw [← Journal.Disk.record_tree]
    exact Journal.Disk.record_on hget (fun _ _ _ => rfl) logDirectory w.time e w
  simp only [Pass.Runner.machine, runner, machine, hnote]

end CommandLine

end Provision
