import Mathlib.Logic.Function.Basic
import Provision.Document.WellFormed
import Provision.Proofs.Files.Paths
import Provision.Proofs.Journal.Disk
import Provision.Proofs.Text.Blank

namespace Provision

/-- What a command has written to a stream. -/
def Output.text (o : Output) : Journal.Stream → String
  | .stdout => o.stdout
  | .stderr => o.stderr

namespace Journal

open Files

/-! ## Names below the directory of a run -/

theorem join_of_directory {directory path : String} (hne : directory ≠ "")
    (hslash : directory.toList.getLast? ≠ some '/') (hpath : path.toList.head? ≠ some '/') :
    join directory path = directory ++ "/" ++ path := by
  simp [join, startsWith_slash, endsWith_slash, hne, hslash, hpath]

/-- A path that does not begin at the root is put behind the directory. -/
theorem exists_join (directory : String) : ∃ base, directory.length ≤ base.length ∧
    ∀ path : String, path.toList.head? ≠ some '/' → join directory path = base ++ path := by
  by_cases hne : directory = ""
  · exact ⟨"", by simp [hne], fun path _ => by simp [join, hne]⟩
  by_cases hslash : directory.toList.getLast? = some '/'
  · exact ⟨directory, le_rfl, fun path hpath => by
      simp [join, startsWith_slash, endsWith_slash, hne, hslash, hpath]⟩
  · exact ⟨directory ++ "/", by simp, fun path hpath => join_of_directory hne hslash hpath⟩

namespace Run

variable (run : Run)

/-- The directory of a run below that of the journal. -/
def path (directory : String) : String := join directory run.directoryName

theorem isDigit_directoryName : ∀ c ∈ run.directoryName.toList, c.isDigit := by
  intro c hc
  rw [directoryName, Nat.toString_eq_repr, Nat.toList_repr] at hc
  exact Nat.isDigit_of_mem_toDigits (by decide) (by decide) hc

theorem directoryName_ne_empty : run.directoryName ≠ "" := by
  simp [directoryName]

theorem slash_not_mem_directoryName : '/' ∉ run.directoryName.toList :=
  fun h => absurd (run.isDigit_directoryName _ h) (by decide)

theorem head?_directoryName : run.directoryName.toList.head? ≠ some '/' :=
  fun h => run.slash_not_mem_directoryName (List.mem_of_head? h)

theorem join_path {path : String} (directory : String) (hpath : path.toList.head? ≠ some '/') :
    join (run.path directory) path = run.path directory ++ "/" ++ path := by
  have hlast : (run.path directory).toList.getLast? = run.directoryName.toList.getLast? :=
    getLast?_join run.directoryName_ne_empty directory
  refine join_of_directory (fun hne => ?_) (fun hslash => ?_) hpath
  · rw [hne] at hlast
    exact run.directoryName_ne_empty (by simpa using hlast.symm)
  · exact run.slash_not_mem_directoryName (List.mem_of_getLast? (hlast ▸ hslash))

end Run

/-- The name of the file for a stream, below the directory of a run. -/
def fileName (target : String) (m : Method) (s : Stream) : String :=
  m.name ++ "/" ++ (target ++ "_" ++ s.name ++ ".log")

/-- The name of a file does not lead out of the directory for its method. -/
theorem slash_not_mem_entry {target : String} (h : IsName target) (s : Stream) :
    '/' ∉ (target ++ "_" ++ s.name ++ ".log").toList := by
  have htarget : '/' ∉ target.toList := fun hmem =>
    absurd ((Text.isName_iff.mp h).2 '/' hmem) (by decide)
  cases s <;> simp [htarget, Stream.name]

theorem head?_methodName (m : Method) : m.name.toList.head? ≠ some '/' := by
  cases m <;> decide

theorem methodDirectory_eq (run : Run) (directory : String) (m : Method) :
    methodDirectory (run.path directory) m = run.path directory ++ "/" ++ m.name :=
  run.join_path directory (head?_methodName m)

theorem streamPath_eq_method {target : String} (h : IsName target) (run : Run) (directory : String)
    (m : Method) (s : Stream) :
    streamPath (run.path directory) target m s =
      methodDirectory (run.path directory) m ++ "/" ++ (target ++ "_" ++ s.name ++ ".log") := by
  have hlast : (methodDirectory (run.path directory) m).toList.getLast? ≠ some '/' := by
    rw [methodDirectory, getLast?_join (by cases m <;> decide)]
    cases m <;> decide
  have hne : methodDirectory (run.path directory) m ≠ "" := by
    rw [methodDirectory_eq]
    simp
  exact join_of_directory hne hlast fun hslash =>
    slash_not_mem_entry h s (List.mem_of_head? hslash)

theorem streamPath_eq {target : String} (h : IsName target) (run : Run) (directory : String)
    (m : Method) (s : Stream) :
    streamPath (run.path directory) target m s =
      run.path directory ++ "/" ++ fileName target m s := by
  rw [streamPath_eq_method h, methodDirectory_eq, fileName]
  simp only [String.append_assoc]

/-- Whatever the targets are called, their files are told apart. -/
theorem fileName_inj {target target' : String} {m m' : Method} {s s' : Stream}
    (h : fileName target m s = fileName target' m' s') : target = target' ∧ m = m' ∧ s = s' := by
  have hm : m = m' := by
    have hhead := congrArg (·.toList.head?) h
    cases m <;> cases m' <;> simp [fileName, Method.name] at hhead <;> rfl
  subst hm
  -- Both ends are equally long, so a target that looks like one does no harm.
  have hlength : s.name.toList.length = s'.name.toList.length := by
    cases s <;> cases s' <;> decide
  have hlists : target.toList ++ ('_' :: (s.name.toList ++ ".log".toList)) =
      target'.toList ++ ('_' :: (s'.name.toList ++ ".log".toList)) := by
    simpa [fileName] using congrArg String.toList h
  obtain ⟨htarget, hend⟩ := List.append_inj' hlists (by simpa using hlength)
  refine ⟨String.toList_inj.mp htarget, rfl, ?_⟩
  cases s <;> cases s' <;> first | rfl | simp [Stream.name] at hend

/-! ## What is filed -/

/-- What files hold, by their paths or by their names in a directory. -/
abbrev Contents := String → Option (List UInt8)

/-- The files below a directory, by their names there. -/
def inside (files : Contents) (directory : String) : Contents :=
  fun name => files (directory ++ "/" ++ name)

theorem inside_update (files : Contents) (directory name : String)
    (bytes : Option (List UInt8)) :
    inside (Function.update files (directory ++ "/" ++ name) bytes) directory =
      Function.update (inside files directory) name bytes :=
  Function.update_comp_eq_of_injective files
    (fun _ _ h => by simpa [String.append_assoc] using h) name bytes

/-- Events are written elsewhere. -/
theorem IsEventPath.ne_inside {directory path : String} (h : IsEventPath directory path) (run : Run)
    (name : String) : run.path directory ++ "/" ++ name ≠ path := by
  obtain ⟨base, hlength, hbase⟩ := exists_join directory
  rw [Run.path, hbase _ run.head?_directoryName]
  cases h with
  | directory =>
    intro heq
    have hsame := congrArg String.length heq
    have hslash : "/".length = 1 := by decide
    simp only [String.length_append, hslash] at hsame
    omega
  | events =>
    rw [hbase eventLogName (by decide)]
    intro heq
    have hmem : '/' ∈ eventLogName.toList := by
      have hlists := congrArg String.toList heq
      simp only [String.toList_append, List.append_assoc, List.append_cancel_left_eq] at hlists
      simp [← hlists]
    exact absurd hmem (by decide)

/-- What a command of a target has left behind. -/
structure Filing where
  target : String
  method : Method
  output : Output

namespace Filing

/-- What tells the files of a filing from those of others. -/
def key (f : Filing) : String × Method := (f.target, f.method)

def name (f : Filing) (s : Stream) : String := fileName f.target f.method s

def bytes (f : Filing) (s : Stream) : List UInt8 := Text.encode (sectioned s (f.output.text s))

/-- The files below a directory with those of a filing put among them. -/
def put (f : Filing) (contents : Contents) : Contents :=
  Function.update (Function.update contents (f.name .stdout) (some (f.bytes .stdout)))
    (f.name .stderr) (some (f.bytes .stderr))

variable {f g : Filing} {s t : Stream}

theorem name_inj (h : f.name s = g.name t) : f.key = g.key ∧ s = t := by
  obtain ⟨htarget, hmethod, hs⟩ := fileName_inj h
  exact ⟨by rw [key, key, htarget, hmethod], hs⟩

theorem put_name (f : Filing) (contents : Contents) (s : Stream) :
    f.put contents (f.name s) = some (f.bytes s) := by
  have hne : f.name .stdout ≠ f.name .stderr := fun h => by cases (name_inj h).2
  cases s with
  | stdout => rw [put, Function.update_of_ne hne, Function.update_self]
  | stderr => rw [put, Function.update_self]

theorem put_of_ne {name : String} (h : ∀ s, name ≠ f.name s)
    (contents : Contents) : f.put contents name = contents name := by
  rw [put, Function.update_of_ne (h .stderr), Function.update_of_ne (h .stdout)]

end Filing

/-- In a directory there are the files of filings, and no others. -/
structure Filed (fs : List Filing) (contents : Contents) : Prop where
  held : ∀ f ∈ fs, ∀ s, contents (f.name s) = some (f.bytes s)
  only : ∀ name, contents name ≠ none → ∃ f ∈ fs, ∃ s, name = f.name s

theorem Filed.put {fs : List Filing} {contents : Contents}
    (h : Filed fs contents) {f : Filing} (hnew : f.key ∉ fs.map Filing.key) :
    Filed (fs ++ [f]) (f.put contents) where
  held := by
    intro g hg s
    rcases List.mem_append.mp hg with hg | hg
    · have hne (t : Stream) : g.name s ≠ f.name t := fun heq =>
        hnew (List.mem_map.mpr ⟨g, hg, (Filing.name_inj heq).1⟩)
      rw [f.put_of_ne hne, h.held g hg s]
    · obtain rfl := List.mem_singleton.mp hg
      exact g.put_name contents s
  only := by
    intro name hname
    by_cases hown : ∃ s, name = f.name s
    · exact ⟨f, by simp, hown⟩
    · rw [f.put_of_ne fun s heq => hown ⟨s, heq⟩] at hname
      obtain ⟨g, hg, hs⟩ := h.only name hname
      exact ⟨g, List.mem_append_left _ hg, hs⟩

/-! ## A disk that keeps what is written -/

/-- As long as a disk is writable, the directories of a journal can be made there, what is written
in a directory that is there is the content of a file, and no other file changes: different paths
are those of different files. -/
structure Disk.Stores {σ : Type} (disk : Disk σ) (directory : String) (writable : σ → Prop)
    (there : String → σ → Prop) (files : σ → Contents) : Prop where
  events : ∀ kept : Contents, ∀ path, IsEventPath directory path → disk.Keeps
    (fun w => writable w ∧ ∀ other, ¬ IsEventPath directory other → files w other = kept other) path
  made : ∀ {w}, writable w → ∀ (run : Run) m, ∃ w',
    disk.makeDirectories (methodDirectory (run.path directory) m) w = (.ok (), w') ∧
      writable w' ∧ there (methodDirectory (run.path directory) m) w' ∧ files w' = files w
  written : ∀ {w}, writable w → ∀ (run : Run) m,
    there (methodDirectory (run.path directory) m) w → ∀ target, IsName target → ∀ s bytes, ∃ w',
      disk.write (streamPath (run.path directory) target m s) bytes w = (.ok (), w') ∧
        writable w' ∧ there (methodDirectory (run.path directory) m) w' ∧
        files w' = Function.update (files w) (streamPath (run.path directory) target m s)
          (some bytes)

namespace Disk.Stores

variable {σ : Type} {disk : Disk σ} {directory : String} {writable : σ → Prop}
  {there : String → σ → Prop} {files : σ → Contents} {w : σ}

/-- An event changes nothing below the directories of runs. -/
theorem record_event (h : disk.Stores directory writable there files) (hw : writable w)
    (time : Nat) (e : Event) (run : Run) :
    writable (disk.record directory time (.event e) w) ∧
      inside (files (disk.record directory time (.event e) w)) (run.path directory) =
        inside (files w) (run.path directory) := by
  obtain ⟨hkept, hsame⟩ := appendEvent_keeps (h.events (files w))
    (timestamp (time / 1000000000)) e ⟨hw, fun _ _ => rfl⟩
  exact ⟨hkept, funext fun name => hsame _ fun hevent => hevent.ne_inside run name rfl⟩

/-- The output of a target is filed, and nothing else changes below the directory of the run. -/
theorem record_output (h : disk.Stores directory writable there files) (hw : writable w)
    (time : Nat) (run : Run) {target : String} (hname : IsName target) (m : Method)
    (output : Output) :
    writable (disk.record directory time (.output run target m output) w) ∧
      inside (files (disk.record directory time (.output run target m output) w))
          (run.path directory) =
        Filing.put ⟨target, m, output⟩ (inside (files w) (run.path directory)) := by
  obtain ⟨w₁, hmade, hw₁, hthere₁, hfiles₁⟩ := h.made hw run m
  obtain ⟨w₂, hstdout, hw₂, hthere₂, hfiles₂⟩ := h.written hw₁ run m hthere₁ target hname .stdout
    (Text.encode (sectioned .stdout output.stdout))
  obtain ⟨w₃, hstderr, hw₃, -, hfiles₃⟩ := h.written hw₂ run m hthere₂ target hname .stderr
    (Text.encode (sectioned .stderr output.stderr))
  have hrecord : disk.record directory time (.output run target m output) w = w₃ := by
    rw [record, writeOutput, ← Run.path, hmade]
    simp only [writeStream, hstdout, hstderr]
  rw [hrecord, hfiles₃, hfiles₂, hfiles₁, streamPath_eq hname, streamPath_eq hname, inside_update,
    inside_update]
  exact ⟨hw₃, rfl⟩

end Disk.Stores

/-! ## A cabinet of files -/

/-- Files, and the directories in which files can be written. -/
structure Cabinet where
  directories : List String
  files : Contents

/-- What is before the last slash of a path. -/
def above (path : String) : String :=
  String.ofList (path.toList.reverse.dropWhile (· != '/')).tail.reverse

theorem above_append {name : String} (h : '/' ∉ name.toList) (directory : String) :
    above (directory ++ "/" ++ name) = directory := by
  have hname : ∀ c ∈ name.toList.reverse, (c != '/') = true := fun c hc =>
    bne_iff_ne.mpr fun heq => h (heq ▸ List.mem_reverse.mp hc)
  simp [above, List.dropWhile_append_of_pos hname]

def Cabinet.put (w : Cabinet) (path : String) (bytes : List UInt8) :
    Except FileError Unit × Cabinet :=
  if above path ∈ w.directories then
    (.ok (), { w with files := Function.update w.files path (some bytes) })
  else (.error .notFound, w)

/-- A disk that never runs out of room, and on which files can be written in the directories that
have been made. -/
def Disk.cabinet : Disk Cabinet where
  makeDirectories path w := (.ok (), { w with directories := path :: w.directories })
  append path bytes w := w.put path ((w.files path).getD [] ++ bytes)
  write path bytes w := w.put path bytes

theorem Cabinet.put_of_ne (w : Cabinet) {path other : String} (h : other ≠ path)
    (bytes : List UInt8) : (w.put path bytes).2.files other = w.files other := by
  rw [put]
  split
  · exact Function.update_of_ne h _ _
  · rfl

theorem Disk.stores_cabinet (directory : String) : Disk.cabinet.Stores directory (fun _ => True)
    (fun path w => path ∈ w.directories) Cabinet.files where
  events kept path hpath := by
    have hne {other : String} (h : ¬ IsEventPath directory other) : other ≠ path := fun heq =>
      h (heq ▸ hpath)
    exact ⟨fun hw => hw,
      fun hw _ => ⟨trivial, fun other h => (Cabinet.put_of_ne _ (hne h) _).trans (hw.2 other h)⟩,
      fun hw _ => ⟨trivial, fun other h => (Cabinet.put_of_ne _ (hne h) _).trans (hw.2 other h)⟩⟩
  made _ run m := ⟨_, rfl, trivial, List.mem_cons_self .., rfl⟩
  written {w} _ run m hthere target hname s bytes := by
    have habove : above (streamPath (run.path directory) target m s) =
        methodDirectory (run.path directory) m := by
      rw [streamPath_eq_method hname, above_append (slash_not_mem_entry hname s)]
    exact ⟨_, if_pos (habove ▸ hthere), trivial, hthere, rfl⟩

theorem Disk.Stores.on {σ τ : Type} {disk : Disk σ} {directory : String} {writable : σ → Prop}
    {there : String → σ → Prop} {files : σ → Contents} {get : τ → σ}
    {set : τ → σ → τ} (h : disk.Stores directory writable there files)
    (hget : ∀ w t, get (set w t) = t) :
    (disk.on get set).Stores directory (fun w => writable (get w)) (fun path w => there path (get w))
      fun w => files (get w) where
  events kept path hpath := by
    have hkeeps := h.events kept path hpath
    refine ⟨fun hw => ?_, fun hw more => ?_, fun hw more => ?_⟩
    all_goals simp only [Disk.on, hget]
    · exact hkeeps.makeDirectories hw
    · exact hkeeps.append hw more
    · exact hkeeps.write hw more
  made {w} hw run m := by
    obtain ⟨t, hmade, hkept⟩ := h.made hw run m
    exact ⟨set w t, by simp [Disk.on, hmade], by simpa [hget] using hkept⟩
  written {w} hw run m hthere target hname s bytes := by
    obtain ⟨t, hwritten, hkept⟩ := h.written hw run m hthere target hname s bytes
    exact ⟨set w t, by simp [Disk.on, hwritten], by simpa [hget] using hkept⟩

end Journal

end Provision
