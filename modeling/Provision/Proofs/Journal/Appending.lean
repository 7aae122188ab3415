import Provision.Proofs.Files.Paths
import Provision.Proofs.Journal.Disk
import Provision.Proofs.Json.Value
import Provision.Proofs.Text.Lines

namespace Provision.Journal

open Files

namespace Event

variable {a b : Event} {s t time : String}

/-! ## What can be told from a line -/

/-- An event with zero in the place of a number of seconds. -/
def untimed : Event → Event
  | .targetChecked target status _ => .targetChecked target status 0
  | .targetInstalled target _ => .targetInstalled target 0
  | .runCompleted run pass succeeded failed skipped _ =>
    .runCompleted run pass succeeded failed skipped 0
  | e => e

/-- The bytes of the line of an event, without its end. -/
def encoded (time : String) (e : Event) : List UInt8 := Text.encode (String.ofList (e.line time))

theorem le_of_mem_line {c : Char} (h : c ∈ a.line time) : 0x20 ≤ c.toNat := Json.le_of_mem_object h

theorem le_of_mem_encoded : ∀ b ∈ a.encoded time, 0x20 ≤ b.toNat :=
  Text.le_of_mem_encode fun _ => le_of_mem_line

theorem status_name_inj {s t : Status} (h : s.name = t.name) : s = t := by
  cases s <;> cases t <;> first | rfl | simp [Status.name] at h

theorem method_name_inj {m n : Method} (h : m.name = n.name) : m = n := by
  cases m <;> cases n <;> first | rfl | simp [Method.name] at h

/-- Events of one name have fields of the same names and kinds. -/
theorem matching_fields (h : a.name = b.name) : Json.Matching a.fields b.fields := by
  cases a <;> cases b <;> simp [name] at h
  all_goals
    simp [Json.Matching, fields, Json.Value.Alike.text, Json.Value.Alike.integer,
      Json.Value.Alike.seconds]

/-- Events of one name with the same fields are the same, seconds apart. -/
theorem untimed_eq_of_fields (hname : a.name = b.name)
    (h : a.fields.map (fun f => f.2.untimed) = b.fields.map fun f => f.2.untimed) :
    a.untimed = b.untimed := by
  cases a <;> cases b <;> simp [name] at hname
  all_goals simp [fields, Json.Value.untimed] at h
  case runStarted.runStarted => simp [h]
  case targetChecked.targetChecked => simp [untimed, h.1, status_name_inj h.2]
  case targetInstalled.targetInstalled => simp [untimed, h]
  case targetFailed.targetFailed => simp [h, method_name_inj h.2.1]
  case targetSkipped.targetSkipped => simp [h]
  case runCompleted.runCompleted run pass succeeded failed skipped _ run' pass' succeeded' failed'
      skipped' _ =>
    obtain ⟨rfl, rfl, hsucceeded, hfailed, hskipped⟩ := h
    obtain rfl : succeeded = succeeded' := UInt32.toNat_inj.mp (by omega)
    obtain rfl : failed = failed' := UInt32.toNat_inj.mp (by omega)
    obtain rfl : skipped = skipped' := UInt32.toNat_inj.mp (by omega)
    rfl

/-- The time and the event can be told from the line, apart from seconds. -/
theorem line_inj (h : a.line s = b.line t) : s = t ∧ a.untimed = b.untimed := by
  rw [line, line, Json.object_cons, Json.object_cons] at h
  obtain ⟨htime, hrest⟩ := Json.field_append_inj (.text s t) (List.cons.inj h).2
  obtain ⟨hname, hfields⟩ := Json.field_append_inj (.text a.name b.name) (List.cons.inj hrest).2
  have hs : s = t := by simpa [Json.Value.untimed] using htime
  have hkind : a.name = b.name := by simpa [Json.Value.untimed] using hname
  exact ⟨hs, untimed_eq_of_fields hkind (Json.following_inj (matching_fields hkind) hfields)⟩

theorem encoded_inj (h : a.encoded s = b.encoded t) : s = t ∧ a.untimed = b.untimed :=
  line_inj (String.ofList_inj.mp (Text.encode_inj h))

end Event

/-! ## A log that grows -/

/-- Adds events to the log in a directory, one after the other, each at its own time. -/
def appendEvents (directory : String) :
    List (String × Event) → Tree → Except LogError Unit × Tree
  | [], t => (.ok (), t)
  | (time, e) :: rest, t =>
    match appendEvent directory time e t with
    | (.ok (), t) => appendEvents directory rest t
    | (.error e, t) => (.error e, t)

/-- The bytes of lines, each with its end. -/
def ended (lines : List (List UInt8)) : List UInt8 := lines.flatMap (· ++ [10])

variable {t t' : Tree} {directory time : String} {bytes : List UInt8} {e : Event}

theorem endsWith_join {path : String} (hne : path ≠ "") (hslash : path.toList.getLast? ≠ some '/')
    (directory : String) : (join directory path).endsWith "/" = false := by
  rw [endsWith_slash, getLast?_join hne]
  simpa using hslash

/-- A log to which events can be added: its directory is there, and it is a file or not there
itself. -/
structure Ready (t : Tree) (directory : String) (bytes : List UInt8) : Prop where
  there : directory = "" ∨ ∃ path, Tree.check directory = .ok path ∧ t.HasDirectory path
  log : t.Grows (join directory eventLogName) bytes

theorem ready_of_makeDirectories (hmade : t.makeDirectories directory = (.ok (), t'))
    (hlog : t'.Grows (join directory eventLogName) bytes) : Ready t' directory bytes where
  there := or_iff_not_imp_left.mpr (Tree.hasDirectory_makeDirectories hmade)
  log := hlog

theorem Ready.makeDirectories (h : Ready t directory bytes) :
    t.makeDirectories directory = (.ok (), t) := by
  rcases h.there with rfl | ⟨path, hcheck, hdirectory⟩
  · rfl
  · exact hdirectory.makeDirectories hcheck

theorem written_eq (time : String) (e : Event) :
    Text.encode (String.ofList (e.line time ++ ['\n'])) = e.encoded time ++ [10] := by
  rw [Event.encoded, Text.encode_ofList, Text.encode_ofList, List.flatMap_append]
  rfl

/-- An event adds its line, and the log stays ready. -/
theorem appendEvent_ready (hmade : t.makeDirectories directory = (.ok (), t'))
    (h : Ready t' directory bytes) (time : String) (e : Event) :
    ∃ t'', appendEvent directory time e t = (.ok (), t'') ∧
      Ready t'' directory (bytes ++ (e.encoded time ++ [10])) ∧
      t''.read (join directory eventLogName) = .ok (bytes ++ (e.encoded time ++ [10])) := by
  have hslash : (join directory eventLogName).endsWith "/" = false :=
    endsWith_join (by decide) (by decide) directory
  obtain ⟨t'', hput, hgrown, hread, hkept⟩ := h.log.append hslash (e.encoded time ++ [10])
  refine ⟨t'', ?_, ⟨h.there.imp_right fun ⟨path, hcheck, hthere⟩ =>
    ⟨path, hcheck, hkept path hthere⟩, hgrown⟩, hread⟩
  rw [appendEvent, hmade]
  dsimp only
  rw [written_eq, hput]

/-- Events add their lines, one after the other. -/
theorem appendEvents_ready (hmade : t.makeDirectories directory = (.ok (), t'))
    (h : Ready t' directory bytes) (es : List (String × Event)) :
    ∃ t'', appendEvents directory es t = (.ok (), t'') ∧ (es = [] → t'' = t) ∧
      (es ≠ [] → t''.read (join directory eventLogName) =
        .ok (bytes ++ ended (es.map fun (time, e) => e.encoded time))) := by
  induction es generalizing t t' bytes with
  | nil => exact ⟨t, rfl, fun _ => rfl, fun hne => absurd rfl hne⟩
  | cons entry rest ih =>
    obtain ⟨time, e⟩ := entry
    obtain ⟨t₁, hadded, hready, hread⟩ := appendEvent_ready hmade h time e
    obtain ⟨t₂, hmore, hsame, hread'⟩ := ih hready.makeDirectories hready
    refine ⟨t₂, ?_, by simp, fun _ => ?_⟩
    · rw [appendEvents, hadded]
      exact hmore
    · by_cases hrest : rest = []
      · rw [hsame hrest, hread, hrest]
        simp [ended]
      · rw [hread' hrest]
        simp [ended]

/-- Lines without line feeds are told apart behind a log that ends where a line ends. -/
theorem endedLines_ended (hend : ∀ b ∈ bytes.getLast?, b = 10) {lines : List (List UInt8)}
    (hlines : ∀ line ∈ lines, (10 : UInt8) ∉ line) :
    Text.endedLines (bytes ++ ended lines) = Text.endedLines bytes ++ lines := by
  induction lines generalizing bytes with
  | nil => simp [ended]
  | cons line lines ih =>
    obtain ⟨hline, hlines⟩ := List.forall_mem_cons.mp hlines
    have hsplit : bytes ++ ended (line :: lines) = bytes ++ (line ++ [10]) ++ ended lines := by
      simp [ended]
    rw [hsplit, ih (by simp) hlines, Text.endedLines_append hend, Text.endedLines_line hline]
    simp

/-- Whatever their texts hold, events that are added to a log one by one leave the old lines as they
are and give one line each, in which there are no control characters, and which tells the time and
the event, apart from seconds. -/
theorem appendEvents_lines (hmade : t.makeDirectories directory = (.ok (), t'))
    (hlog : t'.Grows (join directory eventLogName) bytes) (hend : ∀ b ∈ bytes.getLast?, b = 10)
    (es : List (String × Event)) :
    let lines := es.map fun (time, e) => e.encoded time
    (∃ t'', appendEvents directory es t = (.ok (), t'') ∧ (es = [] → t'' = t) ∧
      (es ≠ [] → t''.read (join directory eventLogName) = .ok (bytes ++ ended lines))) ∧
    Text.endedLines (bytes ++ ended lines) = Text.endedLines bytes ++ lines ∧
    (∀ e : Event, ∀ time, ∀ c ∈ e.line time, ' ' ≤ c) ∧
    (∀ line ∈ lines, ∀ b ∈ line, 0x20 ≤ b) ∧
    ∀ a b : Event, ∀ time time', a.encoded time = b.encoded time' →
      time = time' ∧ a.untimed = b.untimed := by
  intro lines
  have hlines : ∀ line ∈ lines, ∀ b ∈ line, 0x20 ≤ b := by
    intro line hline b hb
    obtain ⟨⟨time, e⟩, -, rfl⟩ := List.mem_map.mp hline
    exact Event.le_of_mem_encoded b hb
  refine ⟨appendEvents_ready hmade (ready_of_makeDirectories hmade hlog) es, ?_,
    fun e time c hc => Event.le_of_mem_line hc, hlines, fun a b _ _ => Event.encoded_inj⟩
  refine endedLines_ended hend fun line hline hbreak => ?_
  exact absurd (hlines line hline 10 hbreak) (by decide)

/-- A directory with a log that has one line. -/
def oneLine : Tree where
  nodes := #[.fresh (.directory 0 [("logs", 1)]) 0o755 0,
    .fresh (.directory 0 [("events.jsonl", 2)]) 0o755 0,
    .fresh (.file [0x7B, 0x7D, 10]) 0o644 0]
  working := 0
  time := 0

/-- Two events behind the line, one of them with a line feed and quotes in a name. -/
theorem appendEvents_oneLine :
    let es : List (String × Event) :=
      [("noon", .targetSkipped "tea\n\"cup\""), ("noon", .targetFailed "kettle" .setup (-1))]
    let lines := es.map fun (time, e) => e.encoded time
    (∃ t, appendEvents "logs" es oneLine = (.ok (), t) ∧
      t.read "logs/events.jsonl" = .ok ([0x7B, 0x7D, 10] ++ ended lines)) ∧
      Text.endedLines ([0x7B, 0x7D, 10] ++ ended lines) = [0x7B, 0x7D] :: lines := by
  intro es lines
  have hjoin : join "logs" eventLogName = "logs/events.jsonl" := by
    simp [join, eventLogName, startsWith_slash, endsWith_slash]
  have hdirectory : Tree.check "logs" = .ok ⟨false, ["logs"]⟩ := by
    rw [Tree.check, if_neg (by simp), if_neg (by simp), if_neg (by decide +kernel), Path.ofString,
      startsWith_slash]
    decide +kernel
  have hpath : Tree.check "logs/events.jsonl" = .ok ⟨false, ["logs", "events.jsonl"]⟩ := by
    rw [Tree.check, if_neg (by simp), if_neg (by simp), if_neg (by decide +kernel), Path.ofString,
      startsWith_slash]
    decide +kernel
  have hthere : oneLine.HasDirectory ⟨false, ["logs"]⟩ :=
    ⟨⟨0, "logs", some 1⟩, 1, 0, [("events.jsonl", 2)], by decide +kernel, rfl, rfl⟩
  have hplace : oneLine.place true "logs/events.jsonl" = .ok ⟨1, "events.jsonl", some 2⟩ := by
    rw [Tree.place, hpath, endsWith_slash]
    decide +kernel
  have hlog : oneLine.Grows (join "logs" eventLogName) [0x7B, 0x7D, 10] := by
    rw [hjoin]
    exact .file (n := .fresh (.file [0x7B, 0x7D, 10]) 0o644 0) hplace rfl rfl rfl
  obtain ⟨⟨t, hadded, -, hread⟩, hended, -⟩ :=
    appendEvents_lines (hthere.makeDirectories hdirectory) hlog (by simp) es
  rw [hjoin] at hread
  exact ⟨⟨t, hadded, hread (by simp [es])⟩, hended⟩

end Provision.Journal
