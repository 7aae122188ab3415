import Provision.Editing.Reader
import Provision.Files.Mode
import Provision.Program.Copying

/-!
The program that edits lines as a script tells.
-/

namespace Provision.Program

open Bytes (toText ofText)
open Editing
open Files (FileError Tree)
open Shell (Run)

/-! ## State -/

/-- A line, and whether it is ended. -/
structure Row where
  text : Chars := []
  ended : Bool := true

/-- Where lines go: a descriptor, what is held back for it, the last piece first, and whether the last
line there still has to be ended. -/
structure Sink where
  descriptor : Nat
  held : List Chars := []
  size : Nat := 0
  isOpenLine : Bool := false

/-- An input from which lines are read: its name, its descriptor, what has been read of the next
lines, and whether there is no more. A file that is changed itself has a new one beside it. -/
structure Feed where
  name : Chars
  descriptor : Nat
  held : Chars := []
  isOver : Bool := false
  goal : Option Chars := none

/-- How far a command with two addresses has come: it waits for the first line, or goes on up to a
known line or up to one that fits. -/
inductive Extent
  | waiting
  | upTo (line : Nat)
  | going
  deriving DecidableEq, BEq

/-- What is put behind a line when all is done with it. -/
inductive Added
  | text (t : Chars)
  | file (path : Chars)

/-- How lines are edited. -/
structure EditStyle where
  name : String
  script : Script
  silent : Bool := false
  separate : Bool := false
  inPlace : Option Chars := none
  throughLinks : Bool := false
  width : Nat := 70
  mark : Char := '\n'
  eager : Bool := false

/-- How far the edit has come. -/
structure Editor where
  row : Row := {}
  kept : Row := {}
  number : Nat := 0
  added : List Added := []
  replaced : Bool := false
  extents : Array Extent
  last : Option Wanted := none
  files : List Chars
  feed : Option Feed := none
  name : Chars := ['-']
  sinks : Array Sink := #[{ descriptor := 1 }]
  goals : List (Chars × Nat) := []
  sources : List (Chars × Nat × Chars × Bool) := []
  status : Nat := 0

abbrev Edit := StateT Editor Run

namespace Edit

/-- Ends the program with a status. -/
def leave {α : Type} (status : Nat) : Edit α := do
  Run.setStatus status
  Run.stop

/-! ## Writing -/

def flush (i : Nat) : Edit Unit := do
  match (← get).sinks[i]? with
  | none => return
  | some k =>
    if k.held.isEmpty then return
    modify fun e => { e with sinks := e.sinks.set! i { k with held := [], size := 0 } }
    match ← Run.write k.descriptor k.held.reverse.flatten with
    | .ok () => return
    | .error e =>
      let _ ← complain "sed" ("couldn't flush stdout: " ++ e.reason)
      leave 4

def flushAll : Edit Unit := do
  for i in List.range (← get).sinks.size do flush i

/-- Writes a text. -/
def put (st : EditStyle) (i : Nat) (t : Chars) : Edit Unit := do
  let e ← get
  match e.sinks[i]? with
  | none => return
  | some k =>
    let size := k.size + t.length
    set { e with sinks := e.sinks.set! i { k with held := t :: k.held, size } }
    if st.eager || blockSize ≤ size then flush i

/-- Ends a line that is still open. -/
def endLine (st : EditStyle) (i : Nat) : Edit Unit := do
  let e ← get
  match e.sinks[i]? with
  | none => return
  | some k =>
    if k.isOpenLine then
      set { e with sinks := e.sinks.set! i { k with isOpenLine := false } }
      put st i [st.mark]

/-- Writes a text behind all lines so far. -/
def putText (st : EditStyle) (i : Nat) (t : Chars) : Edit Unit := do
  endLine st i
  put st i t

/-- Writes a line. -/
def putRow (st : EditStyle) (i : Nat) (r : Row) : Edit Unit := do
  putText st i (if r.ended then r.text ++ [st.mark] else r.text)
  if !r.ended then
    modify fun e => { e with sinks := e.sinks.modify i fun k => { k with isOpenLine := true } }

/-- Puts behind the line what belongs there. -/
def putAdded (st : EditStyle) : Edit Unit := do
  for a in (← get).added.reverse do
    match a with
    | .text t => putText st 0 t
    | .file path =>
      endLine st 0
      match ← readOperand (if path = "/dev/stdin".toList then ['-'] else path) with
      | .ok t => put st 0 t
      | .error _ => pure ()
  modify fun e => { e with added := [] }

/-! ## Reading -/

/-- Reads on until a line is complete or there is no more. -/
def fill (mark : Char) : Nat → Feed → Edit Feed
  | 0, f => return f
  | room + 1, f => do
    if f.isOver || f.held.contains mark then return f
    match ← Run.readSome f.descriptor blockSize with
    | .ok [] => return { f with isOver := true }
    | .ok t => fill mark room { f with held := f.held ++ t }
    | .error e =>
      flushAll
      let name := if f.name = ['-'] then "stdin" else toText f.name
      let _ ← complain "sed" ("read error on " ++ name ++ ": " ++ e.reason)
      leave 4

/-- Puts a changed file in the place of the old one. -/
def finishFile (st : EditStyle) (f : Feed) : Edit Unit := do
  match f.goal, st.inPlace with
  | some new, some ending =>
    flush 0
    match (← get).sinks[0]? with
    | some k => Run.setDescriptor k.descriptor none
    | none => pure ()
    let t ← Run.tree
    let path ← do
      if !st.throughLinks then pure f.name
      else match resolve t .nothing f.name with
        | .ok way => pure (absolutePath way)
        | .error _ => pure f.name
    match t.find (toText f.name) with
    | .ok n =>
      let _ ← Run.changeTree fun t => do
        let id ← t.locateEntry (toText new)
        return t.modify id fun m => { m with mode := n.mode, owner := n.owner, group := n.group }
    | .error _ => pure ()
    if !ending.isEmpty then
      let base := lastPart path
      let name := if ending.contains '*' then
          ending.flatMap fun c => if c = '*' then base else [c]
        else base ++ ending
      let above := withoutLastPart path
      let backup := if name.contains '/' then name
        else if above = ['.'] then name else above ++ '/' :: name
      let _ ← Run.changeTree (·.rename (toText path) (toText backup))
    let _ ← Run.changeTree (·.rename (toText new) (toText path))
    modify fun e => { e with sinks := e.sinks.set! 0 { descriptor := 1 } }
  | _, _ => return

/-- Ends the reading of the present file. -/
def closeFeed (st : EditStyle) : Edit Unit := do
  match (← get).feed with
  | none => return
  | some f =>
    if f.descriptor = 0 then Run.putBack 0 f.held.length
    else Run.setDescriptor f.descriptor none
    finishFile st f
    modify fun e => { e with feed := none }

/-- Opens a new file beside one that is changed. -/
def openBeside (path : Chars) : Edit (Option Chars) := do
  let above := withoutLastPart path
  let letters := (Nat.toDigits 36 (← Run.now)).reverse.take 6 |>.map fun c =>
    if c.isAlphanum then c else 'Z'
  let name := "sed".toList ++ letters.leftpad 6 'x'
  let new := if above = ['.'] then name else above ++ '/' :: name
  match ← Run.openPath (toText new) .write with
  | .ok stream =>
    let d ← Run.freeDescriptor 3
    Run.setDescriptor d (some stream)
    modify fun e => { e with sinks := e.sinks.set! 0 { descriptor := d } }
    return some new
  | .error e =>
    let _ ← complain "sed" ("couldn't open temporary file " ++ toText new ++ ": " ++ e.reason)
    leave 4

/-- Opens the next file that can be read. -/
def openNext (st : EditStyle) : List Chars → Edit Bool
  | [] => do
    modify fun e => { e with files := [] }
    return false
  | path :: rest => do
    let accept (f : Feed) : Edit Bool := do
      modify fun e => { e with files := rest, feed := some f, name := path }
      if st.separate then
        modify fun e =>
          { e with number := 0, extents := e.extents.map fun x => if x = .going then x else .waiting }
      return true
    if path = ['-'] && st.inPlace.isNone then accept { name := path, descriptor := 0 }
    else
      match ← Run.openPath (toText path) .read with
      | .error e =>
        flushAll
        let _ ← complain st.name ("can't read " ++ toText path ++ ": " ++ e.reason)
        modify fun e => { e with status := 2 }
        openNext st rest
      | .ok stream =>
        let t ← Run.tree
        if st.inPlace.isSome && !(t.find (toText path)).toOption.any Files.Node.isFile then
          flushAll
          let _ ← complain st.name ("couldn't edit " ++ toText path ++ ": not a regular file")
          leave 4
        else
          let d ← Run.freeDescriptor 3
          Run.setDescriptor d (some stream)
          let goal ← if st.inPlace.isSome then openBeside path else pure none
          accept { name := path, descriptor := d, goal }

/-- The next line, if there is one in the files that are left. -/
def nextRow? (st : EditStyle) : Nat → Edit (Option Row)
  | 0 => return none
  | room + 1 => do
    match (← get).feed with
    | none => if ← openNext st (← get).files then nextRow? st room else return none
    | some f =>
      let f ← fill st.mark Run.maxReads f
      let line := f.held.takeWhile (· ≠ st.mark)
      let ended := line.length < f.held.length
      if line.isEmpty && !ended then
        modify fun e => { e with feed := some f }
        closeFeed st
        nextRow? st room
      else
        let f := { f with held := f.held.drop (line.length + 1) }
        modify fun e => { e with feed := some f }
        let isFinal := (← get).files.isEmpty || st.separate
        return some ⟨line, ended || !isFinal⟩

/-- Whether the present line is the last one. -/
def isLast (st : EditStyle) : Edit Bool := do
  match (← get).feed with
  | none => return (← get).files.isEmpty
  | some f =>
    let f ← if f.held.isEmpty then fill st.mark Run.maxReads f else pure f
    modify fun e => { e with feed := some f }
    return f.held.isEmpty && f.isOver && (st.separate || (← get).files.isEmpty)

/-- Reads the next line into the place of the present one, or behind it. -/
def advance (st : EditStyle) (behind : Bool) : Edit Bool := do
  putAdded st
  match ← nextRow? st ((← get).files.length + 2) with
  | none => return false
  | some r =>
    modify fun e =>
      { e with
        replaced := false
        number := e.number + 1
        row := if behind then ⟨e.row.text ++ st.mark :: r.text, r.ended⟩ else r }
    return true

/-! ## Which lines -/

/-- What is looked for, where nothing stands for the last time. -/
def resolved (st : EditStyle) (w : Option Wanted) : Edit Wanted := do
  match w.or (← get).last with
  | some w =>
    modify fun e => { e with last := some w }
    return w
  | none =>
    flushAll
    let _ ← complain st.name ("-e expression #1, char 0: " ++ Fault.message .noLastExpression)
    leave 1

/-- Whether an address is that of the present line. -/
def isAt (st : EditStyle) (a : Address) : Edit Bool := do
  let e ← get
  match a with
  | .line n => return n = e.number
  | .every first step => return first ≤ e.number && (e.number - first) % step = 0
  | .last => isLast st
  | .fits w =>
    let w ← resolved st w
    return w.expression.finds (.ofChars w.fold e.row.text)
  | .more _ | .multiple _ => return false

/-- Whether a command is meant for the present line. -/
def isMeant (st : EditStyle) (i : Nat) (s : Scope) : Edit Bool := do
  match s with
  | .always => return true
  | .at a => isAt st a
  | .between a b =>
    let here := (← get).number
    let become (x : Extent) : Edit Unit :=
      modify fun e => { e with extents := e.extents.set! i x }
    match (← get).extents[i]?.getD .waiting with
    | .upTo line =>
      if line ≤ here then become .waiting
      return here ≤ line
    | .going =>
      if ← isAt st b then become .waiting
      return true
    | .waiting =>
      if !(← isAt st a) then return false
      match b with
      | .line n => if here < n then become (.upTo n)
      | .more n => if 0 < n then become (.upTo (here + n))
      | .multiple n => if 0 < n then become (.upTo (here + n - here % n))
      | _ => become .going
      return true

/-! ## Commands -/

/-- What comes after the commands for a line: the next one, the same row once more, or the end. -/
inductive After
  | finished (shows : Bool)
  | again
  | quit (status : Nat)

/-- The sink for a file to which lines are written. -/
def sinkFor (path : Chars) : Edit Nat := do
  return ((← get).goals.lookup path).getD 0

/-- The next line of a file from which lines are read one by one. -/
def takeLine? (st : EditStyle) (path : Chars) : Edit (Option Chars) := do
  let sources := (← get).sources
  let text ← match sources.lookup path with
    | some (_, t, _) => pure t
    | none => do
      match ← readOperand (if path = "/dev/stdin".toList then ['-'] else path) with
      | .ok t => pure t
      | .error _ => pure []
  let line := text.takeWhile (· ≠ st.mark)
  let rest := text.drop (line.length + 1)
  modify fun e =>
    { e with sources := (path, 0, rest, false) :: sources.filter (·.1 ≠ path) }
  if text.isEmpty then return none
  return some (if line.length < text.length then line ++ [st.mark] else line)

/-- Runs a command. The answer is what the command has written. -/
def outputOf (c : Caller) (command : Chars) : Edit Chars := do
  flushAll
  return (← c.outputOf (shellWords command)).1

/-- Replaces parts of the row. -/
def substitute (c : Caller) (st : EditStyle) (s : Substitution) : Edit Unit := do
  let w ← resolved st s.wanted
  match s.apply? w (← get).row.text with
  | none => return
  | some t =>
    modify fun e => { e with replaced := true, row := { e.row with text := t } }
    if s.showsBefore then putRow st 0 (← get).row
    if s.runs then
      let text ← outputOf c t
      let text := if text.getLast? = some st.mark then text.dropLast else text
      modify fun e => { e with row := { e.row with text } }
    if s.showsBehind then putRow st 0 (← get).row
    match s.goal with
    | some path => putRow st (← sinkFor path) (← get).row
    | none => pure ()

/-- The row up to the end of its first line. -/
def firstLine (r : Row) : Row := ⟨r.text.takeWhile (· ≠ '\n'), true⟩

/-- Goes on at a command. -/
def run (c : Caller) (st : EditStyle) : (room : Nat) → (i : Nat) → Edit After
  | 0, _ => return .finished true
  | room + 1, i => do
    match st.script.commands[i]? with
    | none => return .finished true
    | some command =>
      let meant ← isMeant st i command.scope
      if meant = command.negated then
        match command.action with
        | .block stop => run c st room stop
        | _ => run c st room (i + 1)
      else
        let alter (f : Editor → Editor) : Edit After := do
          modify f
          run c st room (i + 1)
        let act (m : Edit Unit) : Edit After := do
          m
          run c st room (i + 1)
        let marked (t : Chars) : Chars :=
          if t.getLast? = some '\n' then t.dropLast ++ [st.mark] else t
        match command.action with
        | .block _ | .none => run c st room (i + 1)
        | .number => act do putText st 0 (Nat.toDigits 10 (← get).number ++ [st.mark])
        | .append t => alter fun e => { e with added := .text (marked t) :: e.added }
        | .insert t => act (putText st 0 (marked t))
        | .change t =>
          let extent := (← get).extents[i]?
          let isOver : Bool := match command.scope with
            | .between .. => command.negated || extent == some .waiting
            | _ => true
          if isOver then putText st 0 (marked t)
          return .finished false
        | .jump j label =>
          let jumps ← match j with
            | .always => pure true
            | .replaced => pure (← get).replaced
            | .unreplaced => pure !(← get).replaced
          if j ≠ .always then modify fun e => { e with replaced := false }
          if !jumps then run c st room (i + 1)
          else if label.isEmpty then return .finished true
          else
            match st.script.labels.lookup label with
            | some place => run c st room place
            | none => return .finished true
        | .delete => return .finished false
        | .deleteFirst =>
          let text := (← get).row.text
          if !text.contains '\n' then return .finished false
          modify fun e => { e with row := { e.row with text := (text.dropWhile (· ≠ '\n')).drop 1 } }
          return .again
        | .run command =>
          if command.isEmpty then
            let text ← outputOf c (← get).row.text
            let text := if text.getLast? = some st.mark then text.dropLast else text
            alter fun e => { e with row := { e.row with text } }
          else act do putText st 0 (← outputOf c command)
        | .fileName => act do putText st 0 ((← get).name ++ [st.mark])
        | .take => alter fun e => { e with row := e.kept }
        | .takeMore =>
          alter fun e => { e with row :=
            ⟨e.row.text ++ st.mark :: e.kept.text, e.row.ended || e.kept.ended⟩ }
        | .keep => alter fun e => { e with kept := e.row }
        | .keepMore =>
          alter fun e => { e with kept :=
            ⟨e.kept.text ++ st.mark :: e.row.text, e.kept.ended || e.row.ended⟩ }
        | .exchange => alter fun e => { e with row := e.kept, kept := e.row }
        | .list width =>
          act do putText st 0 (shownLine (width.getD st.width) (← get).row.text)
        | .next =>
          if !st.silent then putRow st 0 (← get).row
          if ← isLast st then return .finished false
          if !(← advance st false) then return .finished false
          run c st room (i + 1)
        | .nextMore =>
          if ← isLast st then return .finished true
          if !(← advance st true) then return .finished true
          run c st room (i + 1)
        | .print => act do putRow st 0 (← get).row
        | .printFirst => act do putRow st 0 (firstLine (← get).row)
        | .quit status prints =>
          if prints then
            if !st.silent then putRow st 0 (← get).row
            endLine st 0
            putAdded st
          return .quit status
        | .readFile path => alter fun e => { e with added := .file path :: e.added }
        | .readLine path => do
          match ← takeLine? st path with
          | some t => alter fun e => { e with added := .text t :: e.added }
          | none => run c st room (i + 1)
        | .write path => act do putRow st (← sinkFor path) (← get).row
        | .writeFirst path => act do putRow st (← sinkFor path) (firstLine (← get).row)
        | .substitute s => act (substitute c st s)
        | .translate pairs =>
          let translated (x : Char) : Char := (pairs.lookup x).getD x
          alter fun e => { e with row := { e.row with text := e.row.text.map translated } }
        | .clear => alter fun e => { e with row := { e.row with text := [] } }

/-- Edits one line after the other. The answer is the status. -/
def cycle (c : Caller) (st : EditStyle) : (room : Nat) → (fresh : Bool) → Edit Nat
  | 0, _ => return 0
  | room + 1, fresh => do
    let goesOn ← if fresh then advance st false else pure true
    if !goesOn then return (← get).status
    match ← run c st maxLines 0 with
    | .quit status => return status
    | .again =>
      putAdded st
      cycle c st room false
    | .finished shows =>
      if shows && !st.silent then putRow st 0 (← get).row
      putAdded st
      cycle c st room true

/-- Opens the files to which lines are written. -/
def openGoals (st : EditStyle) : Edit Unit := do
  for path in st.script.goals do
    let add (d : Nat) : Edit Unit :=
      modify fun e =>
        { e with goals := (path, e.sinks.size) :: e.goals, sinks := e.sinks.push { descriptor := d } }
    if path = "/dev/stdout".toList then
      if st.inPlace.isSome then add 1
      else modify fun e => { e with goals := (path, 0) :: e.goals }
    else if path = "/dev/stderr".toList then add 2
    else
      match ← Run.openPath (toText path) .write with
      | .ok stream =>
        let d ← Run.freeDescriptor 3
        Run.setDescriptor d (some stream)
        add d
      | .error e =>
        let _ ← complain st.name ("couldn't open file " ++ toText path ++ ": " ++ e.reason)
        leave 4

/-- Edits all files. -/
def all (c : Caller) (st : EditStyle) : Edit Nat := do
  openGoals st
  let status ← cycle c st maxLines true
  closeFeed st
  flushAll
  return status

end Edit

/-! ## The program -/

/-- Tells how the program is called. -/
def editUsage (status : Nat) : Run Nat := do
  Run.complain
    "Usage: sed [OPTION]... \x7bscript-only-if-no-other-script\x7d [input-file]...\n"
  Run.complain ("  -n, --quiet, --silent\n" ++
    "                 suppress automatic printing of pattern space\n" ++
    "      --debug\n" ++
    "                 annotate program execution\n" ++
    "  -e script, --expression=script\n" ++
    "                 add the script to the commands to be executed\n" ++
    "  -f script-file, --file=script-file\n" ++
    "                 add the contents of script-file to the commands to be executed\n" ++
    "  --follow-symlinks\n" ++
    "                 follow symlinks when processing in place\n" ++
    "  -i[SUFFIX], --in-place[=SUFFIX]\n" ++
    "                 edit files in place (makes backup if SUFFIX supplied)\n" ++
    "  -l N, --line-length=N\n" ++
    "                 specify the desired line-wrap length for the " ++ openQuote ++
    "l' command\n" ++
    "  --posix\n" ++
    "                 disable all GNU extensions.\n" ++
    "  -E, -r, --regexp-extended\n" ++
    "                 use extended regular expressions in the script\n" ++
    "                 (for portability use POSIX -E).\n" ++
    "  -s, --separate\n" ++
    "                 consider files as separate rather than as a single,\n" ++
    "                 continuous long stream.\n" ++
    "      --sandbox\n" ++
    "                 operate in sandbox mode (disable e/r/w commands).\n" ++
    "  -u, --unbuffered\n" ++
    "                 load minimal amounts of data from the input files and flush\n" ++
    "                 the output buffers more often\n" ++
    "  -z, --null-data\n" ++
    "                 separate lines by NUL characters\n" ++
    "      --help     display this help and exit\n" ++
    "      --version  output version information and exit\n\n" ++
    "If no -e, --expression, -f, or --file option is given, then the first\n" ++
    "non-option argument is taken as the sed script to interpret.  All\n" ++
    "remaining arguments are names of input files; if no input files are\n" ++
    "specified, then the standard input is read.\n")
  return status

/-- A piece of a script, which has a name if it is from a file. -/
structure ScriptPiece where
  file : Option Chars
  text : Chars

/-- Reads the pieces of a script in the order of the options. -/
def scriptPieces : List (String × Chars) → Run (Except Nat (List ScriptPiece))
  | [] => return .ok []
  | (key, value) :: rest => do
    let piece : Except Nat (List ScriptPiece) ← match key with
      | "e" => pure (.ok [⟨none, value⟩])
      | "f" => do
        match ← readOperand value with
        | .ok t => pure (.ok [⟨some value, if t.getLast? = some '\n' then t.dropLast else t⟩])
        | .error e =>
          let _ ← complain "sed" ("couldn't open file " ++ toText value ++ ": " ++ e.reason)
          pure (.error 4)
      | _ => pure (.ok [])
    match piece with
    | .error status => return .error status
    | .ok found =>
      match ← scriptPieces rest with
      | .ok more => return .ok (found ++ more)
      | .error status => return .error status

/-- Complains of a script. -/
def refuseScript (name : String) (pieces : List ScriptPiece) (p : Fault) (at' : Spot) :
    Run Nat := do
  let piece := pieces[at'.piece - 1]?
  let place := match piece with
    | some ⟨some file, text⟩ =>
      let line := ((text.take at'.read).filter (· = '\n')).length + 1
      "file " ++ toText file ++ " line " ++ toString line
    | _ =>
      let number := ((pieces.take at'.piece).filter (·.file.isNone)).length
      let char := if p = .unclosedBlock then 0 else at'.read
      "-e expression #" ++ toString number ++ ", char " ++ toString char
  complain name (place ++ ": " ++ p.message)

def sed : Program := fun c args => do
  let spec := Spec.ofString "bsnrzuEe:f:l:i::V"
    ["binary|b", "regexp-extended|E", "debug", "in-place?|i", "expression=|e", "file=|f",
     "line-length=|l", "null-data|z", "zero-terminated|z", "quiet|n", "posix", "silent|n", "sandbox",
     "separate|s", "unbuffered|u", "version", "help", "follow-symlinks"]
  match readArguments spec false args.length args with
  | .error e =>
    Run.complain (c.name ++ ": " ++ e.message)
    editUsage 1
  | .ok a =>
    if a.has "version" then return ← out c.name (ofText (versionOf c.name ++ "\n"))
    if a.has "help" then
      return ← Run.keepingDescriptors [2] do
        Run.setDescriptor 2 (← Run.stream? 1)
        editUsage 0
    let isGiven := a.has "e" || a.has "f"
    let (options, operands) := match isGiven, a.operands with
      | false, script :: rest => ([("e", script)], rest)
      | _, operands => (a.options, operands)
    if !isGiven && a.operands.isEmpty then return ← editUsage 1
    match ← scriptPieces options with
    | .error status => return status
    | .ok pieces =>
      let manner : Editing.Manner :=
        { extended := a.has "E" || a.has "r", confined := a.has "sandbox" }
      match Script.ofPieces manner (pieces.map (·.text)) with
      | .error (p, place) => refuseScript c.name pieces p place
      | .ok script =>
        match script.missingLabel? with
        | some label =>
          let _ ← complain c.name
            ("can't find label for jump to " ++ openQuote ++ toText label ++ "'")
          return 4
        | none =>
          let inPlace := if a.has "i" then some ((a.value? "i").getD []) else none
          let st : EditStyle := {
            name := c.name, script, silent := a.has "n" || script.silent
            separate := a.has "s" || inPlace.isSome, inPlace
            throughLinks := a.has "follow-symlinks"
            width := ((a.value? "l").bind (Text.readNat? 10)).getD 70
            mark := if a.has "z" then '\x00' else '\n', eager := a.has "u" }
          if inPlace.isSome && operands.isEmpty then
            let _ ← complain c.name "no input files"
            return 4
          let begins := script.commands.map fun k =>
            match k.scope with
            | .between (.line 0) _ => Extent.going
            | _ => Extent.waiting
          let start : Editor := { extents := begins, files := orInput operands }
          let (status, _) ← StateT.run (Edit.all c st) start
          return status

end Provision.Program
