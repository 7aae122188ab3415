import Provision.Files.Mode
import Provision.Moment.Reader
import Provision.Program.Paths

/-!
Programs that make directories, files and other nodes.
-/

namespace Provision.Program

open Bytes (toText ofText)
open Files (FileError Tree ModeChange)
open Shell (Run)

/-- Does something for each of some operands. The status is the one of the last that fails. -/
def forAll (operands : List Chars) (act : Chars → Run Nat) : Run Nat := do
  let mut status := 0
  for t in operands do
    let n ← act t
    if n ≠ 0 then status := n
  return status

/-- Sets the permissions of what a path leads to. -/
def setMode (path : Chars) (mode : Nat) : Run Unit := do
  let _ ← Run.changeTree fun t => do
    let id ← t.locate (toText path)
    return t.modify id fun n => { n with mode }

/-! ## Directories -/

/-- The beginnings of a path that lead to the directories on it. -/
def stepsOf (path : Chars) : List Chars :=
  let rec go (before : Chars) : Chars → List Chars
    | [] => if before.isEmpty then [] else [before.reverse]
    | c :: cs =>
      if c = '/' && before.head?.any (· != '/') then before.reverse :: go (c :: before) cs
      else go (c :: before) cs
  (go [] (trimSlashes path)).filter fun t => !t.all (· == '/')

/-- Makes the directories of a path that are missing. What is made is told. -/
def makeAll (name : String) (tells : Bool) (label : String) (mode : Nat) :
    List Chars → Run Nat
  | [] => return 0
  | step :: rest => do
    let t ← Run.tree
    if t.isDirectory (toText step) then makeAll name tells label mode rest
    else
      let allowed ← Run.permitted mode
      match ← Run.changeTree (·.makeDirectory (toText step) allowed) with
      | .ok () =>
        if tells then
          let _ ← out name (ofText (name ++ ": " ++ label ++ " " ++ quoted step ++ "\n"))
        makeAll name tells label mode rest
      | .error e =>
        let isNode := e = .exists && t.exists? (toText step)
        let e := if isNode && !rest.isEmpty then FileError.notADirectory else e
        complain name ("cannot create directory " ++ cited step ++ ": " ++ e.reason)

def mkdir : Program := fun c args =>
  withArguments c.name (.ofString "m:pvZ" ["context?", "mode=|m", "parents|p", "verbose|v"])
    1 false args fun a => do
    if a.operands.isEmpty then return ← missOperand c.name []
    let mask := (← get).mask
    let changes := (a.value? "m").map ModeChange.ofChars?
    if changes = some none then
      return ← complain c.name ("invalid mode " ++ cited ((a.value? "m").getD []))
    let mode? := (changes.bind fun cs => cs).map fun cs => ModeChange.applyAll true mask cs 0o777
    forAll a.operands fun path => do
      if a.has "p" && !path.isEmpty then
        let there := (← Run.tree).isDirectory (toText path)
        let status ← makeAll c.name (a.has "v") "created directory" 0o777 (stepsOf path)
        if status = 0 && !there then
          if let some mode := mode? then setMode path mode
        return status
      else
        let usual ← Run.permitted 0o777
        match ← Run.changeTree (·.makeDirectory (toText path) (mode?.getD usual)) with
        | .ok () =>
          if a.has "v" then
            let _ ← out c.name (ofText (c.name ++ ": created directory " ++ quoted path ++ "\n"))
          return 0
        | .error e =>
          complain c.name ("cannot create directory " ++ cited path ++ ": " ++ e.reason)

/-! ## Names that nobody has -/

/-- Characters for names that nobody has yet. -/
def freshChars (seed count : Nat) : Chars :=
  let letters := "abcdefghijklmnopqrstuvwxyzABCDEFGHIJKLMNOPQRSTUVWXYZ0123456789".toList
  let rec go : Nat → Nat → Chars
    | 0, _ => []
    | n + 1, x =>
      let x := (x * 6364136223846793005 + 1442695040888963407) % 0x10000000000000000
      letters.getD (x / 0x100000000 % 62) 'x' :: go n x
  go count seed

def mktemp : Program := fun c args =>
  withArguments c.name (.ofString "dp:qtuV"
    ["directory|d", "quiet|q", "dry-run|u", "suffix=", "tmpdir?|tmpdir"]) 1 false args fun a => do
    let (given, above) : Chars × Option Chars := match a.operands with
      | t :: _ => (t, none)
      | [] => ("tmp.XXXXXXXXXX".toList, some [])
    match a.operands with
    | _ :: _ :: _ => return ← misuse c.name "too many templates"
    | _ => pure ()
    let folder := (← Run.textOf? "TMPDIR").getD "/tmp".toList
    let suffixGiven := (a.value? "suffix").getD []
    let trailing := if (a.value? "suffix").isSome then suffixGiven
      else (given.reverse.takeWhile (· != 'X')).reverse
    let stem := if (a.value? "suffix").isSome then given
      else given.take (given.length - trailing.length)
    let whole := if (a.value? "suffix").isSome then given ++ suffixGiven else given
    let refuse (message : String) : Run Nat := do
      complain c.name message
    if (a.value? "suffix").isSome && given.getLast? ≠ some 'X' then
      return ← refuse ("with --suffix, template " ++ cited given ++ " must end in X")
    if trailing.contains '/' then
      return ← refuse ("invalid suffix " ++ cited trailing ++ ", contains directory separator")
    let count := (stem.reverse.takeWhile (· == 'X')).length
    if count < 3 then
      return ← refuse ("too few X's in template " ++ cited given)
    let base : Option Chars := match (a.value? "p").or (a.value? "tmpdir") with
      | some [] => some folder
      | some d => some d
      | none => if a.has "t" then some folder else above.map fun _ => folder
    if base.isSome && given.contains '/' && a.has "t" then
      return ← refuse ("invalid template, " ++ cited given ++ ", contains directory separator")
    if base.isSome && given.head? = some '/' then
      return ← refuse ("invalid template, " ++ cited given ++
        "; with --tmpdir, it may not be absolute")
    let inBase (t : Chars) : Chars := match base with
      | some d => if d.getLast? = some '/' then d ++ t else d ++ '/' :: t
      | none => t
    let time ← Run.now
    let process := (← get).process
    let path := inBase (stem.take (stem.length - count) ++
      freshChars (time + 7919 * process) count ++ trailing)
    if a.has "u" then return ← out c.name (path ++ ['\n'])
    let result ← if a.has "d" then Run.changeTree (·.makeDirectory (toText path) 0o700)
      else Run.changeTree fun t => do
        let p ← t.place false (toText path)
        match p.node with
        | some _ => throw .exists
        | none => return (t.create p 0o600).2
    match result with
    | .ok () => out c.name (path ++ ['\n'])
    | .error e =>
      if a.has "q" then return 1
      complain c.name ("failed to create " ++ (if a.has "d" then "directory" else "file") ++
        " via template " ++ cited (inBase whole) ++ ": " ++ e.reason)

/-! ## Times -/

/-- The nanoseconds of a moment that is given by seconds. -/
def nanosecondsOf (m : Int × Nat) : Int := m.1 * 1000000000 + m.2

/-- Reads digits for the month, the day, the hour and the minute, with the year before them and the
second behind a point. -/
def readStamp? (now : Int) (t : Chars) : Option Int := do
  let digits := t.takeWhile Char.isDigit
  let second ← match t.drop digits.length with
    | [] => some 0
    | ['.', a, b] => Text.readNat? 10 [a, b]
    | _ => none
  let n (from' count : Nat) : Int := (Text.readNat? 10 ((digits.drop from').take count)).getD 0
  let (year, rest) : Int × Nat ← match digits.length with
    | 8 => some ((Moment.ofSeconds now).year, 0)
    | 10 => some (if n 0 2 < 69 then n 0 2 + 2000 else n 0 2 + 1900, 2)
    | 12 => some (n 0 4, 4)
    | _ => none
  let month := n rest 2
  let day := n (rest + 2) 2
  let hour := n (rest + 4) 2
  let minute := n (rest + 6) 2
  if month < 1 || 12 < month || day < 1 || 31 < day || 23 < hour || 59 < minute || 60 < second then
    none
  return Moment.secondsOf year month day hour minute second

/-- Makes a file unless there is something. -/
def ensureFile (path : Chars) : Run (Except FileError Unit) := do
  let mode ← Run.permitted 0o666
  Run.changeTree fun t => return (← t.ensureFile (toText path) mode).2

def touch : Program := fun c args =>
  withArguments c.name (.ofString "acd:fhmr:t:"
    ["time=", "no-create|c", "date=|d", "reference=|r", "no-dereference|h"]) 1 false args
    fun a => do
    match a.chosen "time" "--time" [(["atime", "access", "use"], "a"), (["mtime", "modify"], "m")] with
    | .error message => misuse c.name message
    | .ok kinds =>
      let reads := a.has "a" || kinds.contains "a"
      let writes := a.has "m" || kinds.contains "m"
      let (reads, writes) := if !reads && !writes then (true, true) else (reads, writes)
      let clock ← Run.now
      let second : Int := (clock / 1000000000 : Nat)
      let stamp ← Run.onTree fun t => (t.time, t)
      let t ← Run.tree
      if (a.has "t" && (a.has "d" || a.has "r")) then
        return ← misuse c.name "cannot specify times from more than one source"
      let base : Except (Run Nat) (Int × Int) :=
        match a.value? "r" with
        | none => .ok (stamp, stamp)
        | some path =>
          match t.find (toText path) with
          | .ok n => .ok (n.accessed, n.modified)
          | .error e => .error (complain c.name
              ("failed to get attributes of " ++ quoted path ++ ": " ++ e.reason))
      let wrong (t : Chars) : Run Nat := complain c.name ("invalid date format " ++ cited t)
      let times : Except (Run Nat) (Int × Int) := do
        let (accessed, modified) ← base
        match a.value? "d", a.value? "t" with
        | some d, _ =>
          let read (from' : Int) : Except (Run Nat) Int :=
            let s := from'.fdiv 1000000000
            match Moment.read? s (from' - s * 1000000000).toNat d with
            | some m => .ok (nanosecondsOf m)
            | none => .error (wrong d)
          return (← read accessed, ← read modified)
        | none, some s =>
          match readStamp? second s with
          | some n => return (n * 1000000000, n * 1000000000)
          | none => throw (wrong s)
        | none, none => return (accessed, modified)
      match times with
      | .error refuse => refuse
      | .ok (accessed, modified) =>
        if a.operands.isEmpty then return ← misuse c.name "missing file operand"
        forAll a.operands fun path => do
          if path = ['-'] then return 0
          let itself := a.has "h"
          let t ← Run.tree
          let found := if itself then t.locateEntry (toText path) else t.locate (toText path)
          let setTimes (id : Nat) : Run Nat := do
            let _ ← Run.changeTree fun t => .ok (t.modify id fun n => { n with
              accessed := if reads then accessed else n.accessed
              modified := if writes then modified else n.modified
              changed := t.time })
            return 0
          match found with
          | .ok id => setTimes id
          | .error e =>
            if a.has "c" && e = .notFound then return 0
            else if itself then
              complain c.name ("setting times of " ++ quoted path ++ ": " ++ e.reason)
            else
              match ← ensureFile path with
              | .ok () =>
                match (← Run.tree).locate (toText path) with
                | .ok id => setTimes id
                | .error e =>
                  complain c.name ("cannot touch " ++ quoted path ++ ": " ++ e.reason)
              | .error e' =>
                if path.getLast? = some '/' then
                  complain c.name ("setting times of " ++ quoted path ++ ": " ++ e.reason)
                else complain c.name ("cannot touch " ++ quoted path ++ ": " ++ e'.reason)

/-! ## Sizes -/

/-- How a size is given: as it is, or by how it has to lie to the present one. -/
def sizeFrom? (t : Chars) : Option (Nat → Nat) :=
  let size (t : Chars) : Option Nat := readSize? t
  match t.dropWhile (· == ' ') with
  | '+' :: n => (size n).map fun n old => old + n
  | '-' :: n => (size n).map fun n old => old - n
  | '<' :: n => (size n).map fun n old => min old n
  | '>' :: n => (size n).map fun n old => max old n
  | '/' :: n => (size n).bind fun n => if n = 0 then none else some fun old => old / n * n
  | '%' :: n => (size n).bind fun n => if n = 0 then none else some fun old => (old + n - 1) / n * n
  | n => (size n).map fun n _ => n

def truncate : Program := fun c args =>
  withArguments c.name (.ofString "cor:s:" ["no-create|c", "io-blocks|o", "reference=|r", "size=|s"])
    1 false args fun a => do
    let t ← Run.tree
    match a.value? "s", a.value? "r" with
    | none, none => misuse c.name "you must specify either '--size' or '--reference'"
    | s, r =>
      let change : Except String (Nat → Nat) := do
        let base ← match r with
          | none => pure id
          | some path =>
            match t.find (toText path) with
            | .ok n => pure fun _ => n.size
            | .error e => throw ("cannot stat " ++ quoted path ++ ": " ++ e.reason)
        match s with
        | none => return base
        | some s =>
          match sizeFrom? s with
          | some f => return fun old => f (base old)
          | none =>
            let shown := if (s.head?.map fun ch => "+-<>/%".toList.contains ch).getD false then s.drop 1
              else s
            throw ("Invalid number: " ++ cited shown)
      match change with
      | .error message => complain c.name message
      | .ok f =>
        if a.operands.isEmpty then return ← misuse c.name "missing file operand"
        forAll a.operands fun path => do
          if a.has "c" && !(← Run.tree).exists? (toText path) then return 0
          let made ← match (← Run.tree).find (toText path) with
            | .ok n => pure (if n.isDirectory then .error .isADirectory else .ok ())
            | .error _ => ensureFile path
          match made with
          | .error e =>
            complain c.name ("cannot open " ++ quoted path ++ " for writing: " ++ e.reason)
          | .ok () =>
            let _ ← Run.changeTree fun t => do
              let id ← t.locate (toText path)
              return t.updateBytes id fun bytes =>
                let n := f bytes.length
                bytes.take n ++ List.replicate (n - bytes.length) 0
            return 0

/-! ## Other nodes -/

/-- Makes a node that is neither a file nor a directory. -/
def makeNode (path : Chars) (content : Files.Content) (mode : Nat) : Run (Except FileError Unit) :=
  Run.changeTree fun t => do
    let p ← t.place false (toText path)
    t.createAt p (.fresh content mode t.time)

def mkfifo : Program := fun c args =>
  withArguments c.name (.ofString "m:Z" ["mode=|m", "context?"]) 1 false args fun a => do
    if a.operands.isEmpty then return ← missOperand c.name []
    let mask := (← get).mask
    let changes := (a.value? "m").map ModeChange.ofChars?
    if changes = some none then return ← complain c.name "invalid mode"
    let usual ← Run.permitted 0o666
    let mode := ((changes.bind fun cs => cs).map fun cs =>
      ModeChange.applyAll false mask cs 0o666).getD usual
    forAll a.operands fun path => do
      match ← makeNode path .queue mode with
      | .ok () => return 0
      | .error e => complain c.name ("cannot create fifo " ++ quoted path ++ ": " ++ e.reason)

def mknod : Program := fun c args =>
  withArguments c.name (.ofString "m:Z" ["mode=|m", "context?"]) 1 false args fun a => do
    let needsNumbers (detail : Bool) (operands : List Chars) : Run Nat := do
      let shown := match operands.getLast? with
        | some t => "missing operand after " ++ cited t
        | none => "missing operand"
      Run.complain (c.name ++ ": " ++ shown)
      if detail then Run.complain "Special files require major and minor device numbers."
      pointToHelp c.name 1
    let mode ← Run.permitted 0o666
    let make (path : Chars) (content : Files.Content) : Run Nat := do
      match ← makeNode path content mode with
      | .ok () => return 0
      | .error e => complain c.name (shownPath path ++ ": " ++ e.reason)
    match a.operands with
    | [] | [_] => needsNumbers false a.operands
    | [path, ['p']] => make path .queue
    | _ :: ['p'] :: extra :: more =>
      Run.complain (c.name ++ ": extra operand " ++ cited extra)
      if more.length = 1 then
        Run.complain "Fifos do not have major and minor device numbers."
      pointToHelp c.name 1
    | [_, _] | [_, _, _] => needsNumbers (a.operands.length = 2) a.operands
    | [path, kind, major, minor] =>
      match kind, Text.readNat? 10 major, Text.readNat? 10 minor with
      | ['c'], some 1, some n | ['u'], some 1, some n =>
        make path (.device (if n = 5 then .zero else if n = 7 then .full
          else if n = 8 || n = 9 then .random else .null))
      | ['c'], some _, some _ | ['u'], some _, some _ | ['b'], some _, some _ =>
        make path (.device .null)
      | ['c'], none, _ | ['b'], none, _ => complain c.name ("invalid major device number " ++ cited major)
      | ['c'], _, none | ['b'], _, none => complain c.name ("invalid minor device number " ++ cited minor)
      | _, _, _ => misuse c.name ("invalid device type " ++ cited kind)
    | _ :: _ :: _ :: _ :: extra :: _ => refuseOperand c.name extra

end Provision.Program
