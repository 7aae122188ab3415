import Provision.Shell.Builtin.Output
import Provision.Shell.Field

namespace Provision.Shell.Builtin

open Bytes (toText ofText)
open Run (report)

/-! ## Reading a line -/

/-- What ends the reading of a text: its mark, the end of all, or time. -/
inductive Ending
  | mark
  | end'
  | time
  deriving DecidableEq

/-- Takes a text up to a mark, but no longer than up to a point in time. -/
def takeUntil (descriptor : Nat) (mark : Char) (deadline : Option Nat) :
    Run (Except Files.FileError (Chars × Ending)) := do
  Run.share fun s y => ((), y.alterProcess s.process fun p => { p with wake := deadline })
  Run.step fun s y =>
    match y.readThrough s.process descriptor mark with
    | some (.ok (text, found), y) => some (.ok (text, if found then .mark else .end'), y)
    | some (.error e, y) => some (.error e, y)
    | none => if deadline.any (· ≤ y.clock) then some (.ok ([], .time), y) else none

/-- Takes single characters up to a number of them, or up to a mark. -/
def takeSome (descriptor : Nat) (mark : Option Char) (deadline : Option Nat) :
    Nat → Chars → Run (Except Files.FileError (Chars × Ending))
  | 0, found => return .ok (found.reverse, .mark)
  | room + 1, found => do
    Run.share fun s y => ((), y.alterProcess s.process fun p => { p with wake := deadline })
    let next ← Run.step fun s y =>
      match y.read s.process descriptor 1 with
      | some (r, y) => some (some r, y)
      | none => if deadline.any (· ≤ y.clock) then some (none, y) else none
    match next with
    | none => return .ok (found.reverse, .time)
    | some (.error e) => return .error e
    | some (.ok []) => return .ok (found.reverse, .end')
    | some (.ok (c :: _)) =>
      if some c = mark then return .ok (found.reverse, .mark)
      else takeSome descriptor mark deadline room (c :: found)

/-- A line with the marks of what a backslash protects. The answer tells too whether the line goes
on. -/
def unprotect : Chars → List Marked × Bool
  | [] => ([], false)
  | ['\\'] => ([], true)
  | '\\' :: '\n' :: rest => unprotect rest
  | '\\' :: c :: rest =>
    let (more, goesOn) := unprotect rest
    ((c, true) :: more, goesOn)
  | c :: rest =>
    let (more, goesOn) := unprotect rest
    ((c, false) :: more, goesOn)

/-- Reads lines up to one that does not go on. -/
def readLines (take : Run (Except Files.FileError (Chars × Ending))) :
    Nat → Run (Except Files.FileError (List Marked × Ending))
  | 0 => return .ok ([], .end')
  | room + 1 => do
    match ← take with
    | .error e => return .error e
    | .ok (line, ending) =>
      let (marked, goesOn) := unprotect line
      if goesOn && ending = .mark then
        match ← readLines take room with
        | .ok (more, ending) => return .ok (marked ++ more, ending)
        | .error e => return .error e
      else return .ok (marked, ending)

/-- Whether a character is white space that separates fields. -/
def isWhite (separators : Chars) (m : Marked) : Bool :=
  !m.2 && separators.contains m.1 && " \t\n".toList.contains m.1

/-- Whether a character separates fields. -/
def isBorder (separators : Chars) (m : Marked) : Bool := !m.2 && separators.contains m.1

/-- The first field of a line, and what follows it and its separator. -/
def firstField (separators : Chars) (line : List Marked) : List Marked × List Marked :=
  let field := line.takeWhile (!isBorder separators ·)
  let rest := (line.drop field.length).dropWhile (isWhite separators)
  (field, match rest with
    | m :: more =>
      if isBorder separators m then more.dropWhile (isWhite separators) else rest
    | [] => [])

/-- The last field of a line, which takes all that is left. If that is one field, the separator
behind it does not belong to it. -/
def lastField (separators : Chars) (line : List Marked) : List Marked :=
  let line := (line.reverse.dropWhile (isWhite separators)).reverse
  match firstField separators line with
  | (field, []) => field
  | _ => line

/-- Splits a line into so many fields, of which the last one takes the rest. -/
def readFields (separators : Chars) : Nat → List Marked → List Chars
  | 0, _ => []
  | 1, line => [(lastField separators (line.dropWhile (isWhite separators))).map (·.1)]
  | count + 1, line =>
    let (field, rest) := firstField separators (line.dropWhile (isWhite separators))
    field.map (·.1) :: readFields separators count rest

/-- The descriptor that an option asks for, if it is open. -/
def descriptorOf (command : String) (o : Options) : Run (Option Nat) := do
  match o.value? 'u' with
  | none => return some 0
  | some t =>
    match Text.readNat? 10 t with
    | none =>
      report (command ++ ": " ++ toText t ++ ": invalid file descriptor specification")
      return none
    | some d =>
      if (← Run.stream? d).isSome then return some d
      report (command ++ ": " ++ toText t ++ ": invalid file descriptor: Bad file descriptor")
      return none

/-- A number of seconds in nanoseconds. -/
def nanoseconds? (t : Chars) : Option Nat :=
  match Decimal.Quantity.read? t with
  | some (.finite false r) => some (r.num * 1000000000 / r.den)
  | _ => none

/-- Gives the fields of a line to variables. -/
def storeFields (o : Options) (line : List Marked) : Run Nat := do
  let separators ← Run.separators
  match o.value? 'a', o.operands with
  | some name, _ =>
    if !isName name then
      return ← refuseName "read" name
    let fields := Piece.split separators
      (line.map fun (c, quoted) => if quoted then .kept true [c] else .loose [c])
    let marks := ((← Run.lookup? (toText name)).map (·.marks)).getD {}
    let texts ← fields.mapM fun f => Run.takenText (some "read") marks false [] (f.map (·.1))
    let done ← Run.store (toText name) (.array (texts.mapIdx fun i t => (i, t)))
    return if done then 0 else 1
  | none, [] => do
    let done ← Run.give (some "read") "REPLY" (line.map (·.1))
    return if done then 0 else 1
  | none, names =>
    let whole := (o.value? 'N').isSome
    let fields := if whole then line.map (·.1) :: List.replicate names.length []
      else readFields separators names.length line
    let mut status := 0
    let failure := if (← get).dialect = .dash then 2 else 1
    for (name, field) in names.zip fields do
      unless ← storeAt "read" name field do status := failure
    return status

def read (args : List Chars) : Run Nat := do
  let spec := if (← get).dialect = .dash then "rp:" else "ersa:d:i:n:N:p:t:u:"
  withOptions "read" spec args fun o => do
    let isPlain := (← get).dialect = .dash
    if isPlain && o.operands.isEmpty then
      report "read: arg count"
      return 2
    let some descriptor ← descriptorOf "read" o | return 1
    for c in ['n', 'N'] do
      match o.value? c with
      | some t =>
        if (Text.readNat? 10 t).isNone then
          return ← complain "read" (toText t ++ ": invalid number")
      | none => pure ()
    let timeout ← match o.value? 't' with
      | none => pure none
      | some t =>
        match nanoseconds? t with
        | some n => pure (some n)
        | none => return ← complain "read" (toText t ++ ": invalid timeout specification")
    match o.operands.find? fun n => !isPlain && !isName (Run.splitName n).1.toList with
    | some n => return ← refuseName "read" n
    | none => pure ()
    if timeout = some 0 then
      let ready ← Run.observe fun s y => (y.read s.process descriptor 1).isSome
      return if ready then 0 else 1
    let now ← Run.now
    let deadline := timeout.map (now + ·)
    let mark := ((o.value? 'd').map fun d => d.headD '\x00').getD '\n'
    let count (c : Char) : Option Nat := (o.value? c).bind (Text.readNat? 10)
    let take : Run (Except Files.FileError (Chars × Ending)) :=
      match count 'N', count 'n' with
      | some n, _ => takeSome descriptor none deadline n []
      | none, some n => takeSome descriptor (some mark) deadline n []
      | none, none => takeUntil descriptor mark deadline
    let result ← if o.has 'r' then do
        match ← take with
        | .ok (line, ending) => pure (.ok (line.map (·, false), ending))
        | .error e => pure (.error e)
      else readLines take 100000
    match result with
    | .error e => complain "read" ("read error: " ++ toString descriptor ++ ": " ++ e.reason)
    | .ok (line, ending) =>
      let line := line.filter fun m => m.1 != '\x00'
      let status ← storeFields o line
      return match ending with
        | .mark => status
        | .end' => 1
        | .time => 142

/-! ## Reading many lines -/

/-- Takes lines, with the ends of them or without, up to a number of them. -/
def takeLines (descriptor : Nat) (mark : Char) (keepMark : Bool) :
    Nat → List Chars → Run (List Chars)
  | 0, found => return found.reverse
  | room + 1, found => do
    match ← Run.takeThrough descriptor mark with
    | .error _ => return found.reverse
    | .ok ([], false) => return found.reverse
    | .ok (line, false) => return (line :: found).reverse
    | .ok (line, true) =>
      takeLines descriptor mark keepMark room ((if keepMark then line ++ [mark] else line) :: found)

def mapfile (command : String) (run : Chars → Run Unit) (args : List Chars) : Run Nat :=
  withOptions command "d:n:O:s:tu:C:c:" args fun o => do
    let some descriptor ← descriptorOf command o | return 1
    let number (c : Char) (usual : Nat) : Option Nat :=
      match o.value? c with
      | none => some usual
      | some t => Text.readNat? 10 t
    let name := toText (o.operands.headD "MAPFILE".toList)
    let wrong (c : Char) (what : String) : Run Nat :=
      complain command (toText ((o.value? c).getD []) ++ ": invalid " ++ what)
    match number 'n' 0, number 's' 0, number 'O' 0, number 'c' 5000 with
    | none, _, _, _ => wrong 'n' "line count"
    | _, none, _, _ => wrong 's' "line count"
    | _, _, none, _ => wrong 'O' "array origin"
    | _, _, _, none => wrong 'c' "callback quantum"
    | some count, some skipped, some origin, some quantum =>
      if !isName name.toList then
        return ← refuseName command (ofText name)
      let mark := ((o.value? 'd').map fun d => d.headD '\x00').getD '\n'
      let _ ← takeLines descriptor mark true skipped []
      let room := if count = 0 then 100000000 else count
      let lines ← takeLines descriptor mark (!o.has 't') room []
      let value ← Run.valueOf name
      let old := if (o.value? 'O').isSome then value.elements else []
      let new := lines.mapIdx fun i l => (origin + i, l)
      match o.value? 'C' with
      | some callback =>
        for (i, l) in new do
          if (i - origin + 1) % (max quantum 1) = 0 then
            run (callback ++ ' ' :: Run.digits i ++ ' ' :: Quoted.single l)
      | none => pure ()
      let marks := ((← Run.lookup? name).map (·.marks)).getD {}
      let texts ← new.mapM fun e => Run.takenText (some command) marks false [] e.2
      let done ← Run.store name (.array (insertElements origin texts old))
      return if done then 0 else 1

end Provision.Shell.Builtin
