import Provision.Program.Input
import Provision.Records.Reader
import Provision.Records.Splitting
import Provision.Records.Table
import Provision.Shell.Format

/-!
What a program that goes through records has at hand: its variables, the present record, and the
files and commands with which it deals.
-/

namespace Provision.Program

open Bytes (toText ofText)
open Files (FileError)
open Records (Value Table Name Separator Sink)
open Shell (Run)

namespace Tabulation

/-- What a name stands for: a value, or a table by its number. -/
inductive Slot
  | single (v : Value)
  | table (id : Nat)

instance : Inhabited Slot := ⟨.single .unset⟩

/-- From where records come: the name, the descriptor, what is read already, whether that was all, and
the process that writes it. -/
structure Feed where
  name : Chars
  descriptor : Nat
  pending : Chars := []
  isOver : Bool := false
  process : Option Nat := none

/-- Where output goes: the name, the descriptor, what is held back, the last texts first, and the
process that reads it. -/
structure Outlet where
  name : Chars
  sink : Sink
  descriptor : Nat
  held : List Chars := []
  size : Nat := 0
  process : Option Nat := none

structure Machine where
  name : String
  caller : Caller
  program : Records.Program
  shared : Std.HashMap String Slot := {}
  own : Array Slot := #[]
  tables : Array Table := #[]
  /-- The present record, its fields, whether it has been split up, and whether it is up to date. -/
  record : Value := .unset
  fields : Array Value := #[]
  isSplit : Bool := true
  isWhole : Bool := true
  main : Option Feed := none
  argument : Nat := 1
  hasRead : Bool := false
  feeds : List Feed := []
  outlets : List Outlet := []
  expressions : Std.HashMap String Regular := {}
  /-- Which of the rules for parts from one record to another have begun. -/
  begun : List Nat := []
  seed : Float := 0
  state : UInt64 := 1
  status : Nat := 0

/-- Why the work on a record or as a whole ends. -/
inductive Halt
  | next
  | nextFile
  | exit

abbrev Work := ExceptT Halt (StateT Machine Run)

namespace Work

def run' {α : Type} (m : Run α) : Work α := ExceptT.lift (StateT.lift m)

/-! ## Output -/

/-- Writes what is held back for an outlet. -/
def flushed (o : Outlet) : Run Outlet := do
  if o.held.isEmpty then return o
  let _ ← Run.write o.descriptor o.held.reverse.flatten
  return { o with held := [], size := 0 }

def flushAll : Work Unit := do
  let os ← (← get).outlets.mapM fun o => run' (flushed o)
  modify fun m => { m with outlets := os }

/-- Ends all: commands get what is left for them, and are waited for. -/
def finish : Work Unit := do
  for o in (← get).outlets do
    match o.process with
    | some pid =>
      let _ ← run' (flushed o)
      run' (Run.setDescriptor o.descriptor none)
      let _ ← run' (Run.await pid)
    | none => pure ()
  for o in (← get).outlets do
    if o.process.isNone then
      let _ ← run' (flushed o)
  modify fun m => { m with outlets := [] }

/-- Ends the program. -/
def leave {α : Type} (status : Nat) : Work α := do
  finish
  run' (do Run.setStatus status; Run.stop)

/-- Ends the program with a complaint. -/
def abandon {α : Type} (message : String) : Work α := do
  run' (Run.complain ((← get).name ++ ": " ++ message))
  leave 2

/-- Writes a text to an outlet. -/
def put (name : Chars) (text : Chars) : Work Unit := do
  let m ← get
  let os ← m.outlets.mapM fun o =>
    if o.name = name then
      let o := { o with held := text :: o.held, size := o.size + text.length }
      if blockSize ≤ o.size || o.descriptor = 2 then run' (flushed o) else pure o
    else pure o
  modify fun m => { m with outlets := os }

def printed : Chars := "/dev/stdout".toList

/-- The words that run a command. -/
def commandWords (command : Chars) : List Chars := ["/bin/sh".toList, "-c".toList, command]

/-- Opens an outlet if it is not open yet. -/
def openOutlet (sink : Sink) (name : Chars) : Work Unit := do
  let m ← get
  if m.outlets.any fun o => o.name = name then return
  let add (o : Outlet) : Work Unit := modify fun m => { m with outlets := m.outlets ++ [o] }
  let toFile (o : Host.Opening) : Work Unit := do
    match ← run' (Run.openPath (toText name) o) with
    | .ok stream => add ⟨name, sink, ← run' (Run.putAside stream), [], 0, none⟩
    | .error e =>
      abandon ("cannot open \"" ++ toText name ++ "\" for output (" ++ e.reason ++ ")")
  match sink with
  | .command =>
    flushAll
    let (reader, writer) ← run' Run.newPipe
    let child ← run' (m.caller.launch (some (0, reader)) (commandWords name))
    add ⟨name, sink, ← run' (Run.putAside writer), [], 0, some child⟩
  | .file =>
    if name = "/dev/stderr".toList then add ⟨name, sink, 2, [], 0, none⟩ else toFile .write
  | .ending =>
    if name = "/dev/stderr".toList then add ⟨name, sink, 2, [], 0, none⟩ else toFile .append

/-! ## Names -/

def slot (v : Name) : Work Slot := do
  let m ← get
  return match v with
    | .shared n => m.shared.getD n default
    | .own i => m.own.getD i default

def setSlot (v : Name) (s : Slot) : Work Unit :=
  modify fun m => match v with
    | .shared n => { m with shared := m.shared.insert n s }
    | .own i => { m with own := m.own.setIfInBounds i s }

/-- The value of a shared name as it is kept. -/
def kept (name : String) : Work Value := do
  return match (← get).shared.getD name default with
    | .single v => v
    | .table _ => .unset

/-- How numbers become texts. -/
def numberFormat : Work Chars := return (← kept "CONVFMT").toText "%.6g".toList

def textOf (v : Value) : Work Chars := do
  match v with
  | .number x => return Records.numberText (← numberFormat) x
  | v => return v.toText []

def keptText (name : String) : Work Chars := do textOf (← kept name)

/-- The number of the table of a name, which has one from then on. -/
def tableOf (a : Name) : Work Nat := do
  match ← slot a with
  | .table id => return id
  | .single _ =>
    let id := (← get).tables.size
    modify fun m => { m with tables := m.tables.push {} }
    setSlot a (.table id)
    return id

/-- Does something with a table. -/
def onTable {α : Type} (a : Name) (f : Table → Table × α) : Work α := do
  let id ← tableOf a
  let m ← get
  let (t, x) := f (m.tables.getD id default)
  set { m with tables := m.tables.setIfInBounds id t }
  return x

/-! ## Expressions -/

/-- The expression that a text is. -/
def regularOf (t : Chars) : Work Regular := do
  match (← get).expressions[String.ofList t]? with
  | some r => return r
  | none =>
    match Records.readRegular t with
    | .error reason =>
      abandon (Records.Fault.message (.regular 1 reason t))
    | .ok r =>
      modify fun m => { m with expressions := m.expressions.insert (String.ofList t) r }
      return r

/-- What a text between fields stands for. -/
def separatorOf (t : Chars) : Work Separator := do
  match t with
  | [] => return .nothing
  | [' '] => return .blanks
  | [c] => return .one c
  | t => return .fitting (← regularOf t)

/-! ## The record -/

/-- Splits the record up if that is not done yet. -/
def split : Work Unit := do
  if (← get).isSplit then return
  let s ← separatorOf (← keptText "FS")
  let t ← textOf (← get).record
  let fields := (s.split t).map Value.given
  modify fun m => { m with fields := fields.toArray, isSplit := true }

def setRecord (v : Value) : Work Unit :=
  modify fun m => { m with record := v, isSplit := false, isWhole := true }

/-- The present record, put together anew if fields have changed. -/
def wholeRecord : Work Value := do
  let m ← get
  if m.isWhole then return m.record
  let ofs ← keptText "OFS"
  let ts ← m.fields.toList.mapM textOf
  let v := Value.given ((ts.intersperse ofs).flatten)
  modify fun m => { m with record := v, isWhole := true }
  return v

def field (i : Nat) : Work Value := do
  if i = 0 then wholeRecord
  else
    split
    return (← get).fields.getD (i - 1) .unset

/-- Gives the record a number of fields. -/
def setCount (n : Nat) : Work Unit := do
  split
  modify fun m =>
    let fields := if m.fields.size < n then
        m.fields ++ Array.replicate (n - m.fields.size) (.text [])
      else m.fields.extract 0 n
    { m with fields, isWhole := false }

def setField (i : Nat) (v : Value) : Work Unit := do
  if i = 0 then setRecord v
  else
    split
    if (← get).fields.size < i then setCount i
    modify fun m => { m with fields := m.fields.setIfInBounds (i - 1) v, isWhole := false }

/-- The value of a name. -/
def value (v : Name) : Work Value := do
  if v == .shared "NF" then
    split
    return .number (Float.ofNat (← get).fields.size)
  match ← slot v with
  | .single x => return x
  | .table _ => return .unset

/-- Gives a name a value. -/
def setValue (v : Name) (x : Value) : Work Unit := do
  if v == .shared "NF" then setCount x.toNumber.toUInt64.toNat
  else
    if v == .shared "FS" then split
    if v == .shared "OFS" then
      let _ ← wholeRecord
    setSlot v (.single x)

def setNumber (name : String) (x : Float) : Work Unit := setSlot (.shared name) (.single (.number x))

/-- Counts a record in. -/
def count (name : String) : Work Unit := do
  setNumber name ((← kept name).toNumber + 1)

/-! ## Reading -/

/-- Reads some more of a feed. -/
def more (f : Feed) : Work Feed := do
  match ← run' (Run.readSome f.descriptor blockSize) with
  | .ok [] => return { f with isOver := true }
  | .ok t => return { f with pending := f.pending ++ t }
  | .error e => abandon ("read error (" ++ e.reason ++ ")")

/-- Reads all of a feed. -/
def rest : Nat → Feed → Work Feed
  | 0, f => return f
  | room + 1, f => if f.isOver then return f else do rest room (← more f)

/-- The next record of a feed, which ends with a character. -/
def recordTo (c : Char) : Nat → Feed → Work (Option Chars × Feed)
  | 0, f => return (none, f)
  | room + 1, f => do
    let t := f.pending.takeWhile (· ≠ c)
    match f.pending.drop t.length with
    | _ :: rest => return (some t, { f with pending := rest })
    | [] =>
      if f.isOver then return (if t.isEmpty then none else some t, { f with pending := [] })
      else recordTo c room (← more f)

/-- The first match in a long text. -/
def firstMatch (r : Regular) (t : Chars) : Option Regular.Match :=
  let short := t.take 2000
  match r.findFrom (.ofChars false short) 0 with
  | some m =>
    if m.stop < short.length then some m else r.findFrom (.ofChars false t) 0
  | none => r.findFrom (.ofChars false t) 0

/-- The next record of a feed. -/
def nextRecord (f : Feed) : Work (Option Chars × Feed) := do
  match ← keptText "RS" with
  | [c] => recordTo c Run.maxReads f
  | [] =>
    let f ← rest Run.maxReads f
    let t := f.pending.dropWhile (· = '\n')
    if t.isEmpty then return (none, { f with pending := [] })
    let rec cut : Chars → Chars × Chars
      | '\n' :: '\n' :: more => ([], more)
      | c :: more =>
        let (a, b) := cut more
        (c :: a, b)
      | [] => ([], [])
    let (record, behind) := cut t
    let record := if behind.isEmpty && record.getLast? = some '\n' then record.dropLast else record
    return (some record, { f with pending := behind.dropWhile (· = '\n') })
  | t =>
    let r ← regularOf t
    let f ← rest Run.maxReads f
    if f.pending.isEmpty then return (none, f)
    match firstMatch r f.pending with
    | some m =>
      if m.stop = m.start then return (some f.pending, { f with pending := [] })
      else return (some (f.pending.take m.start), { f with pending := f.pending.drop m.stop })
    | none => return (some f.pending, { f with pending := [] })

/-- Opens a file as a feed. -/
def openFeed? (name : Chars) : Work (Except FileError Feed) := do
  if name = ['-'] || name = "/dev/stdin".toList then return .ok ⟨name, 0, [], false, none⟩
  match ← run' (Run.openPath (toText name) .read) with
  | .ok stream => return .ok ⟨name, ← run' (Run.putAside stream), [], false, none⟩
  | .error e => return .error e

/-- A command whose output is a feed. -/
def openCommand (name : Chars) : Work Feed := do
  flushAll
  let (reader, writer) ← run' Run.newPipe
  let child ← run' ((← get).caller.launch (some (1, writer)) (commandWords name))
  return ⟨name, ← run' (Run.putAside reader), [], false, some child⟩

/-- Whether a text gives a name a value. -/
def assignment? (t : Chars) : Option (String × Chars) :=
  let name := t.takeWhile Records.Token.isNameChar
  if (name.head?).any Records.Token.isNameStart && (t.drop name.length).head? = some '=' then
    let text := t.drop (name.length + 1)
    some (String.ofList name, Records.Token.unescaped (text.length + 1) text)
  else none

/-- Gives a name a value from outside. -/
def assign (name : String) (t : Chars) : Work Unit := setValue (.shared name) (Value.given t)

/-- An argument by its number. -/
def argumentAt (i : Nat) : Work (Option Chars) := do
  let v ← onTable (.shared "ARGV") fun t =>
    (t, t.values[toString i]?)
  match v with
  | some v => return some (← textOf v)
  | none => return none

/-- Opens the next file among the arguments. Those that give names values do so in between. -/
def nextMain : Nat → Work (Option Feed)
  | 0 => return none
  | room + 1 => do
    let m ← get
    let count := (← kept "ARGC").toNumber.toUInt64.toNat
    if count ≤ m.argument then
      if m.hasRead then return none
      let f : Feed := { name := ['-'], descriptor := 0 }
      setSlot (.shared "FILENAME") (.single (Value.given f.name))
      modify fun m => { m with hasRead := true, main := some f }
      return some f
    modify fun m => { m with argument := m.argument + 1 }
    match ← argumentAt m.argument with
    | none | some [] => nextMain room
    | some t =>
      match assignment? t with
      | some (name, text) =>
        assign name text
        nextMain room
      | none =>
        match ← openFeed? t with
        | .error e => abandon ("cannot open \"" ++ toText t ++ "\" (" ++ e.reason ++ ")")
        | .ok f =>
          setSlot (.shared "FILENAME") (.single (Value.given t))
          setNumber "FNR" 0
          modify fun m => { m with hasRead := true, main := some f }
          return some f

/-- Closes the present file among the arguments. -/
def closeMain : Work Unit := do
  match (← get).main with
  | some f =>
    if f.descriptor ≠ 0 then run' (Run.setDescriptor f.descriptor none)
    modify fun m => { m with main := none }
  | none => return

/-- The next record of all files. -/
def mainRecord : Nat → Work (Option Chars)
  | 0 => return none
  | room + 1 => do
    let f? ← match (← get).main with
      | some f => pure (some f)
      | none => nextMain 1000000
    match f? with
    | none => return none
    | some f =>
      let (r, f) ← nextRecord f
      modify fun m => { m with main := some f }
      match r with
      | some t =>
        count "NR"
        count "FNR"
        return some t
      | none =>
        closeMain
        mainRecord room

/-- So many files there are at most. -/
def maxFiles : Nat := 1000000

/-- The next record of a file or a command by its name, with whether it could be opened at all. -/
def fedRecord (isCommand : Bool) (name : Chars) : Work (Option (Option Chars)) := do
  let known := (← get).feeds.find? fun f => f.name = name && f.process.isSome = isCommand
  let f? ← match known with
    | some f => pure (some f)
    | none => do
      if isCommand then pure (some (← openCommand name))
      else
        match ← openFeed? name with
        | .ok f => pure (some f)
        | .error _ => pure none
  match f? with
  | none => return none
  | some f =>
    let (r, f) ← nextRecord f
    modify fun m => { m with
      feeds := f :: m.feeds.filter fun g => !(g.name = name && g.process.isSome = isCommand) }
    return some r

/-- Closes a file or a command by its name. The answer is what comes of it. -/
def close (name : Chars) : Work Int := do
  let m ← get
  match m.outlets.find? fun o => o.name = name && o.name ≠ printed with
  | some o =>
    let _ ← run' (flushed o)
    if 2 < o.descriptor then run' (Run.setDescriptor o.descriptor none)
    modify fun m => { m with outlets := m.outlets.filter fun p => p.name ≠ name }
    match o.process with
    | some pid => return statusOf (← run' (Run.await pid))
    | none => return 0
  | none =>
    match m.feeds.find? (·.name = name) with
    | some f =>
      if 2 < f.descriptor then run' (Run.setDescriptor f.descriptor none)
      modify fun m => { m with feeds := m.feeds.filter fun g => g.name ≠ name }
      match f.process with
      | some pid => return statusOf (← run' (Run.await pid))
      | none => return 0
    | none => return -1
where
  /-- What a process leaves behind as a number. -/
  statusOf (fate : Host.Fate) : Int :=
    match fate with
    | .killed signal => 256 + signal
    | fate => fate.status

end Work

end Tabulation

end Provision.Program
