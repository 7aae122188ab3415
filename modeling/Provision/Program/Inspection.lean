import Provision.Files.Mode
import Provision.Moment.Basic
import Provision.Program.Accounts
import Provision.Program.Listing
import Provision.Shell.Format

/-!
What a program tells of single nodes, by a format with fields.
-/

namespace Provision.Program

open Bytes (toText ofText)
open Files (FileError Node Tree modeLetters modeDigits)
open Shell (Run pad padNumber)

namespace Inspection

/-- A node under the name by which it is told. -/
structure Inspected where
  name : Chars
  id : Nat
  node : Node

/-- The kind of a node in words. -/
def kindName (n : Node) : String :=
  match n.content with
  | .directory .. => "directory"
  | .link _ => "symbolic link"
  | .queue => "fifo"
  | .device _ => "character special file"
  | _ => if n.size = 0 then "regular empty file" else "regular file"

/-- The bits that stand for the kind of a node. -/
def kindBits (n : Node) : Nat :=
  match n.content with
  | .directory .. => 0o040000
  | .link _ => 0o120000
  | .queue => 0o010000
  | .device _ => 0o020000
  | _ => 0o100000

/-- The numbers of a device, which other nodes do not have. -/
def deviceNumbers (n : Node) : Nat × Nat :=
  match n.content with
  | .device d => d.numbers
  | _ => (0, 0)

/-- The number of the device on which all nodes are. -/
def homeDevice : Nat := 64

/-- The seconds of a time, and the nanoseconds that are left. -/
def splitTime (time : Int) : Int × Nat :=
  let seconds := time.fdiv 1000000000
  (seconds, (time - seconds * 1000000000).toNat)

/-- A time as people read it. -/
def timeText (time : Int) : Chars :=
  let (seconds, nanos) := splitTime time
  let m := Moment.ofSeconds seconds nanos
  m.write "%Y-%m-%d %H:%M:%S.".toList ++ (Nat.toDigits 10 nanos).leftpad 9 '0' ++
    " +0000".toList

/-- What a field says. -/
inductive Told
  | text (t : Chars)
  | number (base n : Nat)
  | time (t : Int)

/-- How a field is written: its flags, its width and its precision, which may be left open. -/
structure FieldStyle where
  flags : Chars
  width : Option Nat
  precision : Option (Option Nat)

/-- A time in seconds, with as many digits behind the point as the precision says. The width counts
these too. -/
def secondsText (f : FieldStyle) (time : Int) : Chars :=
  let (seconds, nanos) := splitTime time
  let places := match f.precision with
    | none => 0
    | some none => 9
    | some (some n) => n
  let width := f.width.getD 0
  let flags := f.flags.filter fun c => "'-+ 0".toList.contains c
  let sign := Shell.signOf flags (time < 0)
  if places = 0 then padNumber flags true width sign (Nat.toDigits 10 seconds.natAbs)
  else
    let inner := width - 1 - places
    let (whole, nanos) := if time < 0 then (time.natAbs / 1000000000, time.natAbs % 1000000000)
      else (seconds.natAbs, nanos)
    let part := (((Nat.toDigits 10 nanos).leftpad 9 '0').take places).rightpad places '0'
    let whole := padNumber (flags.filter (· ≠ '-')) true (if flags.contains '-' then 0 else inner)
      sign (Nat.toDigits 10 whole)
    let t := whole ++ '.' :: part
    if flags.contains '-' then t.rightpad width ' ' else t

/-- Writes what a field says. -/
def Told.write (f : FieldStyle) : Told → Chars
  | .text t =>
    let cut := match f.precision with
      | none => t
      | some n => t.take (n.getD 0)
    pad (f.flags.filter (· = '-')) (f.width.getD 0) cut
  | .number base n =>
    let flags := f.flags.filter fun c => "-#0".toList.contains c
    let least := (f.precision.map (·.getD 0)).getD 1
    let digits := (Nat.toDigits base n).leftpad least '0'
    let marked := flags.contains '#' && n ≠ 0
    let digits := if marked && base = 8 && digits.head? ≠ some '0' then '0' :: digits else digits
    padNumber flags f.precision.isNone (f.width.getD 0)
      (if marked && base = 16 then ['0', 'x'] else []) digits
  | .time t => secondsText f t

/-- What a field with a letter says of a node. A letter that is not known stands for a question
mark. -/
def told (t : Tree) (x : Inspected) (letter : Char) : Option Told :=
  let n := x.node
  match letter with
  | 'n' => some (.text x.name)
  | 'd' => some (.number 10 homeDevice)
  | 'D' => some (.number 16 homeDevice)
  | 'i' => some (.number 10 (x.id + 1000))
  | 'a' => some (.number 8 n.mode)
  | 'A' => some (.text (Listed.kindLetter n :: modeLetters n.mode))
  | 'f' => some (.number 16 (kindBits n + n.mode))
  | 'F' => some (.text (kindName n).toList)
  | 'h' => some (.number 10 (t.linkCount x.id))
  | 'u' => some (.number 10 n.owner)
  | 'U' => some (.text (nameOf? (accounts t) n.owner |>.getD "UNKNOWN".toList))
  | 'g' => some (.number 10 n.group)
  | 'G' => some (.text (nameOf? (userGroups t) n.group |>.getD "UNKNOWN".toList))
  | 'm' => some (.text ['/'])
  | 's' => some (.number 10 n.size)
  | 't' => some (.number 16 (deviceNumbers n).1)
  | 'T' => some (.number 16 (deviceNumbers n).2)
  | 'r' => some (.number 10 ((deviceNumbers n).1 * 256 + (deviceNumbers n).2))
  | 'R' => some (.number 16 ((deviceNumbers n).1 * 256 + (deviceNumbers n).2))
  | 'B' => some (.number 10 512)
  | 'b' => some (.number 10 n.blocks)
  | 'o' => some (.number 10 4096)
  | 'w' => some (.text (timeText n.changed))
  | 'W' => some (.time n.changed)
  | 'x' => some (.text (timeText n.accessed))
  | 'X' => some (.time n.accessed)
  | 'y' => some (.text (timeText n.modified))
  | 'Y' => some (.time n.modified)
  | 'z' => some (.text (timeText n.changed))
  | 'Z' => some (.time n.changed)
  | 'C' => some (.text ['?'])
  | _ => none

/-- The higher or the lower number of a device. -/
def part? (x : Inspected) (high : Bool) (letter : Char) : Option Told :=
  let pick (p : Nat × Nat) : Told := .number 10 (if high then p.1 else p.2)
  match letter with
  | 'd' => some (pick (0, homeDevice))
  | 'r' => some (pick (deviceNumbers x.node))
  | _ => none

/-- What is written by a format: texts, complaints, and an end with an error. -/
inductive Piece
  | text (t : Chars)
  | warning (message : String)
  | fatal (message : String)

/-- What a character behind a backslash stands for. -/
def escapeOf (c : Char) : List Piece :=
  match c with
  | 'a' => [.text ['\x07']]
  | 'b' => [.text ['\x08']]
  | 'e' => [.text ['\x1b']]
  | 'f' => [.text ['\x0c']]
  | 'n' => [.text ['\n']]
  | 'r' => [.text ['\r']]
  | 't' => [.text ['\t']]
  | 'v' => [.text ['\x0b']]
  | '\x22' | '\\' => [.text [c]]
  | c => [.warning ("warning: unrecognized escape '\\" ++ toText [c] ++ "'"), .text [c]]

/-- Reads a backslash and what follows it. -/
def readEscape (rest : Chars) : List Piece × Chars :=
  let isOctal (c : Char) : Bool := '0' ≤ c && c ≤ '7'
  match rest with
  | [] => ([.warning "warning: backslash at end of format", .text ['\\']], [])
  | 'x' :: c :: more =>
    let digits := ((c :: more).take 2).takeWhile fun d => (Text.readNat? 16 [d]).isSome
    match Text.readNat? 16 digits with
    | some n => ([.text [Char.ofNat n]], (c :: more).drop digits.length)
    | none => (escapeOf 'x', c :: more)
  | c :: more =>
    if isOctal c then
      let digits := (rest.take 3).takeWhile isOctal
      ([.text [Char.ofNat ((Text.readNat? 8 digits).getD 0 % 256)]], rest.drop digits.length)
    else (escapeOf c, more)

/-- Writes a name and, if it is that of a link, where that leads. -/
def nameWithGoal (f : FieldStyle) (quotes : Bool) (x : Inspected) : Chars :=
  let shown (t : Chars) : Chars :=
    Told.write f (.text (if quotes then ofText (quoted t) else t))
  match x.node.content with
  | .link goal => shown x.name ++ " -> ".toList ++ shown (ofText goal)
  | _ => shown x.name

/-- Goes through a format. -/
def pieces (t : Tree) (x : Inspected) (escapes quotes : Bool) : Nat → Chars → List Piece
  | 0, _ => []
  | _ + 1, [] => []
  | room + 1, '%' :: rest =>
    let flags := rest.takeWhile fun c => "'-+ #0I".toList.contains c
    let behind := rest.drop flags.length
    let digits := behind.takeWhile Char.isDigit
    let behind := behind.drop digits.length
    let (precision, behind) : Option (Option Nat) × Chars := match behind with
      | '.' :: more =>
        let ds := more.takeWhile Char.isDigit
        (some (Text.readNat? 10 ds), more.drop ds.length)
      | _ => (none, behind)
    let f : FieldStyle := ⟨flags, Text.readNat? 10 digits, precision⟩
    let used := rest.length - behind.length
    let plain (c : Char) (more : Chars) : List Piece :=
      (if c = 'N' then .text (nameWithGoal f quotes x)
        else .text (((told t x c).map (Told.write f)).getD ['?'])) :: pieces t x escapes quotes room more
    match behind with
    | [] =>
      if used = 0 then [.text ['%']]
      else [.fatal (cited ('%' :: rest) ++ ": invalid directive")]
    | '%' :: more =>
      if used = 0 then .text ['%'] :: pieces t x escapes quotes room more
      else [.fatal (cited ('%' :: rest.take (used + 1)) ++ ": invalid directive")]
    | c :: d :: more =>
      match if c = 'H' || c = 'L' then part? x (c = 'H') d else none with
      | some told => .text (told.write f) :: pieces t x escapes quotes room more
      | none => plain c (d :: more)
    | [c] => plain c []
  | room + 1, '\\' :: rest =>
    if escapes then
      let (ps, rest) := readEscape rest
      ps ++ pieces t x escapes quotes room rest
    else .text ['\\'] :: pieces t x escapes quotes room rest
  | room + 1, c :: rest => .text [c] :: pieces t x escapes quotes room rest

/-- Writes pieces and complains of what is wrong. The answer tells whether all may go on. -/
def emit (name : String) : List Piece → List Chars → Run Bool
  | [], held => do
    let _ ← out name held.reverse.flatten
    return true
  | .text t :: rest, held => emit name rest (t :: held)
  | .warning message :: rest, held => do
    let _ ← complain name message
    emit name rest held
  | .fatal message :: _, held => do
    let _ ← complain name message
    let _ ← out name held.reverse.flatten
    return false

/-- What is told if nothing is asked for. -/
def usualFormat (n : Node) : String :=
  let device := match n.content with
    | .device _ => " Device type: %Hr,%Lr"
    | _ => ""
  "  File: %N\n  Size: %-10s\tBlocks: %-10b IO Block: %-6o %F\n" ++
    "Device: %Hd,%Ld\tInode: %-10i  Links: " ++ (if device = "" then "%h" else "%-5h") ++ device ++
    "\nAccess: (%04a/%10.10A)  Uid: (%5u/%8U)   Gid: (%5g/%8G)\n" ++
    "Access: %x\nModify: %y\nChange: %z\n Birth: %w\n"

/-- What is told in short. -/
def shortFormat : String := "%n %s %b %f %u %g %D %i %h %t %T %X %Y %Z %W %o\n"

/-- What is told of file systems if nothing is asked for. -/
def systemText (name : Chars) : String :=
  "  File: \"" ++ toText name ++ "\"\n    ID: 0        Namelen: 255     Type: overlayfs\n" ++
    "Block size: 4096       Fundamental block size: 4096\n"

def spec : Spec :=
  .ofString "Lc:ft"
    ["dereference|L", "file-system|f", "format=|c", "printf=", "terse|t", "cached="]

/-- The node for an operand. -/
def nodeAt (name : String) (follows : Bool) (path : Chars) : Run (Except Nat Inspected) := do
  let t ← Run.tree
  if path = ['-'] then
    let found ← Run.observe fun s y =>
      match (y.stream? s.process 0).map (·.target) with
      | some (.node id) => some id
      | _ => none
    match found.bind fun id => (t.node? id).map fun n => (⟨path, id, n⟩ : Inspected) with
    | some x => return .ok x
    | none => return .ok ⟨path, 0, .fresh .queue 0o600 0⟩
  let where' := if follows then t.locate (toText path) else t.locateEntry (toText path)
  match where'.map fun id => (id, t.node? id) with
  | .ok (id, some n) => return .ok ⟨path, id, n⟩
  | .ok (_, none) => return .error (← complain name (quoted path ++ ": no node"))
  | .error e =>
    return .error (← complain name ("cannot statx " ++ quoted path ++ ": " ++ e.reason))

/-- Tells of one operand after the other. -/
def each (name : String) (a : Arguments) (status : Nat) : List Chars → Run Nat
  | [] => return status
  | path :: rest => do
    match ← nodeAt name (a.has "L") path with
    | .error _ => each name a 1 rest
    | .ok x =>
      let t ← Run.tree
      let told (escapes quotes : Bool) (format : Chars) : List Piece :=
        pieces t x escapes quotes (format.length + 1) format
      let ps := match a.lastOf? ["c", "printf"] with
        | some "c" => told false true ((a.value? "c").getD []) ++ [.text ['\n']]
        | some _ => told true true ((a.value? "printf").getD [])
        | none => told false false (if a.has "t" then shortFormat else usualFormat x.node).toList
      if ← emit name ps [] then
        each name a status rest
      else return 1

end Inspection

open Inspection in
def stat : Program := fun c args =>
  withArguments c.name spec 1 false args fun a => do
    match a.operands with
    | [] => misuse c.name "missing operand"
    | operands =>
      if a.has "f" then
        let mut status := 0
        for path in operands do
          match (← Run.tree).find (toText path) with
          | .ok _ => let _ ← out c.name (ofText (systemText path))
          | .error e =>
            status ← complain c.name
              ("cannot read file system information for " ++ quoted path ++ ": " ++ e.reason)
        return status
      else each c.name a 0 operands

end Provision.Program
