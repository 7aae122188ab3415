import Provision.Files.Mode
import Provision.Files.Content
import Provision.Moment.Reader
import Provision.Program.Accounts
import Provision.Program.Copying
import Provision.Program.Listing
import Provision.Program.Removal
import Provision.Regular.Reader
import Provision.Shell.Pattern

/-!
The program that goes through directories and does something with what is found there.
-/

namespace Provision.Program

open Bytes (toText ofText)
open Files (FileError ModeChange Node Tree)
open Shell (Run)

namespace Finding

/-- What is found: the path to it, the operand from which the way begins, how deep it lies, and the
node with the directory in which it is. -/
structure Seen where
  path : Chars
  operand : Chars
  depth : Nat
  id : Nat
  node : Node
  directory : Nat

/-- How directories are gone through: from which depth on and up to which one, whether what a
directory holds comes first, and which links are followed. The ages of files count up to a time. -/
structure Style where
  deepest : Option Nat := none
  shallowest : Nat := 0
  contentFirst : Bool := false
  following : Following := .never
  now : Int := 0
  dayEnd : Int := 0
  dialect : String := "findutils-default"
  warns : Bool := false
  acts : Bool := false
  tested : Option String := none
  commands : Nat := 0

/-- Paths that are held back for a command, the last one first, with the directory in which it runs if
that is not the present one. -/
structure Batch where
  command : Nat
  words : List Chars
  directory : Option Nat
  paths : List Chars

/-- How far the work has come: what is held back for commands, whether all is over, whether a
directory is not to be entered, and whether something went wrong. -/
structure Progress where
  batches : List Batch := []
  pruned : Bool := false
  isOver : Bool := false
  failed : Bool := false

abbrev Find := StateT Progress Run

/-- What is asked of a node, or done with it. -/
abbrev Probe := Seen → Find Bool

/-- An expression, which is true of a node or not. -/
inductive Query
  | probe (p : Probe)
  | negated (q : Query)
  | both (q r : Query)
  | either (q r : Query)
  | sequence (q r : Query)

namespace Query

/-- Whether an expression is true of a node. No more is asked than has to be. -/
def eval : Query → Seen → Find Bool
  | .probe p, x => do if (← get).isOver then return false else p x
  | .negated q, x => do return !(← q.eval x)
  | .both q r, x => do if ← q.eval x then r.eval x else return false
  | .either q r, x => do if ← q.eval x then return true else r.eval x
  | .sequence q r, x => do
    let _ ← q.eval x
    r.eval x

end Query

/-! ## Names -/

/-- A text as messages show it. -/
def marked (t : Chars) : String := String.singleton (Char.ofNat 96) ++ toText t ++ "'"

/-- The name at the end of a path. -/
def nameOf (path : Chars) : Chars := if path.all (· = '/') then path.take 1 else lastPart path

/-- A path without its last name. -/
def wayOf (path : Chars) : Chars :=
  if path.contains '/' then ((path.reverse.dropWhile (· ≠ '/')).drop 1).reverse else ['.']

def patternOf (t : Chars) : Shell.Pattern := .ofMarked false (t.map (·, false))

/-- The styles of expressions by their names, with whether signs need no backslash in them. -/
def dialects : List (String × Option Bool) :=
  [("findutils-default", none), ("ed", some false), ("emacs", none), ("gnu-awk", some true),
   ("grep", some false), ("posix-awk", some true), ("awk", some true), ("posix-basic", some false),
   ("posix-egrep", some true), ("egrep", some true), ("posix-extended", some true),
   ("posix-minimal-basic", some false), ("sed", some false)]

def readExpression (dialect : String) (t : Chars) : Except RegularError Regular :=
  match dialects.lookup dialect with
  | some (some true) => Regular.ofChars .extended' t
  | some (some false) => Regular.ofChars { strict := false } t
  | _ => Regular.ofSwapped t

/-! ## Kinds and permissions -/

def kindLetter (n : Node) : Char :=
  match Listed.kindLetter n with
  | '-' => 'f'
  | c => c

/-- The letter for where a link leads: to nothing, round in a circle, or to a node. -/
def goalLetter (t : Tree) (path : Chars) : Char :=
  match t.find (toText path) with
  | .ok n => kindLetter n
  | .error .tooManyLinks => 'L'
  | .error .notFound | .error .notADirectory => 'N'
  | .error _ => '?'

def modeText (n : Node) : Chars :=
  Listed.kindLetter n :: Files.modeLetters n.mode

/-! ## Numbers that are compared -/

/-- Whether something has to be less, more or the same. -/
inductive Relation
  | less
  | more
  | same
  deriving DecidableEq

def Relation.ofChars (t : Chars) : Relation × Chars :=
  match t with
  | '+' :: t => (.more, t)
  | '-' :: t => (.less, t)
  | t => (.same, t)

def Relation.holds (r : Relation) (x y : Int) : Bool :=
  match r with
  | .less => x < y
  | .more => y < x
  | .same => x = y

/-- Reads a number of units as nanoseconds. A part of a unit stands behind a point. -/
def readSpan? (unit : Nat) (t : Chars) : Option Int := do
  let whole := t.takeWhile Char.isDigit
  let rest := t.drop whole.length
  match rest with
  | [] => return (← Text.readNat? 10 whole) * unit
  | '.' :: part =>
    if whole.isEmpty && part.isEmpty then none
    let n := (Text.readNat? 10 whole).getD 0
    let m := (← Text.readNat? 10 (if part.isEmpty then ['0'] else part))
    return n * unit + m * unit / Nat.pow 10 part.length
  | _ => none

/-! ## What is written -/

/-- A point in time in one of the ways that have a letter. -/
def timeText (time : Int) (letter : Char) : Chars :=
  let seconds := time.fdiv 1000000000
  let nanos := (time - seconds * 1000000000).toNat
  let m := Moment.ofSeconds seconds nanos
  let fraction := '.' :: (Nat.toDigits 10 nanos).leftpad 9 '0' ++ ['0']
  match letter with
  | '@' => Run.integerText seconds ++ fraction
  | '+' => m.write "%Y-%m-%d+%H:%M:%S".toList ++ fraction
  | 'S' => m.write "%S".toList ++ fraction
  | 'T' | 'X' => m.write "%H:%M:%S".toList ++ fraction
  | 'c' => m.write "%a %b %e %H:%M:%S ".toList ++ m.write "%Y".toList
  | c => m.write ['%', c]

/-- The usual text of a point in time. -/
def longTime (time : Int) : Chars :=
  let seconds := time.fdiv 1000000000
  let nanos := (time - seconds * 1000000000).toNat
  let m := Moment.ofSeconds seconds nanos
  m.write "%a %b %e %H:%M:%S".toList ++ '.' :: (Nat.toDigits 10 nanos).leftpad 9 '0' ++ ['0'] ++
    m.write " %Y".toList

/-- A piece of a format: a text, or a field with flags, a width, a precision and a letter, which may
have a second one behind it. -/
inductive Piece
  | text (t : Chars)
  | field (flags : Chars) (width precision : Option Nat) (letter : Char) (detail : Char)
  | stop

/-- What is strange in a format. -/
inductive Oddity
  | escape (c : Char)
  | loneBackslash
  | field (t : Chars)
  | lonePercent

/-- The fields that have a second letter. -/
def detailed : Chars := "ABCT".toList

def known : Chars := "abcdDfFgGhHiklmMnpPsStuUyYZ".toList

/-- Reads a format. -/
def readFormat : (room : Nat) → Chars → List Piece × List Oddity
  | 0, _ => ([], [])
  | _ + 1, [] => ([], [])
  | room + 1, '\\' :: rest =>
    let one (c : Char) (rest : Chars) : List Piece × List Oddity :=
      let (ps, os) := readFormat room rest
      (.text [c] :: ps, os)
    match rest with
    | [] => ([.text ['\\']], [.loneBackslash])
    | c :: cs =>
      match c with
      | 'a' => one '\x07' cs
      | 'b' => one '\x08' cs
      | 'f' => one '\x0c' cs
      | 'n' => one '\n' cs
      | 'r' => one '\r' cs
      | 't' => one '\t' cs
      | 'v' => one '\x0b' cs
      | '\\' => one '\\' cs
      | 'c' => ([.stop], [])
      | c =>
        if '0' ≤ c && c ≤ '7' then
          let digits := (rest.take 3).takeWhile fun d => '0' ≤ d && d ≤ '7'
          one (Char.ofNat (((Text.readNat? 8 digits).getD 0) % 256)) (rest.drop digits.length)
        else
          let (ps, os) := readFormat room cs
          (.text ['\\', c] :: ps, .escape c :: os)
  | room + 1, '%' :: rest =>
    match rest with
    | '%' :: rest =>
      let (ps, os) := readFormat room rest
      (.text ['%'] :: ps, os)
    | _ =>
      let flags := rest.takeWhile fun c => "-+ 0#".toList.contains c
      let behind := rest.drop flags.length
      let digits := behind.takeWhile Char.isDigit
      let behind := behind.drop digits.length
      let (precision, behind) : Option Nat × Chars := match behind with
        | '.' :: more =>
          let ds := more.takeWhile Char.isDigit
          (some ((Text.readNat? 10 ds).getD 0), more.drop ds.length)
        | _ => (none, behind)
      match behind with
      | [] => ([], [.lonePercent])
      | c :: more =>
        if detailed.contains c && !more.isEmpty then
          let (ps, os) := readFormat room (more.drop 1)
          (.field flags (Text.readNat? 10 digits) precision c (more.headD ' ') :: ps, os)
        else if known.contains c then
          let (ps, os) := readFormat room more
          (.field flags (Text.readNat? 10 digits) precision c ' ' :: ps, os)
        else
          let text := '%' :: rest.take (rest.length - more.length)
          let (ps, os) := readFormat room more
          (.text text :: ps, .field text :: os)
  | room + 1, c :: cs =>
    let (ps, os) := readFormat room cs
    (.text [c] :: ps, os)

/-- What a field says of a node. -/
def fieldText (t : Tree) (x : Seen) (letter detail : Char) : Chars :=
  let n := x.node
  let number (n : Nat) : Chars := Nat.toDigits 10 n
  match letter with
  | 'p' => x.path
  | 'f' =>
    let isOpen := x.depth = 0 && x.path.getLast? = some '/' && !x.path.all (· = '/')
    if isOpen then nameOf x.path ++ ['/'] else nameOf x.path
  | 'h' => wayOf x.path
  | 'H' => x.operand
  | 'P' => (x.path.drop x.operand.length).dropWhile (· = '/')
  | 's' => number n.size
  | 'k' => number ((n.blocks + 1) / 2)
  | 'b' => number n.blocks
  | 'm' => Nat.toDigits 8 n.mode
  | 'M' => modeText n
  | 'n' => number (t.linkCount x.id)
  | 'i' => number (x.id + 1000)
  | 'u' => nameOrNumber (accounts t) n.owner
  | 'g' => nameOrNumber (userGroups t) n.group
  | 'U' => number n.owner
  | 'G' => number n.group
  | 'd' => number x.depth
  | 'D' => number 64
  | 'F' => "overlay".toList
  | 'y' => [kindLetter n]
  | 'Y' => if n.isLink then [goalLetter t x.path] else [kindLetter n]
  | 'l' =>
    match n.content with
    | .link goal => ofText goal
    | _ => []
  | 'S' =>
    if n.size = 0 then ['1']
    else Decimal.Quantity.digits 'g' none false (.finite false ⟨n.blocks * 512, n.size⟩)
  | 't' => longTime n.modified
  | 'a' => longTime n.accessed
  | 'c' => longTime n.changed
  | 'T' => timeText n.modified detail
  | 'A' => timeText n.accessed detail
  | 'C' => timeText n.changed detail
  | _ => []

/-- A text with flags and a width. -/
def laidOut (flags : Chars) (width precision : Option Nat) (isNumber : Bool) (t : Chars) : Chars :=
  let t := if isNumber then t else match precision with
    | some n => t.take n
    | none => t
  let width := width.getD 0
  if flags.contains '-' then t.rightpad width ' ' else t.leftpad width ' '

/-- Writes what a format says of a node. -/
def formatted (t : Tree) (x : Seen) : List Piece → Chars
  | [] => []
  | .stop :: _ => []
  | .text s :: ps => s ++ formatted t x ps
  | .field flags width precision letter detail :: ps =>
    let text := fieldText t x letter detail
    let text := if letter = 'm' && flags.contains '#' then '0' :: text else text
    laidOut flags width precision ("dGinUm".toList.contains letter) text ++ formatted t x ps

/-! ## Commands -/

/-- Runs a command. The answer tells whether it has succeeded. -/
def call (c : Caller) (directory : Option Nat) (words : List Chars) : Run Bool := do
  let child ← Run.startWith [] do
    if let some d := directory then modify fun s => { s with directory := d }
    match ← c.become words with
    | .ok status => Run.setStatus status
    | .error o =>
      Run.complain ("find: " ++ cited (words.headD []) ++ ": " ++ o.reason)
      Run.setStatus 1
    Run.stop
  return (← Run.await child) = .exited 0

/-- Puts a path in the place of each pair of braces. -/
def withPath (path : Chars) : (room : Nat) → Chars → Chars
  | 0, t => t
  | _ + 1, [] => []
  | room + 1, '\x7b' :: '\x7d' :: rest => path ++ withPath path room rest
  | room + 1, c :: rest => c :: withPath path room rest

/-- The path of a node as it is seen from its own directory. -/
def pathInside (x : Seen) : Chars :=
  let name := nameOf x.path
  if name = ['/'] then name else '.' :: '/' :: name

/-- Runs a command with the paths that are held back for it. -/
def runBatch (c : Caller) (b : Batch) : Find Unit := do
  modify fun p => { p with batches := p.batches.filter (·.command ≠ b.command) }
  if !(← call c b.directory (b.words ++ b.paths.reverse)) then
    modify fun p => { p with failed := true }

/-- So wide are the arguments of a command at most. -/
def widest : Nat := 131072

/-- Holds a path back for a command, or runs the command first if there are enough. -/
def holdBack (c : Caller) (command : Nat) (words : List Chars) (directory : Option Nat)
    (path : Chars) : Find Bool := do
  let old := (← get).batches.find? (·.command = command)
  match old with
  | some b =>
    let width := (b.words ++ b.paths).foldl (fun n w => n + w.length + 9) 0
    if b.directory ≠ directory || widest < width + path.length then runBatch c b
  | none => pure ()
  let b := ((← get).batches.find? (·.command = command)).getD ⟨command, words, directory, []⟩
  modify fun p =>
    { p with
      batches := p.batches.filter (·.command ≠ command) ++ [{ b with paths := path :: b.paths }] }
  return true

def runBatches (c : Caller) : Find Unit := do
  for b in (← get).batches do runBatch c b

/-- A command as it is given: its words, and whether it takes many paths at once. -/
structure Order where
  words : List Chars
  many : Bool

/-- Reads a command up to its end. -/
def readOrder : (words : List Chars) → List Chars → Option (Order × List Chars)
  | _, [] => none
  | words, [';'] :: rest => some (⟨words.reverse, false⟩, rest)
  | words, w :: rest =>
    if w = ['+'] && words.head? = some ['\x7b', '\x7d'] then some (⟨words.reverse.drop 0, true⟩, rest)
    else readOrder (w :: words) rest

/-! ## Reading an expression -/

/-- A part of an expression. Signs keep how they are written. -/
inductive Token
  | opening
  | closing
  | negation (t : String)
  | conjunction (t : String)
  | alternative (t : String)
  | comma
  | leaf (q : Query)

/-- Reading goes on with a style, or fails with a message. -/
abbrev Parse := StateT Style (ExceptT String Run)

def fail {α : Type} (message : String) : Parse α := throw message

def inRun {α : Type} (m : Run α) : Parse α := fun s => ExceptT.mk do return .ok (← m, s)

/-- Warns of something strange. -/
def warn (message : String) : Parse Unit := inRun (Run.complain ("find: warning: " ++ message))

def probe (p : Probe) : Query := .probe p

/-- A question that needs no more than the node. -/
def ask? (f : Seen → Bool) : Query := .probe fun x => return f x

/-- A question about the files as they are. -/
def askTree (f : Tree → Seen → Bool) : Query := .probe fun x => do return f (← Run.tree) x

def numberArgument (name : String) (t : Chars) : Parse (Relation × Int) := do
  let (r, digits) := Relation.ofChars t
  match Text.readNat? 10 digits with
  | some n => return (r, n)
  | none => fail ("invalid argument " ++ marked t ++ " to " ++ marked name.toList)

/-- A question about how many units ago something was. -/
def ageQuery (name : String) (unit : Nat) (byDay : Bool) (t : Chars) (f : Node → Int) :
    Parse Query := do
  let (r, digits) := Relation.ofChars t
  match readSpan? unit digits with
  | none => fail ("invalid argument " ++ marked t ++ " to " ++ marked name.toList)
  | some span =>
    let s ← get
    let now := if byDay then s.dayEnd else s.now
    let window : Int := unit
    let limit := now - span
    return ask? fun x =>
      let time := f x.node
      match r, byDay with
      | .less, _ => limit < time
      | .more, true => time < limit - window
      | .more, false => time < limit
      | .same, true => limit - window < time && time ≤ limit
      | .same, false => limit < time && time ≤ limit + window

/-- The units of sizes by their letters. -/
def sizeUnit? (c : Char) : Option Nat :=
  match c with
  | 'b' => some 512
  | 'c' => some 1
  | 'w' => some 2
  | 'k' => some 1024
  | 'M' => some 1048576
  | 'G' => some 1073741824
  | _ => none

def sizeQuery (t : Chars) : Parse Query := do
  let last := t.getLastD ' '
  let (unit, body) ← if last.isDigit then pure (512, t)
    else match sizeUnit? last with
      | some unit => pure (unit, t.dropLast)
      | none => fail ("invalid -size type " ++ marked [last])
  let (r, digits) := Relation.ofChars body
  match Text.readNat? 10 digits with
  | some n => return ask? fun x => r.holds ((x.node.size + unit - 1) / unit : Nat) n
  | none => fail ("Invalid argument " ++ marked t ++ " to -size")

/-- A question about permissions: all of them, at least some, or any of some. -/
def permissionQuery (t : Chars) : Parse Query := do
  let (sign, body) : Char × Chars := match t with
    | '-' :: rest => ('-', rest)
    | '/' :: rest => ('/', rest)
    | _ => (' ', t)
  match ModeChange.ofChars? body with
  | none => fail ("invalid mode " ++ cited t)
  | some changes =>
    return ask? fun x =>
      let wanted := ModeChange.applyAll x.node.isDirectory 0 changes 0
      match sign with
      | '-' => x.node.mode &&& wanted = wanted
      | '/' => wanted = 0 || x.node.mode &&& wanted ≠ 0
      | _ => x.node.mode = wanted

/-- The letters for kinds of nodes. -/
def kindLetters (name : String) (t : Chars) : Parse (List Char) := do
  let known := "bcdpflsD".toList
  let rec go : (room : Nat) → Chars → Parse (List Char)
    | 0, _ => return []
    | _ + 1, [] =>
      fail ("Last file type in list argument to " ++ name ++
        " is missing, i.e., list is ending on: ','")
    | room + 1, c :: cs => do
      if !known.contains c then fail ("Unknown argument to " ++ name ++ ": " ++ toText [c])
      match cs with
      | [] => return [c]
      | ',' :: rest => return c :: (← go room rest)
      | _ => fail ("Must separate multiple arguments to " ++ name ++ " using: ','")
  if t.isEmpty then fail ("Arguments to " ++ name ++ " should contain at least one letter")
  go (t.length + 1) t

/-- The node that is compared with others. -/
def reference (path : Chars) : Parse (Nat × Node) := do
  let s ← get
  let t ← inRun Run.tree
  let found := if s.following = .never then t.locateEntry (toText path) else t.locate (toText path)
  match found with
  | .error e => fail (cited path ++ ": " ++ e.reason)
  | .ok id =>
    match t.node? id with
    | some n => return (id, n)
    | none => fail (cited path ++ ": No such file or directory")

def newerThan (f g : Node → Int) (path : Chars) : Parse Query := do
  let (_, n) ← reference path
  return ask? fun x => g n < f x.node

/-- Opens a file to which something is written. -/
def openGoal (path : Chars) : Parse Nat := do
  if path = "/dev/stdout".toList then return 1
  if path = "/dev/stderr".toList then return 2
  match ← inRun (Run.openPath (toText path) .write) with
  | .error e => fail (cited path ++ ": " ++ e.reason)
  | .ok stream =>
    inRun do
      let d ← Run.freeDescriptor 3
      Run.setDescriptor d (some stream)
      return d

/-- Something that is written for each node. -/
def writing (descriptor : Nat) (text : Tree → Seen → Chars) : Parse Query := do
  modify fun s => { s with acts := true }
  return .probe fun x => do
    match ← Run.write descriptor (text (← Run.tree) x) with
    | .ok () => return true
    | .error _ => return true

def formatting (descriptor : Nat) (format : Chars) : Parse Query := do
  let (pieces, oddities) := readFormat (format.length + 1) format
  for o in oddities do
    match o with
    | .escape c => warn ("unrecognized escape " ++ marked ['\\', c])
    | .loneBackslash => warn ("escape " ++ marked ['\\'] ++ " followed by nothing at all")
    | .field t => warn ("unrecognized format directive " ++ marked t)
    | .lonePercent => fail "error: % at end of format string"
  writing descriptor fun t x => formatted t x pieces

/-- The long text of a node. -/
def longText (t : Tree) (now : Int) (x : Seen) : Chars :=
  let n := x.node
  let pad (w : Nat) (s : Chars) : Chars := s.leftpad w ' '
  let number (k : Nat) : Chars := Nat.toDigits 10 k
  let seconds := n.modified.fdiv 1000000000
  let m := Moment.ofSeconds seconds
  let isRecent := now - 15778476 * 1000000000 < n.modified && n.modified ≤ now
  let time := m.write (if isRecent then "%b %e %H:%M" else "%b %e  %Y").toList
  let goal : Chars := match n.content with
    | .link goal => " -> ".toList ++ ofText goal
    | _ => []
  pad 9 (number (x.id + 1000)) ++ [' '] ++ pad 6 (number ((n.blocks + 1) / 2)) ++ [' '] ++
    modeText n ++ [' '] ++ pad 3 (number (t.linkCount x.id)) ++ [' '] ++
    (nameOrNumber (accounts t) n.owner).rightpad 8 ' ' ++ [' '] ++
    (nameOrNumber (userGroups t) n.group).rightpad 8 ' ' ++ [' '] ++ pad 8 (number n.size) ++
    [' '] ++ time ++ [' '] ++ x.path ++ goal ++ ['\n']

/-- Something that is run for each node, or for many of them. -/
def running (c : Caller) (name : String) (inside asks : Bool) (args : List Chars) :
    Parse (Query × List Chars) := do
  match readOrder [] args with
  | none => fail ("missing argument to " ++ marked name.toList)
  | some (order, rest) =>
    if order.words.isEmpty then
      fail ("invalid argument " ++ marked (args.headD []) ++ " to " ++ marked name.toList)
    modify fun s => { s with acts := true, commands := s.commands + 1 }
    if order.many && !asks then
      let words := order.words.dropLast
      let braces : Chars := ['\x7b', '\x7d']
      if words.any fun w => withPath ['\x00'] (w.length + 1) w ≠ w then
        fail ("Only one instance of \x7b\x7d is supported with " ++ name ++ " ... +")
      let _ := braces
      let index := (← get).commands
      return (.probe fun x =>
        if inside then holdBack c index words (some x.directory) (pathInside x)
        else holdBack c index words none x.path, rest)
    else
      return (.probe fun x => do
        let path := if inside then pathInside x else x.path
        let agrees ← if asks then do
            let _ ← Run.emit 2 (ofText ("< " ++ toText (order.words.headD []) ++ " ... " ++
              toText x.path ++ " > ? "))
            match ← Run.takeThrough 0 '\n' with
            | .ok (a :: _, _) => pure (a = 'y' || a = 'Y')
            | _ => pure false
          else pure true
        if !agrees then return false
        call c (if inside then some x.directory else none)
          (order.words.map fun w => withPath path (w.length + 1) w), rest)

/-- The times of a node by their letters. -/
def timeOf? (c : Char) : Option (Node → Int) :=
  match c with
  | 'a' => some (·.accessed)
  | 'c' => some (·.changed)
  | 'm' => some (·.modified)
  | _ => none

/-- The names of options that hold for the whole expression. -/
def globalNames : List String :=
  ["-depth", "-d", "-maxdepth", "-mindepth", "-mount", "-xdev", "-noleaf", "-ignore_readdir_race",
   "-noignore_readdir_race", "-files0-from"]

/-- The names of options that hold from their place on. -/
def placedNames : List String := ["-daystart", "-follow", "-regextype", "-warn", "-nowarn"]

def always : Query := ask? fun _ => true

/-- The end of a directory that is empty. -/
def isVoid (t : Tree) (x : Seen) : Bool :=
  if x.node.isDirectory then (t.entries x.id).isEmpty else x.node.isFile && x.node.size = 0

/-- Takes a node away. -/
def deleteNode : Probe := fun x => do
  if x.path = ['.'] then return true
  let r ← Run.changeTree fun t =>
    if x.node.isDirectory && !((t.findEntry (toText x.path)).toOption.any Node.isLink) then
      t.removeDirectory (toText x.path)
    else t.remove (toText x.path)
  match r with
  | .ok () => return true
  | .error e =>
    Run.complain ("find: cannot delete " ++ cited x.path ++ ": " ++ e.reason)
    modify fun p => { p with failed := true }
    return false

/-- Whether a node may be used in a way that has a bit of the permissions. Who may do all may run only
what somebody may run. -/
def mayUse (bit : Nat) (n : Node) : Bool := bit ≠ 1 || n.isDirectory || n.isExecutable

/-- Reads an option, a question or an action behind its name. -/
def term? (c : Caller) (name : String) (args : List Chars) : Parse (Option (Query × List Chars)) := do
  let done (q : Query) (rest : List Chars) : Parse (Option (Query × List Chars)) :=
    return some (q, rest)
  let plain (q : Query) : Parse (Option (Query × List Chars)) := done q args
  let set (f : Style → Style) : Parse (Option (Query × List Chars)) := do
    modify f
    done always args
  let one (f : Chars → Parse Query) : Parse (Option (Query × List Chars)) := do
    match args with
    | a :: rest => done (← f a) rest
    | [] => fail ("missing argument to " ++ marked name.toList)
  let byName (fold : Bool) (f : Seen → Chars) : Parse (Option (Query × List Chars)) :=
    one fun t => do
      let p := patternOf t
      return ask? fun x => p.fitsWith fold (f x)
  let byNumber (f : Tree → Seen → Int) : Parse (Option (Query × List Chars)) :=
    one fun t => do
      let (r, n) ← numberArgument name t
      return askTree fun tree x => r.holds (f tree x) n
  let byExpression (fold : Bool) : Parse (Option (Query × List Chars)) :=
    one fun t => do
      match readExpression (← get).dialect t with
      | .ok r => return ask? fun x => r.fitsWhole (.ofChars fold x.path)
      | .error e =>
        fail ("failed to compile regular expression '" ++ toText t ++ "': " ++ e.message)
  let byPath (fold : Bool) : Parse (Option (Query × List Chars)) :=
    one fun t => do
      if t.getLast? = some '/' && 1 < t.length then
        warn (name ++ " " ++ toText t ++ " will not match anything because it ends with /.")
      let p := patternOf t
      return ask? fun x => p.fitsWith fold x.path
  let linkText (x : Seen) : Chars := match x.node.content with
    | .link goal => ofText goal
    | _ => []
  let byLink (fold : Bool) : Parse (Option (Query × List Chars)) :=
    one fun t => do
      let p := patternOf t
      return ask? fun x => x.node.isLink && p.fitsWith fold (linkText x)
  let depth (f : Nat → Style → Style) : Parse (Option (Query × List Chars)) :=
    one fun t => do
      match Text.readNat? 10 t with
      | some n =>
        modify (f n)
        return always
      | none =>
        fail ("Expected a positive decimal integer argument to " ++ name ++ ", but got " ++ cited t)
  match name with
  | "-true" => plain always
  | "-false" => plain (ask? fun _ => false)
  | "-depth" | "-d" => set fun s => { s with contentFirst := true }
  | "-maxdepth" => depth fun n s => { s with deepest := some n }
  | "-mindepth" => depth fun n s => { s with shallowest := n }
  | "-mount" | "-xdev" | "-noleaf" | "-ignore_readdir_race" | "-noignore_readdir_race" => plain always
  | "-follow" => set fun s => { s with following := .always }
  | "-warn" => set fun s => { s with warns := true }
  | "-nowarn" => set fun s => { s with warns := false }
  | "-daystart" =>
    set fun s => { s with dayEnd := (s.now.fdiv 86400000000000 + 1) * 86400000000000 }
  | "-regextype" =>
    one fun t => do
      if (dialects.lookup (toText t)).isNone then
        fail ("Unknown regular expression type " ++ cited t ++ "; valid types are " ++
          ", ".intercalate (dialects.map fun d => "'" ++ d.1 ++ "'") ++ ".")
      modify fun s => { s with dialect := toText t }
      return always
  | "-name" | "-iname" =>
    match args with
    | t :: _ =>
      if t.contains '/' && t ≠ ['/'] && (← get).warns then
        warn ("'" ++ name ++ "' matches against basenames only, but the given pattern contains a " ++
          "directory separator ('/'), thus the expression will evaluate to false all the time.  " ++
          "Did you mean '" ++ (if name = "-name" then "-wholename" else "-iwholename") ++ "'?")
    | [] => pure ()
    byName (name = "-iname") fun x => nameOf x.path
  | "-path" | "-wholename" => byPath false
  | "-ipath" | "-iwholename" => byPath true
  | "-regex" => byExpression false
  | "-iregex" => byExpression true
  | "-lname" => byLink false
  | "-ilname" => byLink true
  | "-type" =>
    one fun t => do
      let letters ← kindLetters name t
      return ask? fun x => letters.contains (kindLetter x.node)
  | "-xtype" =>
    one fun t => do
      let letters ← kindLetters name t
      let always := (← get).following = .always
      return askTree fun tree x =>
        let own := if always then tree.findEntry (toText x.path) else tree.find (toText x.path)
        match own with
        | .ok n => letters.contains (kindLetter n)
        | .error _ => letters.contains (kindLetter x.node)
  | "-size" => one sizeQuery
  | "-empty" => plain (askTree isVoid)
  | "-perm" => one permissionQuery
  | "-links" => byNumber fun t x => t.linkCount x.id
  | "-inum" => byNumber fun _ x => x.id + 1000
  | "-uid" => byNumber fun _ x => x.node.owner
  | "-gid" => byNumber fun _ x => x.node.group
  | "-used" => byNumber fun _ x => (x.node.accessed - x.node.changed).fdiv 86400000000000 + 1
  | "-user" | "-group" =>
    one fun t => do
      let tree ← inRun Run.tree
      let isUser := name = "-user"
      let entries := if isUser then accounts tree else userGroups tree
      match (numberOf? entries t).or (Text.readNat? 10 t) with
      | some n => return ask? fun x => (if isUser then x.node.owner else x.node.group) = n
      | none =>
        fail (cited t ++ if isUser then " is not the name of a known user"
          else " is not the name of an existing group")
  | "-nouser" => plain (askTree fun t x => (nameOf? (accounts t) x.node.owner).isNone)
  | "-nogroup" => plain (askTree fun t x => (nameOf? (userGroups t) x.node.group).isNone)
  | "-readable" => plain (ask? fun x => mayUse 4 x.node)
  | "-writable" => plain (ask? fun x => mayUse 2 x.node)
  | "-executable" => plain (ask? fun x => mayUse 1 x.node)
  | "-fstype" => one fun t => return ask? fun _ => t = "overlay".toList
  | "-samefile" =>
    one fun t => do
      let (id, _) ← reference t
      return ask? fun x => x.id = id
  | "-newer" => one (newerThan (·.modified) (·.modified))
  | "-anewer" => one (newerThan (·.accessed) (·.modified))
  | "-cnewer" => one (newerThan (·.changed) (·.modified))
  | "-mtime" => one fun t => ageQuery name 86400000000000 true t (·.modified)
  | "-atime" => one fun t => ageQuery name 86400000000000 true t (·.accessed)
  | "-ctime" => one fun t => ageQuery name 86400000000000 true t (·.changed)
  | "-mmin" => one fun t => ageQuery name 60000000000 false t (·.modified)
  | "-amin" => one fun t => ageQuery name 60000000000 false t (·.accessed)
  | "-cmin" => one fun t => ageQuery name 60000000000 false t (·.changed)
  | "-prune" => plain (.probe fun _ => do
      modify fun p => { p with pruned := true }
      return true)
  | "-quit" => plain (.probe fun _ => do
      modify fun p => { p with isOver := true }
      return true)
  | "-delete" => do
    modify fun s => { s with acts := true, contentFirst := true }
    plain (.probe deleteNode)
  | "-print" => plain (← writing 1 fun _ x => x.path ++ ['\n'])
  | "-print0" => plain (← writing 1 fun _ x => x.path ++ ['\x00'])
  | "-printf" => one (formatting 1)
  | "-fprint" => one fun t => do writing (← openGoal t) fun _ x => x.path ++ ['\n']
  | "-fprint0" => one fun t => do writing (← openGoal t) fun _ x => x.path ++ ['\x00']
  | "-fprintf" =>
    match args with
    | t :: format :: rest => done (← formatting (← openGoal t) format) rest
    | _ => fail ("missing argument to " ++ marked name.toList)
  | "-ls" => do
    let now := (← get).now
    plain (← writing 1 fun t x => longText t now x)
  | "-fls" => do
    let now := (← get).now
    one fun t => do writing (← openGoal t) fun tree x => longText tree now x
  | "-exec" => return some (← running c name false false args)
  | "-ok" => return some (← running c name false true args)
  | "-execdir" => return some (← running c name true false args)
  | "-okdir" => return some (← running c name true true args)
  | "-context" => fail "invalid predicate -context: SELinux is not enabled."
  | _ =>
    match name.toList with
    | ['-', 'n', 'e', 'w', 'e', 'r', x, y] =>
      match timeOf? x with
      | none =>
        if x = 'B' && "aBcmt".toList.contains y then
          inRun (Run.complain ("find: This system does not provide a way to find the birth time " ++
            "of a file."))
        fail ("invalid predicate " ++ marked name.toList)
      | some f =>
        match timeOf? y with
        | some g => one (newerThan f g)
        | none =>
          if y = 't' then
            one fun t => do
              let now := (← get).now
              let seconds := now.fdiv 1000000000
              match Moment.read? seconds (now - seconds * 1000000000).toNat t with
              | some (time, nanos) =>
                return ask? fun x => time * 1000000000 + nanos < f x.node
              | none =>
                fail ("I cannot figure out how to interpret " ++ cited t ++ " as a date or time")
          else
            fail ("invalid predicate " ++ marked name.toList)
    | _ => return none

/-- Whether an argument belongs to an expression. -/
def beginsExpression (leading : Bool) (t : Chars) : Bool :=
  match t with
  | '-' :: _ :: _ => true
  | [')'] | [','] => !leading
  | ['('] | ['!'] => true
  | _ => false

/-- Reads the parts of an expression. -/
def tokens (c : Caller) : (room : Nat) → (last : Option String) → List Chars → Parse (List Token)
  | 0, _, _ => return []
  | _ + 1, _, [] => return []
  | room + 1, last, a :: rest => do
    let go (t : Token) : Parse (List Token) := do
      return t :: (← tokens c room (some (toText a)) rest)
    match toText a with
    | "(" => go .opening
    | ")" => go .closing
    | "!" => go (.negation "!")
    | "-not" => go (.negation "-not")
    | "-a" => go (.conjunction "-a")
    | "-and" => go (.conjunction "-and")
    | "-o" => go (.alternative "-o")
    | "-or" => go (.alternative "-or")
    | "," => go .comma
    | name =>
      if !beginsExpression false a then
        let tree ← inRun Run.tree
        inRun (Run.complain ("find: paths must precede expression: " ++ marked a))
        match last with
        | some l =>
          if (tree.findEntry name).toOption.isSome then
            fail ("possible unquoted pattern after predicate " ++ marked l.toList ++ "?")
        | none => pure ()
        fail ""
      let s ← get
      if globalNames.contains name && s.warns then
        if let some l := s.tested then
          warn ("you have specified the global option " ++ name ++ " after the argument " ++ l ++
            ", but global options are not positional, i.e., " ++ name ++ " affects tests specified " ++
            "before it as well as those specified after it.  Please specify global options before " ++
            "other arguments.")
      match ← term? c name rest with
      | none => fail ("unknown predicate " ++ marked a)
      | some (q, rest) =>
        if !globalNames.contains name && !placedNames.contains name then
          modify fun s => { s with tested := s.tested.or (some name) }
        return .leaf q :: (← tokens c room (some name) rest)

/-- Expressions joined by something. -/
def emptyMessage (before : Option String) : String :=
  match before with
  | some t => "expected an expression after '" ++ t ++ "'"
  | none => "invalid expression"

mutual

/-- Reads what stands without signs between. -/
def factor (implicit : Bool) : (room : Nat) → (before : Option String) → List Token →
    Except String (Query × List Token)
  | 0, _, _ => .error "invalid expression"
  | room + 1, before, ts =>
    match ts with
    | [] => .error (emptyMessage (if implicit then before else before))
    | .leaf q :: rest => .ok (q, rest)
    | .negation t :: rest => do
      let (q, rest) ← factor implicit room (some t) rest
      return (.negated q, rest)
    | .conjunction t :: _ | .alternative t :: _ =>
      .error ("invalid expression; you have used a binary operator '" ++ t ++ "' with nothing before it.")
    | .comma :: _ =>
      .error "invalid expression; you have used a binary operator ',' with nothing before it."
    | .closing :: _ =>
      match before with
      | some t => .error ("expected an expression between '" ++ t ++ "' and ')'")
      | none => .error "invalid expression; you have too many ')'"
    | .opening :: rest =>
      match rest with
      | [] =>
        .error ("invalid expression; expected to find a ')' but didn't see one. Perhaps you need " ++
          "an extra predicate after '('")
      | .closing :: _ => .error "invalid expression; empty parentheses are not allowed."
      | rest => do
        let (q, rest) ← joined implicit room none rest
        match rest with
        | .closing :: rest => return (q, rest)
        | _ => throw "invalid expression; I was expecting to find a ')' somewhere but did not see one."

/-- Reads what is true together. -/
def conjunction (implicit : Bool) : (room : Nat) → (before : Option String) → List Token →
    Except String (Query × List Token)
  | 0, _, _ => .error "invalid expression"
  | room + 1, before, ts => do
    let (q, rest) ← factor implicit room before ts
    match rest with
    | .conjunction t :: more =>
      let (r, rest) ← conjunction implicit room (some t) more
      return (.both q r, rest)
    | .leaf _ :: _ | .negation _ :: _ | .opening :: _ =>
      let (r, rest) ← conjunction implicit room none rest
      return (.both q r, rest)
    | _ => return (q, rest)

/-- Reads alternatives. -/
def alternatives (implicit : Bool) : (room : Nat) → (before : Option String) → List Token →
    Except String (Query × List Token)
  | 0, _, _ => .error "invalid expression"
  | room + 1, before, ts => do
    let (q, rest) ← conjunction implicit room before ts
    match rest with
    | .alternative t :: more =>
      let (r, rest) ← alternatives implicit room (some t) more
      return (.either q r, rest)
    | _ => return (q, rest)

/-- Reads expressions of which the last one counts. -/
def joined (implicit : Bool) : (room : Nat) → (before : Option String) → List Token →
    Except String (Query × List Token)
  | 0, _, _ => .error "invalid expression"
  | room + 1, before, ts => do
    let (q, rest) ← alternatives implicit room before ts
    match rest with
    | .comma :: more =>
      let (r, rest) ← joined implicit room (some ",") more
      return (.sequence q r, rest)
    | _ => return (q, rest)

end

/-- The expression that is made of parts. -/
def Query.ofTokens (implicit : Bool) (ts : List Token) : Except String Query := do
  if ts.isEmpty then return always
  let (q, rest) ← joined implicit (8 * ts.length + 8) none ts
  match rest with
  | [] => return q
  | .closing :: _ => throw "you have too many ')'"
  | _ => throw "invalid expression"

/-! ## Going through directories -/

/-- Asks of a node and what is below it. -/
def visit (c : Caller) (s : Style) (q : Query) (operand : Chars) : (room : Nat) → (depth : Nat) →
    (path : Chars) → (directory : Nat) → (above : List (Nat × Chars)) → (known : Option Nat) →
    Find Unit
  | 0, _, _, _, _, _ => return
  | room + 1, depth, path, directory, above, known => do
    if (← get).isOver then return
    let refuse (message : String) : Find Unit := do
      Run.complain ("find: " ++ message)
      modify fun p => { p with failed := true }
    let t ← Run.tree
    let follows := s.following = .always || (s.following = .operands && depth = 0)
    let own := t.locateEntry (toText path)
    let found := if follows then
        match t.locate (toText path) with
        | .ok id => .ok id
        | .error _ => own
      else own
    match found.toOption.or known, found with
    | none, .error e => refuse (cited path ++ ": " ++ e.reason)
    | none, .ok _ => return
    | some id, _ =>
      match t.node? id with
      | none => return
      | some node =>
        let isDirectory := node.isDirectory
        match above.find? (·.1 = id) with
        | some (_, other) =>
          if isDirectory then
            refuse ("File system loop detected; " ++ cited path ++
              " is part of the same file system loop as " ++ cited other ++ ".")
            return
        | none => pure ()
        let x : Seen := ⟨path, operand, depth, id, node, directory⟩
        let ask : Find Unit := do
          if s.shallowest ≤ depth then
            let _ ← q.eval x
        modify fun p => { p with pruned := false }
        if !s.contentFirst then ask
        let pruned := !s.contentFirst && (← get).pruned
        modify fun p => { p with pruned := false }
        let deep := isDirectory && !pruned && (s.deepest.all (depth < ·)) && !(← get).isOver
        if deep then
          let t ← Run.tree
          let again := if follows then t.locate (toText path) else t.locateEntry (toText path)
          match again with
          | .error e => refuse (cited path ++ ": " ++ e.reason)
          | .ok _ =>
            for (name, n) in t.entries id do
              visit c s q operand room (depth + 1) (pathIn path name) id ((id, path) :: above)
                (some n)
        if s.contentFirst then ask

/-- Goes through all operands. -/
def visitAll (c : Caller) (s : Style) (q : Query) (operands : List Chars) : Find Unit := do
  for path in operands do
    let t ← Run.tree
    let directory := match t.place false (toText path) with
      | .ok p => p.directory
      | .error _ => t.working
    visit c s q path maxDepth 0 path directory [] none
  runBatches c

/-! ## The program -/

/-- Reads the options that come first. -/
def firstOptions : List Chars → Following → Except String (Following × List Chars)
  | ['-', 'H'] :: rest, _ => firstOptions rest .operands
  | ['-', 'L'] :: rest, _ => firstOptions rest .always
  | ['-', 'P'] :: rest, _ => firstOptions rest .never
  | ['-', '-'] :: rest, f => .ok (f, rest)
  | ('-' :: 'O' :: digits) :: rest, f =>
    if digits.isEmpty then
      .error "The -O option must be immediately followed by a decimal integer"
    else if digits.all Char.isDigit then firstOptions rest f
    else .error "Please specify a decimal number immediately after -O"
  | ['-', 'D'] :: _ :: rest, f => firstOptions rest f
  | args, f => .ok (f, args)

end Finding

open Finding in
def find : Program := fun c args => do
  let refuse (message : String) : Run Nat := do
    if !message.isEmpty then Run.complain ("find: " ++ message)
    return 1
  if args.any fun a => a = "--version".toList || a = "-version".toList then
    return ← out c.name (ofText (versionOf c.name ++ "\n"))
  if args.any fun a => a = "--help".toList || a = "-help".toList then
    return ← out c.name (ofText
      "Usage: find [-H] [-L] [-P] [-Olevel] [-D debugopts] [path...] [expression]\n")
  match firstOptions args .never with
  | .error message => refuse message
  | .ok (following, args) =>
    let operands := args.takeWhile (!beginsExpression true ·)
    let terms := args.drop operands.length
    let now : Int := ← Run.now
    let start : Style := { following, now, dayEnd := now }
    match ← ((tokens c (terms.length + 1) none terms).run start).run with
    | .error message => refuse message
    | .ok (ts, style) =>
      match Query.ofTokens (!style.acts) ts with
      | .error message => refuse message
      | .ok q =>
        let q := if style.acts then q
          else .both q (.probe fun x => do
            let _ ← Run.write 1 (x.path ++ ['\n'])
            return true)
        let operands := if operands.isEmpty then [['.']] else operands
        let (_, p) ← StateT.run (visitAll c style q operands) {}
        return if p.failed then 1 else 0

end Provision.Program
