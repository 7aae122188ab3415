import Provision.Files.Mode
import Provision.Moment.Basic
import Provision.Program.Accounts
import Provision.Program.Input
import Provision.Program.Order
import Provision.Shell.Pattern

/-!
Lists of what directories hold.
-/

namespace Provision.Program

open Bytes (toText ofText)
open Files (FileError Tree Node modeLetters)
open Shell (Run)

/-! ## Sizes as people read them -/

/-- The unit in which sizes are told: a number of bytes, with what is written behind, or one that
fits each size, of which each next one is so many times as large. -/
inductive SizeUnit
  | fixed (bytes : Nat) (suffix : Chars)
  | fitting (base : Nat)
  deriving DecidableEq

namespace SizeUnit

/-- The letters of the units that fit sizes. -/
def letters (base : Nat) : Chars := (if base = 1000 then "kMGTPEZY" else "KMGTPEZY").toList

/-- A size in the smallest unit in which it is short, rounded up. -/
def fit (base size : Nat) : (room : Nat) → (unit : Nat) → Chars → Chars
  | 0, _, _ => Nat.toDigits 10 size
  | room + 1, unit, rest =>
    match rest with
    | [] => Nat.toDigits 10 size
    | letter :: more =>
      let tenths := (size * 10 + unit - 1) / unit
      let whole := (size + unit - 1) / unit
      if tenths < 100 then Nat.toDigits 10 (tenths / 10) ++ '.' :: Nat.toDigits 10 (tenths % 10) ++ [letter]
      else if whole < base || more.isEmpty then Nat.toDigits 10 whole ++ [letter]
      else fit base size room (unit * base) more

/-- A size as it is written in a unit. -/
def write (u : SizeUnit) (size : Nat) : Chars :=
  match u with
  | .fixed bytes suffix => Nat.toDigits 10 ((size + bytes - 1) / max 1 bytes) ++ suffix
  | .fitting base =>
    if size < base then Nat.toDigits 10 size else fit base size 9 base (letters base)

/-- The unit that a text names. -/
def ofChars? (t : Chars) : Option SizeUnit :=
  let word := String.ofList t
  if word = "human-readable" then some (.fitting 1024)
  else if word = "si" then some (.fitting 1000)
  else
    match readSize? t with
    | some 0 | none => none
    | some n =>
      let letters := t.dropWhile Char.isDigit
      some (.fixed n (if t.head?.any Char.isDigit then [] else letters))

end SizeUnit

/-! ## Names -/

/-- How names are written that could be misread. -/
inductive NameStyle
  | literal
  | shell (always escapes : Bool)
  | c (always : Bool)
  | escape
  | locale
  deriving DecidableEq

/-- A character as an escape, if it cannot be shown. -/
def escapedChar? (c : Char) : Option Chars :=
  match c with
  | '\n' => some ['\\', 'n']
  | '\t' => some ['\\', 't']
  | '\r' => some ['\\', 'r']
  | '\x07' => some ['\\', 'a']
  | '\x08' => some ['\\', 'b']
  | '\x0b' => some ['\\', 'v']
  | '\x0c' => some ['\\', 'f']
  | '\\' => some ['\\', '\\']
  | c => if isShown c then none else some ('\\' :: (Nat.toDigits 8 c.toNat).leftpad 3 '0')

namespace NameStyle

/-- A name as it is written. Without escapes, a character that cannot be shown can have a question
mark in its place. -/
def write (s : NameStyle) (hidesControls : Bool) (t : Chars) : Chars :=
  let shown := if hidesControls then t.map fun c => if isShown c then c else '?' else t
  let between (mark : Char) : Chars :=
    mark :: t.flatMap (fun c => if c = mark then ['\\', c] else (escapedChar? c).getD [c]) ++ [mark]
  match s with
  | .literal => shown
  | .shell always escapes =>
    let plain := shownPath t = toText t && !t.isEmpty
    if plain then if always then '\'' :: t ++ ['\''] else t
    else if escapes then ofText (quoted t)
    else if shown.contains '\'' && !shown.contains '\x22' && !shown.contains '$' &&
        !shown.contains '\\' then '\x22' :: shown ++ ['\x22']
    else '\'' :: shown.flatMap (fun c => if c = '\'' then "'\\''".toList else [c]) ++ ['\'']
  | .c always =>
    if !always && t.all fun c => c ≠ '\x22' && (escapedChar? c).isNone then t else between '\x22'
  | .escape => t.flatMap fun c => if c = ' ' then ['\\', ' '] else (escapedChar? c).getD [c]
  | .locale => between '\''

/-- The words for ways to write names. -/
def choices : List (List String × NameStyle) :=
  [(["literal"], .literal), (["shell"], .shell false false), (["shell-always"], .shell true false),
   (["shell-escape"], .shell false true), (["shell-escape-always"], .shell true true),
   (["c"], .c true), (["c-maybe"], .c false), (["escape"], .escape), (["locale"], .locale),
   (["clocale"], .locale)]

end NameStyle

/-! ## What is listed how -/

/-- How names are laid out. -/
inductive Layout
  | long
  | single
  | down
  | across
  | commas
  deriving DecidableEq

/-- What names are ordered by. -/
inductive ListOrder
  | name
  | none
  | size
  | time
  | ending
  | version
  | width
  deriving DecidableEq

/-- Which marks stand behind names. -/
inductive Marking
  | none
  | directories
  | kinds
  | all
  deriving DecidableEq

/-- How directories are listed. -/
structure ListStyle where
  layout : Layout
  order : ListOrder
  reversed : Bool
  directoriesFirst : Bool
  /-- Which of the times of a node is meant. -/
  time : Node → Int
  names : NameStyle
  hidesControls : Bool
  marking : Marking
  colors : Bool
  all : Bool
  almostAll : Bool
  passesOver : List Shell.Pattern
  hides : List Shell.Pattern
  itself : Bool
  deep : Bool
  following : Bool
  followingOperands : Bool
  numbers : Bool
  showsId : Bool
  showsBlocks : Bool
  showsOwner : Bool
  showsGroup : Bool
  showsAuthor : Bool
  blockUnit : SizeUnit
  sizeUnit : SizeUnit
  /-- The formats of times that are long past or to come, and of the others. -/
  oldTime : Chars
  newTime : Chars
  width : Nat
  tab : Nat
  ending : Char

/-- A name with its node, if that can be found, and what stands for its kind if it cannot. -/
structure Listed where
  name : Chars
  id : Nat
  node : Option Node
  kind : Char
  /-- Where a link leads, with the node there. -/
  goal : Option (Chars × Option Node)

namespace Listed

/-- The letter for what a node is. -/
def kindLetter (n : Node) : Char :=
  match n.content with
  | .directory .. => 'd'
  | .link _ => 'l'
  | .queue => 'p'
  | .device _ => 'c'
  | _ => '-'

/-- The mark behind a name for what it stands for. -/
def markOf (m : Marking) (n : Node) : Chars :=
  match m, kindLetter n with
  | .none, _ => []
  | _, 'd' => ['/']
  | .directories, _ => []
  | _, 'l' => ['@']
  | _, 'p' => ['|']
  | .all, '-' => if n.isExecutable then ['*'] else []
  | _, _ => []

/-- The color of what a node is. -/
def color (n : Node) : Option String :=
  match kindLetter n with
  | 'd' =>
    let sticky := n.mode / 0o1000 % 2 = 1
    let open' := n.mode / 2 % 2 = 1
    some (if sticky && open' then "30;42" else if open' then "34;42"
      else if sticky then "37;44" else "01;34")
  | 'l' => some "01;36"
  | 'p' => some "40;33"
  | 'c' => some "40;33;01"
  | _ =>
    if n.mode / 0o4000 % 2 = 1 then some "37;41"
    else if n.mode / 0o2000 % 2 = 1 then some "30;43"
    else if n.isExecutable then some "01;32" else none

/-- The name as it is shown, without marks. -/
def shown (s : ListStyle) (e : Listed) : Chars := s.names.write s.hidesControls e.name

/-- The marks behind the name. A long list shows where a link leads, and what is there. -/
def mark (s : ListStyle) (e : Listed) : Chars :=
  match e.node with
  | some n => if s.layout = .long && n.isLink then [] else markOf s.marking n
  | none =>
    if e.kind = 'l' && (s.marking = .kinds || s.marking = .all) then ['@']
    else if e.kind = 'd' && s.marking ≠ .none then ['/'] else []

end Listed

/-! ## Reading directories -/

/-- Whether a name of a directory is listed. -/
def ListStyle.lists (s : ListStyle) (name : Chars) : Bool :=
  let fits (ps : List Shell.Pattern) : Bool := ps.any (·.fits name)
  (s.all || (name.head? ≠ some '.' || (s.almostAll && name ≠ ['.'] && name ≠ ['.', '.']))) &&
    !fits s.passesOver && (s.all || s.almostAll || !fits s.hides)

/-- What a name in a directory stands for. -/
def listedAt (s : ListStyle) (t : Tree) (path name : Chars) (follows : Bool) :
    Except (FileError × Option Nat) Listed := do
  let id ← match if follows then t.locate (toText path) else t.locateEntry (toText path) with
    | .ok id => pure id
    | .error e => throw (e, (t.locateEntry (toText path)).toOption)
  let node := t.node? id
  let goal := node.bind fun n =>
    match n.content with
    | .link goal => some (ofText goal, (t.find (toText path)).toOption)
    | _ => none
  let _ := s
  return ⟨name, id, node, (node.map Listed.kindLetter).getD '?', goal⟩

/-- Whether one name stands before another one. -/
def ListStyle.before (s : ListStyle) (x y : Listed) : Bool :=
  let byName := compareBytes x.name y.name
  let ending (t : Chars) : Chars :=
    let tail := (t.reverse.takeWhile (· != '.')).reverse
    if tail.length = t.length then [] else '.' :: tail
  let of (f : Node → Int) (e : Listed) : Int := (e.node.map f).getD 0
  let order : Ordering := match s.order with
    | .name => byName
    | .none => .eq
    | .size => (compare (of (fun n => (n.size : Int)) y) (of (fun n => (n.size : Int)) x)).then byName
    | .time => (compare (of s.time y) (of s.time x)).then byName
    | .ending => (compareBytes (ending x.name) (ending y.name)).then byName
    | .version => (compareFileVersions x.name y.name).then byName
    | .width => (compare x.name.length y.name.length).then byName
  let order := if s.reversed then order.swap else order
  let isDirectory (e : Listed) : Bool :=
    e.node.any fun n => n.isDirectory || (e.goal.bind (·.2)).any Node.isDirectory
  if s.directoriesFirst && isDirectory x != isDirectory y then isDirectory x
  else order ≠ .gt

def ListStyle.sorted (s : ListStyle) (es : List Listed) : List Listed :=
  match s.order, s.directoriesFirst with
  | .none, false => if s.reversed then es.reverse else es
  | _, _ => es.mergeSort s.before

/-! ## Layouts -/

/-- Blanks from one column to another one, with tabs where they fit. -/
def gap (tab : Nat) : (room from' goal : Nat) → Chars
  | 0, _, _ => []
  | room + 1, from', goal =>
    if goal ≤ from' then []
    else if tab ≠ 0 && (from' + 1) / tab < goal / tab then
      '\t' :: gap tab room (from' + tab - from' % tab) goal
    else ' ' :: gap tab room (from' + 1) goal

/-- The widths of columns into which texts of some widths go, if they fit into a line. -/
def columnWidths? (width : Nat) (down : Bool) (widths : List Nat) (count : Nat) : Option (List Nat) :=
  let rows := (widths.length + count - 1) / max 1 count
  let indexed := widths.mapIdx fun i w =>
    let column := if down then i / max 1 rows else i % max 1 count
    (column, if column + 1 = count then w else w + 2)
  let columns := (List.range count).map fun column =>
    (indexed.filter (·.1 = column)).foldl (fun m (_, w) => max m w) 3
  if columns.foldl (· + ·) 0 < width then some columns else none

/-- The widths of as many columns as fit into a line. -/
def bestColumns (width : Nat) (down : Bool) (widths : List Nat) : (count : Nat) → List Nat
  | 0 => [0]
  | 1 => (columnWidths? width down widths 1).getD [widths.foldl max 3]
  | count + 2 =>
    match columnWidths? width down widths (count + 2) with
    | some columns => columns
    | none => bestColumns width down widths (count + 1)

/-- A line of cells, each with its width. -/
def rowText (tab : Nat) (columns : List Nat) : (position : Nat) → List (Chars × Nat) → Chars
  | _, [] => []
  | _, [(t, _)] => t
  | position, (t, w) :: rest =>
    let next := position + columns.headD 0
    t ++ gap tab (next + 1) (position + w) next ++ rowText tab columns.tail next rest

/-- Cells in columns. -/
def columnsOf (s : ListStyle) (down : Bool) (cells : List (Chars × Nat)) : Chars :=
  let widths := cells.map (·.2)
  let most := min ((s.width + 2) / 3) cells.length
  let columns := bestColumns s.width down widths most
  let count := max 1 columns.length
  let rows := (cells.length + count - 1) / count
  let indexed := cells.zipIdx
  (List.range rows).flatMap fun r =>
    let row := indexed.filter fun (_, i) => if down then i % max 1 rows = r else i / count = r
    rowText s.tab columns 0 (row.map (·.1)) ++ [s.ending]

/-- Cells one behind the other with commas. -/
def commasOf (s : ListStyle) : (position : Nat) → (first : Bool) → List (Chars × Nat) → Chars
  | _, first, [] => if first then [] else [s.ending]
  | position, first, (t, w) :: rest =>
    if first then t ++ commasOf s (position + w) false rest
    else if s.width = 0 || position + w + 2 < s.width then
      ',' :: ' ' :: t ++ commasOf s (position + 2 + w) false rest
    else ',' :: '\n' :: t ++ commasOf s w false rest

/-! ## Lists -/

/-- A name with its color. The answer tells whether a color was needed. -/
def colored (s : ListStyle) (node : Option Node) (t : Chars) (isFirst : Bool) : Chars × Bool :=
  match s.colors, node.bind Listed.color with
  | true, some code =>
    ((if isFirst then "\x1b[0m".toList else []) ++ ("\x1b[" ++ code ++ "m").toList ++ t ++
      "\x1b[0m".toList, true)
  | _, _ => (t, false)

/-- The time of a node as it is listed. -/
def ListStyle.timeText (s : ListStyle) (now : Int) (n : Node) : Chars :=
  let time := s.time n
  let isRecent := now - 15778476 * 1000000000 < time && time ≤ now
  let seconds := time.fdiv 1000000000
  (Moment.ofSeconds seconds (time - seconds * 1000000000).toNat).write
    (if isRecent then s.newTime else s.oldTime)

/-- The text of entries as they are laid out. -/
def ListStyle.text (s : ListStyle) (t : Tree) (now : Int) (started : Bool) (es : List Listed) :
    Chars × Bool :=
  let widest (texts : List Chars) : Nat := texts.foldl (fun m t => max m t.length) 0
  let idText (e : Listed) : Chars := if e.node.isSome then Nat.toDigits 10 (e.id + 1000) else ['?']
  let blockText (e : Listed) : Chars :=
    match e.node with
    | some n => s.blockUnit.write (n.blocks * 512)
    | none => ['?']
  let idWidth := widest (es.map idText)
  let blockWidth := widest (es.map blockText)
  let before (e : Listed) (aligned : Bool) : Chars :=
    (if s.showsId then (idText e).leftpad (if aligned then idWidth else 0) ' ' ++ [' '] else []) ++
      if s.showsBlocks then (blockText e).leftpad (if aligned then blockWidth else 0) ' ' ++ [' ']
      else []
  let paint (started : Bool) : List Listed → List (Chars × Nat) × Bool
    | es => es.foldl (fun (cells, started) e =>
      let aligned := s.layout ≠ .commas
      let plain := e.shown s
      let (name, used) := colored s e.node plain (!started)
      let b := before e aligned
      let width := b.length + plain.length + (e.mark s).length
      (cells ++ [(b ++ name ++ e.mark s, width)], started || used)) ([], started)
  match s.layout with
  | .single =>
    let (cells, started) := paint started es
    (cells.flatMap fun c => c.1 ++ [s.ending], started)
  | .down =>
    let (cells, started) := paint started es
    if s.width = 0 then
      (List.intercalate [' ', ' '] (cells.map (·.1)) ++ if cells.isEmpty then [] else [s.ending],
        started)
    else (columnsOf s true cells, started)
  | .across =>
    let (cells, started) := paint started es
    if s.width = 0 then
      (List.intercalate [' ', ' '] (cells.map (·.1)) ++ if cells.isEmpty then [] else [s.ending],
        started)
    else (columnsOf s false cells, started)
  | .commas =>
    let (cells, started) := paint started es
    (commasOf s 0 true cells, started)
  | .long =>
    let users := accounts t
    let groups := userGroups t
    let named (entries : List (List Chars)) (n : Nat) : Chars :=
      if s.numbers then Nat.toDigits 10 n else nameOrNumber entries n
    let isName (entries : List (List Chars)) (n : Nat) : Bool :=
      !s.numbers && (nameOf? entries n).isSome
    let of (f : Node → Chars) (e : Listed) : Chars := (e.node.map f).getD ['?']
    let links (e : Listed) : Chars :=
      if e.node.isSome then Nat.toDigits 10 (t.linkCount e.id) else ['?']
    let sizes := es.map (of fun n => match n.content with
      | .device _ => []
      | _ => s.sizeUnit.write n.size)
    let devices := es.filterMap fun e => e.node.bind fun n =>
      match n.content with
      | .device d => some d.numbers
      | _ => none
    let firstWidth := widest (devices.map fun d => Nat.toDigits 10 d.1)
    let secondWidth := widest (devices.map fun d => Nat.toDigits 10 d.2)
    let sizeWidth := max (widest sizes)
      (if devices.isEmpty then 0 else firstWidth + 2 + secondWidth)
    let linkWidth := widest (es.map links)
    let column (entries : List (List Chars)) (f : Node → Nat) : Listed → Chars :=
      let width := widest (es.map (of fun n => named entries (f n)))
      fun e =>
        let t := of (fun n => named entries (f n)) e
        (if e.node.any fun n => isName entries (f n) then t.rightpad width ' '
          else t.leftpad width ' ') ++ [' ']
    let userColumn := column users (·.owner)
    let groupColumn := column groups (·.group)
    let timeWidth := widest (es.map (of (s.timeText now)))
    let row (started : Bool) (e : Listed) : Chars × Bool :=
      let size := match e.node.map (·.content) with
        | some (.device d) =>
          ((Nat.toDigits 10 d.numbers.1).leftpad (sizeWidth - 2 - secondWidth) ' ') ++ ", ".toList ++
            (Nat.toDigits 10 d.numbers.2).leftpad secondWidth ' '
        | _ => (of (fun n => s.sizeUnit.write n.size) e).leftpad sizeWidth ' '
      let modes : Chars := match e.node with
        | some n => e.kind :: modeLetters n.mode
        | none => e.kind :: List.replicate 9 '?'
      let (name, used) := colored s e.node (e.shown s) (!started)
      let goal : Chars := match e.goal with
        | some (path, node) =>
          let shown := s.names.write s.hidesControls path
          let painted := (colored s node shown false).1
          " -> ".toList ++ painted ++ (node.map (Listed.markOf s.marking)).getD []
        | none => []
      (before e true ++ modes ++ [' '] ++ (links e).leftpad linkWidth ' ' ++ [' '] ++
        (if s.showsOwner then userColumn e else []) ++
        (if s.showsGroup then groupColumn e else []) ++
        (if s.showsAuthor then userColumn e else []) ++ size ++ [' '] ++
        (of (s.timeText now) e).leftpad timeWidth ' ' ++ [' '] ++ name ++ e.mark s ++ goal ++ [s.ending],
        started || used)
    es.foldl (fun (text, started) e =>
      let (line, started) := row started e
      (text ++ line, started)) ([], started)

/-! ## The programs -/

/-- What is still to be listed: directories with their paths. -/
def listDirectories (c : Caller) (s : ListStyle) (headed : Bool) :
    (room : Nat) → (first started : Bool) → (status : Nat) → List (Chars × Nat) → Run Nat
  | 0, _, _, status, _ => return status
  | _, _, _, status, [] => return status
  | room + 1, first, started, status, (path, id) :: rest => do
    let t ← Run.tree
    let now ← Run.now
    let dots : List String := if s.all then [".", ".."] else []
    let names := (dots ++ (t.entries id).map (·.1)).filter fun n => s.lists (ofText n)
    let needsNode := s.layout = .long || s.showsBlocks || s.showsId || s.order = .time ||
      s.order = .size || s.marking ≠ .none || s.colors || s.deep
    let mut status := status
    let mut found : List Listed := []
    for name in names do
      let whole := if path = ['.'] then ofText name else pathIn path name
      match listedAt s t whole (ofText name) (s.following && needsNode) with
      | .ok e => found := e :: found
      | .error (e, other) =>
        let _ ← complain c.name ("cannot access " ++ quoted whole ++ ": " ++ e.reason)
        status := max status 1
        let letter := ((other.bind t.node?).map Listed.kindLetter).getD '?'
        found := ⟨ofText name, 0, none, letter, none⟩ :: found
    let es := s.sorted found.reverse
    let blocks := es.foldl (fun n e => n + ((e.node.map Node.blocks).getD 0)) 0
    let shownPath := s.names.write s.hidesControls path
    let heading := if headed || s.deep then
        (if first then [] else ['\n']) ++ shownPath ++ [':', '\n'] else []
    let total := if s.layout = .long || s.showsBlocks then
        "total ".toList ++ s.blockUnit.write (blocks * 512) ++ [s.ending] else []
    let (text, started) := s.text t now started es
    let failed ← out c.name (heading ++ total ++ text)
    if failed ≠ 0 then return 2
    let below := if s.deep then es.filterMap fun e =>
        if e.name ≠ ['.'] && e.name ≠ ['.', '.'] && e.node.any Node.isDirectory then
          some (pathIn path (toText e.name), e.id)
        else none
      else []
    listDirectories c s headed room false started status (below ++ rest)

/-- What operands stand for: files, and directories whose content is listed. -/
def listOperands (c : Caller) (s : ListStyle) (operands : List Chars) : Run Nat := do
  let t ← Run.tree
  let now ← Run.now
  let mut status := 0
  let mut files : List Listed := []
  let mut directories : List Listed := []
  for path in operands do
    let itself := s.itself || s.marking = .all || s.layout = .long
    let isLink := (t.findEntry (toText path)).toOption.any Node.isLink
    let follows := s.following || s.followingOperands ||
      (!itself && isLink && t.isDirectory (toText path))
    match listedAt s t path path follows with
    | .ok e =>
      if e.node.any Node.isDirectory && !s.itself then directories := e :: directories
      else files := e :: files
    | .error (e, _) =>
      let _ ← complain c.name ("cannot access " ++ quoted path ++ ": " ++ e.reason)
      status := 2
  let (text, started) := s.text t now false (s.sorted files.reverse)
  let failed ← out c.name text
  if failed ≠ 0 then return 2
  let headed := 1 < operands.length
  if !files.isEmpty && !directories.isEmpty then
    let _ ← out c.name ['\n']
  listDirectories c s headed maxDepth true started status
    ((s.sorted directories.reverse).map fun e => (e.name, e.id))

/-- The words for when something is done, where output never goes to a terminal. -/
def whens : List (List String × Bool) :=
  [(["always", "yes", "force"], true), (["never", "no", "none"], false),
   (["auto", "tty", "if-tty"], false)]

/-- Lists directories, in a layout of its own if no option asks for another one. -/
def listing (layout : Layout) (names : NameStyle) : Program := fun c args =>
  withArguments c.name (.ofString "abcdfghiklmnopqrstuvw:xABCDFGHI:LNQRST:UXZ1"
    ["all|a", "escape|b", "directory|d", "dired|D", "full-time", "group-directories-first",
     "human-readable|h", "inode|i", "kibibytes|k", "numeric-uid-gid|n", "no-group|G",
     "hide-control-chars|q", "reverse|r", "size|s", "width=|w", "almost-all|A", "ignore-backups|B",
     "classify?", "file-type", "si", "dereference-command-line|H",
     "dereference-command-line-symlink-to-dir", "hide=", "ignore=|I", "indicator-style=",
     "dereference|L", "literal|N", "quote-name|Q", "quoting-style=", "recursive|R", "format=",
     "show-control-chars", "sort=", "tabsize=|T", "time=", "time-style=", "zero", "color?",
     "hyperlink?", "block-size=", "context|Z", "author"]) 2 false args fun a => do
    let formats : List (List String × Layout) :=
      [(["verbose", "long"], .long), (["commas"], .commas), (["horizontal", "across"], .across),
       (["vertical"], .down), (["single-column"], .single)]
    let sorts : List (List String × ListOrder) :=
      [(["none"], .none), (["time"], .time), (["size"], .size), (["extension"], .ending),
       (["version"], .version), (["width"], .width)]
    let times : List (List String × (Node → Int)) :=
      [(["atime", "access", "use"], (·.accessed)), (["ctime", "status"], (·.changed)),
       (["birth", "creation"], (·.changed))]
    let styles : List (List String × Marking) :=
      [(["none"], .none), (["slash"], .directories), (["file-type"], .kinds), (["classify"], .all)]
    let chosen? {α : Type} (choices : List (List String × α)) (t : Chars) : Option α :=
      (choose "" choices t).toOption
    let layout := a.options.foldl (fun (l : Layout) (key, value) =>
      match key with
      | "l" | "g" | "o" | "n" | "full-time" => .long
      | "1" => if l = .long then l else .single
      | "C" => .down
      | "x" => .across
      | "m" => .commas
      | "f" => if l = .long then .single else l
      | "zero" => if l = .long then l else .single
      | "format" => (chosen? formats value).getD l
      | _ => l) layout
    let refused {α : Type} (r : Except String α) : Option (Run Nat) :=
      match r with
      | .ok _ => none
      | .error message => some (misuse c.name message)
    let wrong : Option (Run Nat) :=
      a.options.findSome? fun (key, value) =>
        match key with
        | "format" => refused (choose "--format" formats value)
        | "sort" => refused (choose "--sort" sorts value)
        | "time" => refused (choose "--time" times value)
        | "indicator-style" => refused (choose "--indicator-style" styles value)
        | "quoting-style" => refused (choose "--quoting-style" NameStyle.choices value)
        | "color" | "hyperlink" | "classify" =>
          if value.isEmpty then none else refused (choose ("--" ++ key) whens value)
        | "w" =>
          if (readSize? value).isSome then none
          else some do
            let _ ← complain c.name ("invalid line width: " ++ cited value)
            return 2
        | "T" =>
          if (readSize? value).isSome then none
          else some do
            let _ ← complain c.name ("invalid tab size: " ++ cited value)
            return 2
        | "block-size" =>
          if (SizeUnit.ofChars? value).isSome then none
          else some do
            let _ ← complain c.name ("invalid --block-size argument '" ++ toText value ++ "'")
            return 2
        | _ => none
    match wrong with
    | some act => act
    | none =>
      let last (keys : List (String × Option ListOrder)) : Option ListOrder :=
        a.options.reverse.findSome? fun (key, value) =>
          if key = "sort" then chosen? sorts value else (keys.lookup key).bind fun o => o
      let order? := last [("t", some .time), ("S", some .size), ("X", some .ending),
        ("U", some .none), ("f", some .none), ("v", some .version)]
      let timeKey := a.lastOf? ["c", "u", "time"]
      let time : Node → Int := match timeKey with
        | some "c" => (·.changed)
        | some "u" => (·.accessed)
        | some _ => ((a.value? "time").bind (chosen? times)).getD (·.modified)
        | none => (·.modified)
      let order := order?.getD (if layout ≠ .long && timeKey.isSome then .time else .name)
      let names := a.options.foldl (fun (s : NameStyle) (key, value) =>
        match key with
        | "b" => .escape
        | "Q" => .c true
        | "N" | "zero" => .literal
        | "quoting-style" => (chosen? NameStyle.choices value).getD s
        | _ => s) names
      let marking := a.options.foldl (fun (m : Marking) (key, value) =>
        match key with
        | "F" => .all
        | "classify" => if value.isEmpty || chosen? whens value = some true then .all else m
        | "p" => .directories
        | "file-type" => .kinds
        | "indicator-style" => (chosen? styles value).getD m
        | _ => m) .none
      let unit := a.options.foldl (fun (u : Option SizeUnit) (key, value) =>
        match key with
        | "h" => some (.fitting 1024)
        | "si" => some (.fitting 1000)
        | "block-size" => SizeUnit.ofChars? value
        | _ => u) none
      let iso := (a.value? "time-style").map toText
      let iso := if a.has "full-time" && iso.isNone then some "full-iso" else iso
      let (oldTime, newTime) := match iso with
        | some "full-iso" | some "posix-full-iso" =>
          ("%Y-%m-%d %H:%M:%S.%N %z".toList, "%Y-%m-%d %H:%M:%S.%N %z".toList)
        | some "long-iso" | some "posix-long-iso" => ("%Y-%m-%d %H:%M".toList, "%Y-%m-%d %H:%M".toList)
        | some "iso" | some "posix-iso" => ("%Y-%m-%d ".toList, "%m-%d %H:%M".toList)
        | some w =>
          match w.toList with
          | '+' :: f =>
            match f.splitOn '\n' with
            | [x, y] => (ofText (String.ofList x), ofText (String.ofList y))
            | _ => (ofText (String.ofList f), ofText (String.ofList f))
          | _ => ("%b %e  %Y".toList, "%b %e %H:%M".toList)
        | none => ("%b %e  %Y".toList, "%b %e %H:%M".toList)
      let pattern (t : Chars) : Shell.Pattern := .ofMarked false (t.map (·, false))
      let backups := if a.has "B" then ["*~", ".*~"].map fun p => pattern p.toList else []
      let passesOver := (a.values "I").map pattern ++ backups
      let columns := ((← Run.textOf? "COLUMNS").bind readSize?).getD 80
      let width := match a.value? "w" with
        | some t => (readSize? t).getD 80
        | none => columns
      let afterF := a.has "f" && layout ≠ .long
      let isSet (name : String) : Run Bool := return ((← Run.textOf? name).getD []) ≠ []
      let terminal := toText ((← Run.textOf? "TERM").getD [])
      let isKnown := ["ansi", "color", "con", "cygwin", "dtterm", "gnome", "hurd", "jfbterm",
        "konsole", "kterm", "linux", "mlterm", "putty", "rxvt", "screen", "st", "terminator", "tmux",
        "vt100", "vt220", "xterm"].any (terminal.startsWith ·)
      let knowsColors := isKnown || (← isSet "COLORTERM") || (← isSet "LS_COLORS")
      let s : ListStyle := {
        layout, order, reversed := a.has "r"
        directoriesFirst := a.has "group-directories-first", time, names
        hidesControls := a.lastOf? ["q", "show-control-chars"] = some "q", marking
        colors := !afterF && knowsColors && a.has "color" && (match a.value? "color" with
          | some [] => true
          | some w => chosen? whens w = some true
          | none => false)
        all := a.lastOf? ["a", "A", "f"] = some "a" || a.lastOf? ["a", "A", "f"] = some "f"
        almostAll := a.has "A", passesOver, hides := (a.values "hide").map pattern
        itself := a.has "d", deep := a.has "R" && !a.has "d", following := a.has "L"
        followingOperands := a.has "H", numbers := a.has "n", showsId := a.has "i"
        showsBlocks := a.has "s" && !afterF
        showsOwner := !a.has "g", showsGroup := !(a.has "G" || a.has "o")
        showsAuthor := a.has "author", blockUnit := unit.getD (.fixed 1024 [])
        sizeUnit := unit.getD (.fixed 1 []), oldTime, newTime
        width, tab := ((a.value? "T").bind readSize?).getD (if a.has "zero" then 0 else 8)
        ending := if a.has "zero" then '\x00' else '\n' }
      listOperands c s (if a.operands.isEmpty then [['.']] else a.operands)

def ls : Program := listing .single .literal

def dir : Program := listing .down .escape

def vdir : Program := listing .long .escape

end Provision.Program
