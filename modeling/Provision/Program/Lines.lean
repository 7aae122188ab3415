import Provision.Program.Input
import Provision.Regular.Reader

/-!
Programs that show texts line by line: as they are, with numbers, from one end, or turned round.
-/

namespace Provision.Program

open Bytes (toText ofText)
open Files (FileError)
open Shell (Run)

/-! ## Copying -/

/-- A character in a form that can be seen. -/
def visible (c : Char) : Chars :=
  let plain (n : Nat) : Chars :=
    if n < 32 then ['^', Char.ofNat (n + 64)] else if n = 127 then ['^', '?'] else [Char.ofNat n]
  if c.toNat < 128 then plain c.toNat else 'M' :: '-' :: plain (c.toNat - 128)

/-- What is known while texts are copied: the number of the last line, whether a line begins, and
whether the line before was empty. -/
structure Copying where
  number : Nat
  atStart : Bool
  afterEmpty : Bool

/-- A line as it is copied. -/
def copiedLine (a : Arguments) (s : Copying) (line : Chars) (ended : Bool) : Copying × Chars × Bool :=
  let isEmpty := s.atStart && line.isEmpty && ended
  if isEmpty && s.afterEmpty && a.has "s" then (s, [], true)
  else
    let all := a.has "A"
    let numbered := s.atStart && (if a.has "b" then !isEmpty else a.has "n")
    let number := if numbered then s.number + 1 else s.number
    let start := if numbered then (Nat.toDigits 10 number).leftpad 6 ' ' ++ ['\t'] else []
    let shows := a.has "v" || all || a.has "e" || a.has "t"
    let tabs := a.has "T" || all || a.has "t"
    let ends := a.has "E" || all || a.has "e"
    let line' := line.flatMap fun c =>
      if c = '\t' then if tabs then ['^', 'I'] else [c] else if shows then visible c else [c]
    let line' := if ends && !shows && ended && line.getLast? = some '\r' then
        line'.dropLast ++ ['^', 'M'] else line'
    let mark := if ended then (if ends then ['$', '\n'] else ['\n']) else []
    (⟨number, ended, isEmpty⟩, start ++ line' ++ mark, true)

/-- Copies all that can be read. -/
def copyAll (name : String) (descriptor : Nat) : Nat → Run (Except (Option FileError) Unit)
  | 0 => return .ok ()
  | room + 1 => do
    match ← Run.readSome descriptor 65536 with
    | .error e => return .error (some e)
    | .ok [] => return .ok ()
    | .ok text =>
      match ← Run.write 1 text with
      | .ok () => copyAll name descriptor room
      | .error e =>
        let _ ← complain name ("write error: " ++ e.reason)
        return .error none

/-- Whether a descriptor leads to the file to which the output goes, behind what is in it. -/
def isOutput (descriptor : Nat) : Run Bool :=
  Run.observe fun s y =>
    match y.stream? s.process descriptor, y.stream? s.process 1 with
    | some a, some b =>
      match a.target with
      | .node id =>
        decide (a.target = b.target) && ((y.tree.node? id).any fun n =>
          n.isFile && a.offset < n.size)
      | .pipe .. => false
    | _, _ => false

def cat : Program := fun c args =>
  withArguments c.name (.ofString "AbeEnstTuv"
    ["number-nonblank|b", "number|n", "squeeze-blank|s", "show-nonprinting|v", "show-ends|E",
     "show-tabs|T", "show-all|A"]) 1 false args fun a => do
    let isPlain := a.options.all (·.1 = "u")
    let mut status := 0
    let mut state : Copying := ⟨0, true, false⟩
    for path in orInput a.operands do
      let before := state
      let act (d : Nat) : Run (Except (Option FileError) Copying) := do
        if ← isOutput d then
          let _ ← complain c.name (shownPath path ++ ": input file is output file")
          return .error none
        if isPlain then
          match ← copyAll c.name d maxLines with
          | .ok () => return .ok before
          | .error e => return .error e
        else
          match ← eachLine d '\n' (copiedLine a) maxLines [] 0 before with
          | .ok s => return .ok s
          | .error e => return .error (some e)
      match ← withOperand path act with
      | .ok (.ok s) => state := s
      | .ok (.error none) => status := 1
      | .ok (.error (some e)) | .error e => status ← complainOf c.name path e
    return status

/-- The separators in a text, each by its place and its length, the last one first. They are looked
for from the end on, and do not overlap. -/
def separatorsIn (matchAt : Nat → (stop : Nat) → Option Nat) : (room start stop : Nat) →
    List (Nat × Nat)
  | 0, _, _ => []
  | room + 1, start, stop =>
    match matchAt start stop with
    | some length =>
      (start, length) :: match start with
        | 0 => []
        | before + 1 => separatorsIn matchAt room before start
    | none =>
      match start with
      | 0 => []
      | before + 1 => separatorsIn matchAt room before stop

/-- A text with its parts turned round, where separators begin or end parts. -/
def turnedRound (before : Bool) (separators : List (Nat × Nat)) (t : Chars) : Chars :=
  let cuts := separators.map fun (i, n) => if before then i else i + n
  let cuts := if !before && cuts.head? = some t.length then cuts.drop 1 else cuts
  let (parts, rest) := cuts.foldl (fun (s : List Chars × Chars) i =>
    (s.2.drop i :: s.1, s.2.take i)) ([], t)
  (rest :: parts).reverse.flatten

def tac : Program := fun c args =>
  withArguments c.name (.ofString "brs:" ["before|b", "regex|r", "separator=|s"]) 1 false args
    fun a => do
    let refuse (path : Chars) (e : FileError) : Run Nat :=
      if e = .isADirectory then complain c.name (shownPath path ++ ": read error: Invalid argument")
      else complain c.name ("failed to open " ++ quoted path ++ " for reading: " ++ e.reason)
    let separator := (a.value? "s").getD ['\n']
    let regular ← if a.has "r" then
        if separator.isEmpty then return ← complain c.name "separator cannot be empty"
        else match Regular.ofSwapped separator with
          | .ok r => pure (some r)
          | .error e => return ← complain c.name e.message
      else pure none
    let separator := if separator.isEmpty then ['\x00'] else separator
    let mut status := 0
    for path in orInput a.operands do
      match ← readOperand path with
      | .error e => status ← refuse path e
      | .ok text =>
        let found := match regular, separator with
          | none, [ch] => (((text.zipIdx).filter (·.1 = ch)).map fun p => (p.2, 1)).reverse
          | none, separator =>
            let all := text.toArray
            separatorsIn (fun start stop =>
              if start + separator.length ≤ stop &&
                  (all.extract start (start + separator.length)).toList = separator then
                some separator.length
              else none) (2 * text.length + 2) text.length text.length
          | some r, _ =>
            separatorsIn (fun start stop =>
              ((r.matchAt? (.ofChars false (text.take stop)) start).map fun m => m.stop - start))
              (2 * text.length + 2) (text.length - 1) text.length
        let _ ← out c.name (turnedRound (a.has "b") found text)
    return status

def rev : Program := fun c args =>
  withArguments c.name (.ofString "" []) 1 false args fun a => do
    let refuse (path : Chars) (e : FileError) : Run Nat :=
      complain c.name ("cannot open " ++ toText path ++ ": " ++ e.reason)
    let (_, good) ← throughLines refuse '\n' (fun () l ended =>
      ((), withMark l.reverse ended '\n', true)) (orInput a.operands) () true
    return if good then 0 else 1

/-! ## Ends of texts -/

/-- The name of an operand above what is shown of it. -/
def heading (isFirst : Bool) (path : Chars) : Chars :=
  (if isFirst then [] else ['\n']) ++ "==> ".toList ++
    (if path = ['-'] then "standard input".toList else path) ++ " <==\n".toList

/-- An argument that is a number behind a sign, in the long way. -/
def expandCount (signs : List Char) (args : List Chars) : List Chars :=
  match args with
  | (sign :: d :: rest) :: more =>
    if !signs.contains sign || !d.isDigit then args
    else
      let number := (d :: rest).takeWhile Char.isDigit
      let letters := (d :: rest).drop number.length
      let number := if sign = '+' then '+' :: number else number
      let unit := if letters.contains 'c' then "-c".toList else "-n".toList
      let others := letters.filter "qvz".toList.contains
      unit :: number :: (if others.isEmpty then [] else ['-' :: others]) ++ more
  | _ => args

/-- The start of a text up to the end of its last wanted line, and how many lines are still wanted
behind it. -/
def upToLine (mark : Char) : Chars → Nat → Chars × Nat
  | [], wanted => ([], wanted)
  | _, 0 => ([], 0)
  | c :: cs, wanted + 1 =>
    let (t, left) := upToLine mark cs (if c = mark then wanted else wanted + 1)
    (c :: t, left)

/-- So many bytes are read at a time. -/
def chunkSize : Nat := 8192

/-- Takes so many lines. What was read beyond them is put back if that is possible. -/
def takeLines (descriptor : Nat) (mark : Char) : Nat → Nat → Run (Except FileError Unit)
  | 0, _ | _, 0 => return .ok ()
  | room + 1, wanted + 1 => do
    match ← Run.readSome descriptor chunkSize with
    | .error e => return .error e
    | .ok [] => return .ok ()
    | .ok text =>
      let (shown, left) := upToLine mark text (wanted + 1)
      if left = 0 then Run.putBack descriptor (text.length - shown.length)
      match ← Run.write 1 shown with
      | .error _ => return .ok ()
      | .ok () => takeLines descriptor mark room left

/-- Takes so many bytes. -/
def takeBytes (descriptor : Nat) : Nat → Nat → Run (Except FileError Unit)
  | 0, _ => return .ok ()
  | room + 1, n => do
    if n = 0 then return .ok ()
    match ← Run.readSome descriptor n with
    | .error e => return .error e
    | .ok [] => return .ok ()
    | .ok text =>
      let _ ← Run.write 1 text
      takeBytes descriptor room (n - text.length)

/-- The lines and bytes that options ask for: the sign of the number, and the number. -/
def countOf (name : String) (a : Arguments) : Run (Except Nat (Bool × Option Char × Nat)) := do
  let key := (a.lastOf? ["c", "n"]).getD "n"
  let bytes := key = "c"
  let written := (a.value? key).getD "10".toList
  let (sign, number) := match written with
    | '+' :: rest => (some '+', rest)
    | '-' :: rest => (some '-', rest)
    | t => (none, t)
  match readSize? number with
  | some n => return .ok (bytes, sign, n)
  | none =>
    return .error (← complain name ("invalid number of " ++ (if bytes then "bytes" else "lines") ++
      ": " ++ cited (if sign = some '-' then number else written)))

def endSpec : Spec :=
  .ofString "c:n:qvzfF" ["bytes=|c", "lines=|n", "quiet|q", "silent|q", "verbose|v",
    "zero-terminated|z", "follow?|f"]

/-- Whether the names of operands are shown. -/
def showsNames (a : Arguments) : Bool :=
  match a.lastOf? ["q", "v"] with
  | some "q" => false
  | some _ => true
  | none => 1 < a.operands.length

/-- What is said of an operand that cannot be read. -/
def refuseEnd (name : String) (path : Chars) (e : FileError) : Run Nat :=
  if e = .isADirectory then complain name ("error reading " ++ quoted path ++ ": " ++ e.reason)
  else complain name ("cannot open " ++ quoted path ++ " for reading: " ++ e.reason)

def head : Program := fun c args =>
  withArguments c.name endSpec 1 false (expandCount ['-'] args) fun a => do
    match ← countOf c.name a with
    | .error status => return status
    | .ok (bytes, sign, n) =>
      let mark := if a.has "z" then '\x00' else '\n'
      let shows := showsNames a
      let mut status := 0
      let mut isFirst := true
      for path in orInput a.operands do
        let first := isFirst
        let result ← withOperand path fun d => do
          if shows then Run.print (heading first path)
          if sign = some '-' then
            match ← Run.readAll d with
            | .error e => return .error e
            | .ok text =>
              let _ ← if bytes then Run.write 1 (text.take (text.length - n))
                else
                  let ls := linesWith mark text
                  Run.write 1 ((ls.take (ls.length - n)).flatMap fun (l, e) => withMark l e mark)
              return .ok ()
          else if bytes then takeBytes d n n
          else takeLines d mark maxLines n
        match result with
        | .ok (.ok ()) => isFirst := false
        | .ok (.error e) =>
          isFirst := false
          status ← refuseEnd c.name path e
        | .error e => status ← refuseEnd c.name path e
      return status

def tail : Program := fun c args =>
  withArguments c.name endSpec 1 false (expandCount ['-', '+'] args) fun a => do
    match ← countOf c.name a with
    | .error status => return status
    | .ok (bytes, sign, n) =>
      let mark := if a.has "z" then '\x00' else '\n'
      let shows := showsNames a
      let mut status := 0
      let mut isFirst := true
      for path in orInput a.operands do
        match ← withOperand path (fun d => do return (← Run.readAll d)) with
        | .error e => status ← refuseEnd c.name path e
        | .ok result =>
          if shows then Run.print (heading isFirst path)
          isFirst := false
          match result with
          | .error e => status ← refuseEnd c.name path e
          | .ok text =>
            let part {α : Type} (xs : List α) : List α :=
              if sign = some '+' then xs.drop (n - 1) else xs.drop (xs.length - n)
            let shown := if bytes then part text
              else (part (linesWith mark text)).flatMap fun (l, e) => withMark l e mark
            let _ ← out c.name shown
      return status

/-! ## Counting -/

/-- What a text has of all that can be counted. -/
structure Tally where
  lines : Nat
  words : Nat
  bytes : Nat
  widest : Nat

def isWordSpace (c : Char) : Bool := c == ' ' || ('\t' ≤ c && c ≤ '\r')

/-- Counts a text. -/
def Tally.ofChars (t : Chars) : Tally :=
  let step (s : Nat × Bool × Nat × Nat × Nat) (c : Char) : Nat × Bool × Nat × Nat × Nat :=
    let (lines, inWord, words, place, widest) := s
    match c with
    | '\n' => (lines + 1, false, words, 0, max widest place)
    | '\r' | '\x0c' => (lines, false, words, 0, max widest place)
    | '\t' => (lines, false, words, (place / 8 + 1) * 8, widest)
    | '\x0b' => (lines, false, words, place, widest)
    | ' ' => (lines, false, words, place + 1, widest)
    | c =>
      if ' ' < c && c ≤ '~' then
        (lines, true, if inWord then words else words + 1, place + 1, widest)
      else (lines, inWord, words, place, widest)
  let (lines, _, words, place, widest) := t.foldl step (0, false, 0, 0, 0)
  ⟨lines, words, t.length, max widest place⟩

def Tally.add (a b : Tally) : Tally :=
  ⟨a.lines + b.lines, a.words + b.words, a.bytes + b.bytes, max a.widest b.widest⟩

/-- The size of the file behind an operand, if there is one. -/
def operandSize? (path : Chars) : Run (Option (Bool × Nat)) := do
  if path = ['-'] then
    Run.observe fun s y => (y.stream? s.process 0).map fun st =>
      match st.target with
      | .node id => match y.tree.node? id with
        | some n => (n.isFile, n.size)
        | none => (false, 0)
      | .pipe .. => (false, 0)
  else
    return ((← Run.tree).find (toText path)).toOption.map fun n => (n.isFile, n.size)

def wc : Program := fun c args =>
  withArguments c.name (.ofString "clmLw"
    ["bytes|c", "chars|m", "lines|l", "words|w", "max-line-length|L", "files0-from="]) 1 false args
    fun a => do
    let wanted := ["l", "w", "m", "c", "L"].filter a.has
    let wanted := if wanted.isEmpty then ["l", "w", "c"] else wanted
    let refuse (path : Chars) (e : FileError) : Run Nat :=
      if e = .isADirectory then complain c.name (shownPath path ++ ": read error: " ++ e.reason)
      else complain c.name ("cannot open " ++ quoted path ++ " for reading: " ++ e.reason)
    let listed ← match ← namesFrom? c.name 1 refuse a with
      | .error status => return status
      | .ok listed => pure listed
    let operands := listed.getD (orInput a.operands)
    let source := (a.value? "files0-from").getD []
    let sizes ← operands.mapM operandSize?
    let width : Nat :=
      if operands.length = 1 && wanted.length = 1 then 1
      else
        let found := sizes.filterMap id
        let total := ((found.filter (·.1)).map (·.2)).foldl (· + ·) 0
        max (Nat.toDigits 10 total).length (if found.any (!·.1) then 7 else 1)
    let line (t : Tally) (path : Option Chars) : Chars :=
      let numbers := wanted.map fun k =>
        let n := match k with
          | "l" => t.lines
          | "w" => t.words
          | "L" => t.widest
          | _ => t.bytes
        (Nat.toDigits 10 n).leftpad width ' '
      List.intercalate [' '] numbers ++ (match path with
        | some p => ' ' :: if p.contains '\n' then ofText (shownPath p) else p
        | none => []) ++ ['\n']
    let mut status := 0
    let mut total : Tally := ⟨0, 0, 0, 0⟩
    for (path, i) in operands.zipIdx do
      if path.isEmpty then
        let place := if listed.isSome then shownPath source ++ ":" ++ toString (i + 1) ++ ": " else ""
        status ← complain c.name (place ++ "invalid zero-length file name")
        continue
      if source = ['-'] && path = ['-'] then
        status ← complain c.name "when reading file names from stdin, no file name of '-' allowed"
        continue
      match ← withOperand path Run.readAll with
      | .error e => status ← complainOf c.name path e
      | .ok result =>
        let text := result.toOption.getD []
        match result with
        | .error e => status ← complainOf c.name path e
        | .ok _ => pure ()
        let t := Tally.ofChars text
        total := total.add t
        let isNamed := listed.isSome || !a.operands.isEmpty
        let _ ← out c.name (line t (if isNamed then some path else none))
    if 1 < operands.length then
      let _ ← out c.name (line total (some "total".toList))
    return status

/-! ## Widths -/

/-- The column behind a character. -/
def columnAfter (bytes : Bool) (column : Nat) (c : Char) : Nat :=
  if bytes then column + 1
  else match c with
    | '\x08' => column - 1
    | '\r' => 0
    | '\t' => (column / 8 + 1) * 8
    | _ => column + 1

/-- Breaks a line so that no part is wider than it may be. -/
def folded (width : Nat) (bytes atBlanks : Bool) :
    Nat → (held : Chars) → (column : Nat) → Chars → List Chars
  | 0, held, _, rest => [held.reverse ++ rest]
  | _ + 1, held, _, [] => [held.reverse]
  | room + 1, held, column, c :: cs =>
    let next := columnAfter bytes column c
    if width < next && !held.isEmpty then
      if atBlanks then
        let isBlank (c : Char) : Bool := c == ' ' || c == '\t'
        let tail := held.takeWhile (!isBlank ·)
        if tail.length = held.length then
          held.reverse :: folded width bytes atBlanks room [] 0 (c :: cs)
        else
          (held.drop tail.length).reverse ::
            folded width bytes atBlanks room tail (tail.reverse.foldl (columnAfter bytes) 0) (c :: cs)
      else held.reverse :: folded width bytes atBlanks room [] 0 (c :: cs)
    else folded width bytes atBlanks room (c :: held) next cs

def fold : Program := fun c args =>
  let args := args.map fun a => match a with
    | '-' :: d :: rest => if d.isDigit then '-' :: 'w' :: d :: rest else a
    | _ => a
  withArguments c.name (.ofString "bsw:" ["bytes|b", "spaces|s", "width=|w"]) 1 false args
    fun a => do
    match (a.value? "w").map (Text.readNat? 10) with
    | some none | some (some 0) =>
      let isZero := (a.value? "w").any (·.all (· == '0'))
      complain c.name ("invalid number of columns: " ++ cited ((a.value? "w").getD []) ++
        if isZero then ": Numerical result out of range" else "")
    | w =>
      let width := (w.bind id).getD 80
      let (_, good) ← throughLines (complainOf c.name) '\n' (fun () l ended =>
        ((), List.intercalate ['\n'] (folded width (a.has "b") (a.has "s") (2 * l.length + 1) [] 0 l) ++
          if ended then ['\n'] else [], true)) (orInput a.operands) () true
      return if good then 0 else 1

end Provision.Program
