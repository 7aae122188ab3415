import Provision.Program.Order

/-!
Programs that put lines and words into an order.
-/

namespace Provision.Program

open Bytes (toText ofText)
open Files (FileError)
open Shell (Run)

namespace Sorting

/-- What lines are sorted by, and what is done with them. -/
structure Style where
  keys : List SortKey := []
  manner : Manner := {}
  separator : Option Char := none
  check : Option Char := none
  output : Option Chars := none

/-- A line with the texts of its keys. -/
structure Line where
  text : Chars
  parts : List Chars

def Style.line (s : Style) (t : Chars) : Line := ⟨t, s.keys.map fun k => k.of s.separator t⟩

/-- Compares lines by their keys. -/
def Style.compareKeys (s : Style) (a b : Line) : Ordering :=
  (s.keys.zip (a.parts.zip b.parts)).foldl (fun o (k, x, y) => o.then (k.manner.compare x y)) .eq

/-- Compares lines by their keys, and if these are equal by all of their text unless equal lines are
to stay as they are. -/
def Style.compare (s : Style) (isStable : Bool) (a b : Line) : Ordering :=
  match s.compareKeys a b with
  | .eq =>
    if isStable && !s.keys.isEmpty then .eq
    else if s.manner.has 'r' then compareBytes b.text a.text
    else compareBytes a.text b.text
  | o => o

/-- A size of memory, which has no other use than to be right. -/
def checkSize (t : Chars) (option : String) : Except String Unit :=
  match leadingCount? t with
  | none => .error ("invalid " ++ option ++ " argument '" ++ toText t ++ "'")
  | some (n, rest) =>
    let limit := Nat.pow 2 64
    let known := ["", "b", "%"] ++ "EGgKkMmPTtYZ".toList.map String.singleton
    if !(known.contains (toText rest)) then
      .error ("invalid suffix in " ++ option ++ " argument '" ++ toText t ++ "'")
    else if limit ≤ n || ["Y", "Z"].contains (toText rest) && 0 < n then
      .error (option ++ " argument '" ++ toText t ++ "' too large")
    else .ok ()

/-- Takes an option into a style. -/
def Style.take (s : Style) (option : String × Chars) : Except String Style :=
  let (key, value) := option
  match key with
  | "k" => (SortKey.read value).map fun k => { s with keys := s.keys ++ [k] }
  | "c" | "C" =>
    if s.check.any fun c => String.singleton c ≠ key then .error "options '-cC' are incompatible"
    else .ok { s with check := key.toList.head? }
  | "o" =>
    if s.output.any (· ≠ value) then .error "multiple output files specified"
    else .ok { s with output := some value }
  | "S" => (checkSize value "-S").map fun _ => s
  | "buffer-size" => (checkSize value "--buffer-size").map fun _ => s
  | "parallel" =>
    match leadingCount? value with
    | some (n, []) => if n = 0 then .error "number in parallel must be nonzero" else .ok s
    | some _ => .error ("invalid suffix in --parallel argument '" ++ toText value ++ "'")
    | none => .error ("invalid --parallel argument '" ++ toText value ++ "'")
  | "batch-size" =>
    match leadingCount? value with
    | some (n, []) =>
      if n < 2 then
        .error ("invalid --batch-size argument " ++ cited value ++
          "\nsort: minimum --batch-size argument is '2'")
      else .ok s
    | some _ => .error ("invalid suffix in --batch-size argument '" ++ toText value ++ "'")
    | none => .error ("invalid --batch-size argument '" ++ toText value ++ "'")
  | "t" => do
    let tab ← match value with
      | [] => .error "empty tab"
      | [x] => pure x
      | ['\\', '0'] => pure '\x00'
      | t => .error ("multi-character tab " ++ cited t)
    if s.separator.any (· ≠ tab) then .error "incompatible tabs"
    else .ok { s with separator := some tab }
  | key => .ok { s with manner := (Manner.read true true key.toList s.manner).1 }

/-- The keys once all options are known: what a key does not say holds for all, and if there are no
keys, all of a line can be one. -/
def Style.complete (s : Style) : Except String Style :=
  let keys := s.keys.map fun k => if k.manner.isPlain && !k.manner.has 'r' then
      { k with manner := s.manner } else k
  let keys := if keys.isEmpty && !s.manner.isPlain then [{ manner := s.manner }] else keys
  match keys.findSome? (·.manner.conflict?) with
  | some letters => .error ("options '-" ++ letters ++ "' are incompatible")
  | none => .ok { s with keys }

/-- Keeps the first of lines in a row that are the same. -/
def firstOfEach (same : Line → Line → Bool) : List Line → List Line
  | [] => []
  | [a] => [a]
  | a :: b :: rest =>
    if same a b then firstOfEach same (a :: rest) else a :: firstOfEach same (b :: rest)
termination_by ls => ls.length

end Sorting

open Sorting in
def sort : Program := fun c args =>
  withArguments c.name (.ofString "bcCdfghik:mMno:rRsS:t:T:uVy:z"
    ["ignore-leading-blanks|b", "check?", "compress-program=", "debug", "dictionary-order|d",
     "ignore-case|f", "files0-from=", "general-numeric-sort|g", "ignore-nonprinting|i", "key=|k",
     "merge|m", "month-sort|M", "numeric-sort|n", "human-numeric-sort|h", "version-sort|V",
     "random-sort|R", "random-source=", "sort=", "output=|o", "reverse|r", "stable|s", "batch-size=",
     "buffer-size=", "field-separator=|t", "temporary-directory=|T", "unique|u",
     "zero-terminated|z", "parallel="]) 2 false args
    fun a => do
    let fail (message : String) : Run Nat := do
      Run.complain (c.name ++ ": " ++ message)
      return 2
    let meant (o : String × Chars) : Except String (String × Chars) := do
      match o.1 with
      | "sort" =>
        return (← choose "--sort" [(["general-numeric"], "g"), (["human-numeric"], "h"),
          (["month"], "M"), (["numeric"], "n"), (["random"], "R"), (["version"], "V")] o.2, [])
      | "check" =>
        if o.2.isEmpty then return ("c", [])
        return (← choose "--check" [(["quiet", "silent"], "C"), (["diagnose-first"], "c")] o.2, [])
      | _ => return o
    match a.options.mapM meant with
    | .error message => return ← misuse c.name message
    | .ok options =>
      let idle := ["m", "s", "u", "y", "z", "T", "debug", "compress-program", "random-source",
        "files0-from"]
      match ((options.filter fun o => !(idle.contains o.1)).foldlM Style.take {}) with
      | .error message => fail message
      | .ok s =>
        let refuse (path : Chars) (e : FileError) : Run Nat :=
          if e = .isADirectory then fail ("cannot read file names from " ++ quoted path)
          else fail ("open failed: " ++ shownPath path ++ ": " ++ e.reason)
        let operands ← match ← namesFrom? c.name 2 refuse a with
          | .error status => return status
          | .ok none => pure a.operands
          | .ok (some names) =>
            let path := (a.value? "files0-from").getD []
            let isWrong (n : Chars) : Bool := n = ['-'] || n.isEmpty
            match names.findIdx? isWrong with
            | some i =>
              return ← fail (if (names.getD i []).isEmpty then
                shownPath path ++ ":" ++ toString (i + 1) ++ ": invalid zero-length file name"
              else "when reading file names from stdin, no file name of '-' allowed")
            | none =>
              if names.isEmpty then return ← fail ("no input from " ++ quoted path)
              pure names
        match s.complete with
        | .error message => fail message
        | .ok s => work c.name fail s a operands
where
  work (name : String) (fail : String → Run Nat) (s : Style) (a : Arguments)
      (operands : List Chars) : Run Nat := do
    let mark := if a.has "z" then '\x00' else '\n'
    let isUnique := a.has "u"
    let order := s.compare (isUnique || a.has "s")
    let operands := if operands.isEmpty then [['-']] else operands
    let read (path : Chars) : Run (Except Nat (List Sorting.Line)) := do
      match ← readOperand path with
      | .ok text => return .ok ((linesOf mark text).map s.line)
      | .error e =>
        let what := if e = .isADirectory then "read failed: " else "open failed: "
        return .error (← fail (what ++ shownPath path ++ ": " ++ e.reason))
    match s.check with
    | some way =>
      match operands with
      | _ :: extra :: _ =>
        fail ("extra operand " ++ quoted extra ++ " not allowed with -" ++ String.singleton way)
      | _ =>
        if s.output.isSome then
          return ← fail ("options '-" ++ String.singleton way ++ "o' are incompatible")
        let path := operands.headD ['-']
        match ← read path with
        | .error status => return status
        | .ok ls =>
          let isWrong (x y : Sorting.Line) : Bool :=
            order x y = .gt || (isUnique && order x y = .eq)
          match (ls.zip (ls.drop 1)).findIdx? fun (x, y) => isWrong x y with
          | none => return 0
          | some i =>
            if way = 'c' then
              Run.complain (name ++ ": " ++ toText path ++ ":" ++ toString (i + 2) ++
                ": disorder: " ++ toText ((ls[i + 1]?).map (·.text) |>.getD []))
            return 1
    | none =>
      let t ← Run.tree
      for path in operands do
        match if path = ['-'] then .ok () else (t.find (toText path)).map fun _ => () with
        | .ok () => pure ()
        | .error e => return ← fail ("cannot read: " ++ shownPath path ++ ": " ++ e.reason)
      match s.output with
      | none => pure ()
      | some path =>
        match ← Run.writeFile path .append [] with
        | .ok () => pure ()
        | .error e => return ← fail ("open failed: " ++ shownPath path ++ ": " ++ e.reason)
      let mut texts : List (List Sorting.Line) := []
      for path in operands do
        match ← read path with
        | .ok ls => texts := ls :: texts
        | .error status => return status
      let precedes (x y : Sorting.Line) : Bool := order x y ≠ .gt
      let sorted := if a.has "m" then
          texts.reverse.foldl (fun (xs ys : List Sorting.Line) => xs.merge ys precedes) []
        else texts.reverse.flatten.mergeSort precedes
      let kept := if isUnique then firstOfEach (fun x y => order x y = .eq) sorted else sorted
      let text := unlines mark (kept.map (·.text))
      match s.output with
      | none =>
        match ← Run.write 1 text with
        | .ok () => return 0
        | .error e => fail ("write failed: 'standard output': " ++ e.reason)
      | some path =>
        match ← Run.writeFile path .write text with
        | .ok () => return 0
        | .error e => fail ("open failed: " ++ shownPath path ++ ": " ++ e.reason)

/-! ## Words before others -/

namespace Precedence

/-- A word: how many are still to come before it, the words behind it, whether it is written, and the
word that comes before it in a search for a loop. -/
structure Word where
  text : Chars
  waiting : Nat := 0
  behind : List Nat := []
  isDone : Bool := false
  link : Option Nat := none
  deriving Inhabited

/-- The words by their order, and from which one a search for a loop goes on. -/
structure Words where
  all : Array Word
  seeker : Option Nat := none

namespace Words

def get (w : Words) (i : Nat) : Word := w.all.getD i default

def modify (w : Words) (i : Nat) (f : Word → Word) : Words := { w with all := w.all.modify i f }

/-- The words of pairs, of which the first come before the second. -/
def ofPairs (ps : List (Chars × Chars)) : Words :=
  let names := Bytes.sorted (ps.flatMap fun (a, b) => [a, b]).eraseDups
  ps.foldl (fun w (a, b) =>
    match names.idxOf? a, names.idxOf? b with
    | some i, some j =>
      if i = j then w
      else (w.modify j fun x => { x with waiting := x.waiting + 1 }).modify i fun x =>
        { x with behind := j :: x.behind }
    | _, _ => w) ⟨(names.map fun n => { text := n }).toArray, none⟩

/-- Writes words for which nothing is waited any more, and those that become free by that. -/
def release : (room : Nat) → List Nat → List Chars → Words → List Chars × Words
  | 0, _, found, w => (found.reverse, w)
  | _, [], found, w => (found.reverse, w)
  | room + 1, i :: queue, found, w =>
    let w := w.modify i fun x => { x with isDone := true }
    let (freed, w) := (w.get i).behind.foldl (fun (s : List Nat × Words) j =>
      let w := s.2.modify j fun x => { x with waiting := x.waiting - 1 }
      (if (w.get j).waiting = 0 then j :: s.1 else s.1, w)) ([], w)
    release room (queue ++ freed.reverse) ((w.get i).text :: found) w

/-- Ends a search: the links from a word on are forgotten. -/
def unlink : (room : Nat) → Option Nat → Words → Words
  | room + 1, some i, w => unlink room (w.get i).link (w.modify i fun x => { x with link := none })
  | _, _, w => w

/-- The words of a loop from a word on up to another one. Those before that are no longer linked. -/
def loopTo (last : Nat) : (room : Nat) → Option Nat → List Chars → Words →
    List Chars × Option Nat × Words
  | room + 1, some i, found, w =>
    let found := (w.get i).text :: found
    if i = last then (found.reverse, some i, w)
    else loopTo last room (w.get i).link found (w.modify i fun x => { x with link := none })
  | _, at?, found, w => (found.reverse, at?, w)

/-- A step of the search for a loop at a word: if it comes before the one from which the search goes
on, it is linked to that, and if it is linked already, there is a loop, which is broken there. -/
def seek (i : Nat) (w : Words) : Option (List Chars) × Words :=
  let x := w.get i
  if x.waiting = 0 then (none, w)
  else
    match w.seeker with
    | none => (none, { w with seeker := some i })
    | some j =>
      if !(x.behind.contains j) then (none, w)
      else if x.link.isNone then
        (none, { w.modify i fun x => { x with link := some j } with seeker := some i })
      else
        let (found, at?, w) := loopTo i (w.all.size + 1) (some j) [] w
        let w := if at?.isNone then w else
          (w.modify j fun x => { x with waiting := x.waiting - 1 }).modify i fun x =>
            { x with behind := x.behind.erase j }
        let w := unlink (w.all.size + 1) at? w
        (some found, { w with seeker := none })

/-- Searches for a loop among all words, until one is found and broken. -/
def breakLoop : (room : Nat) → Words → List Chars × Words
  | 0, w => ([], w)
  | room + 1, w =>
    let (found?, w) := (List.range w.all.size).foldl (fun (s : Option (List Chars) × Words) i =>
      if s.1.isSome then s else seek i s.2) (none, w)
    match found? with
    | some found => (found, w)
    | none => if w.seeker.isNone then ([], w) else breakLoop room w

/-- The words that can be written now. -/
def free (w : Words) : List Nat :=
  (List.range w.all.size).filter fun i => (w.get i).waiting = 0 && !(w.get i).isDone

end Words

def isWhite (ch : Char) : Bool := [' ', '\t', '\n'].contains ch

def pairs : List Chars → List (Chars × Chars)
  | x :: y :: rest => (x, y) :: pairs rest
  | _ => []

/-- Writes all words in their order, with a complaint for each loop. -/
def writeAll (name shown : String) : (room : Nat) → (good : Bool) → Words → Run Nat
  | 0, good, _ => return if good then 0 else 1
  | room + 1, good, w => do
    let (found, w) := w.release (w.all.size + 1) w.free []
    let _ ← out name (unlines '\n' found)
    if w.all.all (·.isDone) then return if good then 0 else 1
    let _ ← complain name (shown ++ ": input contains a loop:")
    let (loop, w) := w.breakLoop (2 * w.all.size * w.all.size + 2)
    for word in loop do
      let _ ← complain name (toText word)
    writeAll name shown room false w

end Precedence

open Precedence in
def tsort : Program := fun c args =>
  withArguments c.name (.ofString "" []) 1 false args fun a => do
    match a.operands with
    | _ :: extra :: _ => refuseOperand c.name extra
    | operands =>
      let path := operands.headD ['-']
      match ← readOperand path with
      | .error .isADirectory => complain c.name (shownPath path ++ ": read error: Is a directory")
      | .error e => complainOf c.name path e
      | .ok text =>
        let words := (text.splitOnP isWhite).filter (!·.isEmpty)
        if words.length % 2 = 1 then
          return ← complain c.name (shownPath path ++ ": input contains an odd number of tokens")
        writeAll c.name (shownPath path) (words.length + 1) true (.ofPairs (pairs words))

/-! ## No order -/

/-- Reads the first and the last number of a range. -/
def readRange? (t : Chars) : Option (Nat × Nat) :=
  match leadingCount? t with
  | some (m, '-' :: rest) =>
    match leadingCount? rest with
    | some (n, []) => if m ≤ n + 1 then some (m, n) else none
    | _ => none
  | _ => none

/-- Puts lines into an order of no meaning. -/
def shuf : Program := fun c args =>
  withArguments c.name (.ofString "ei:n:o:rz"
    ["echo|e", "input-range=|i", "head-count=|n", "output=|o", "random-source=", "repeat|r",
     "zero-terminated|z"]) 1 false args fun a => do
    let mark := if a.has "z" then '\x00' else '\n'
    if 1 < (a.values "i").length then return ← complain c.name "multiple -i options specified"
    let range ← match a.value? "i" with
      | none => pure none
      | some t =>
        match readRange? t with
        | some r => pure (some r)
        | none => return ← complain c.name ("invalid input range: " ++ cited t)
    match (a.values "n").find? fun t => (leadingCount? t).all fun r => !r.2.isEmpty with
    | some t => return ← complain c.name ("invalid line count: " ++ cited t)
    | none => pure ()
    let wanted := ((a.values "n").filterMap fun t => (leadingCount? t).map (·.1)).min?
    match a.values "o" with
    | path :: more =>
      if !(more.all (· = path)) then return ← complain c.name "multiple output files specified"
    | [] => pure ()
    if a.has "e" && range.isSome then return ← misuse c.name "cannot combine -e and -i options"
    let surplus := if range.isSome then a.operands else if a.has "e" then [] else a.operands.drop 1
    match surplus with
    | extra :: _ => return ← refuseOperand c.name extra
    | [] => pure ()
    let ls ←
      if wanted = some 0 then pure []
      else match range with
        | some (m, n) => pure ((List.range (n + 1 - m)).map fun i => Nat.toDigits 10 (m + i))
        | none =>
          if a.has "e" then pure a.operands
          else
            let path := a.operands.headD ['-']
            match ← readOperand path with
            | .ok text => pure (linesOf mark text)
            | .error e =>
              return ← if e = .isADirectory then complain c.name ("read error: " ++ e.reason)
                else complainOf c.name path e
    let write (text : Chars) : Run Nat := do
      match a.value? "o" with
      | none => out c.name text
      | some path =>
        match ← Run.writeFile path .write text with
        | .ok () => return 0
        | .error e => complainOf c.name path e
    if a.has "r" then
      if ls.isEmpty && wanted ≠ some 0 then return ← complain c.name "no lines to repeat"
      let turns := (wanted.getD maxLines + ls.length - 1) / max 1 ls.length
      forEver write (wanted.getD maxLines) (unlines mark ls) mark turns
    else write (unlines mark (ls.reverse.take (wanted.getD ls.length)))
where
  /-- Writes lines again and again, up to a number of them. -/
  forEver (write : Chars → Run Nat) (wanted : Nat) (text : Chars) (mark : Char) : Nat → Run Nat
    | 0 => return 0
    | turns + 1 => do
      let (shown, left) := upTo mark text wanted
      let status ← write shown
      if status ≠ 0 || left = 0 then return status
      forEver write left text mark turns
  /-- The start of a text with so many lines, and how many are still wanted behind it. -/
  upTo (mark : Char) : Chars → Nat → Chars × Nat
    | [], wanted => ([], wanted)
    | _, 0 => ([], 0)
    | ch :: cs, wanted + 1 =>
      let (t, left) := upTo mark cs (if ch = mark then wanted else wanted + 1)
      (ch :: t, left)

end Provision.Program
